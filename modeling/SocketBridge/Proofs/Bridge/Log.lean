import SocketBridge.Proofs.Bridge.Step

/-!
# The log of a run

Every record is pushed by a step, and every step that pushes one carries on an operation on one
socket, listener or connect. The log of a run keeps this owner beside each record. It is computed
from the queues alone.
-/

namespace SocketBridge

variable {α : Type}

/-- An address of the host itself, for runs of its own. -/
def SocketAddr.near (port : UInt16) : SocketAddr := .v4 ⟨[127, 0, 1, 1], rfl⟩ port

/-- On what an operation runs. -/
inductive Owner
  | socket (socket : Nat)
  | listener (listener : Nat)
  | connect (connect : Nat)
deriving DecidableEq

/-- Whose operation a step starts or carries on. All other steps push nothing. -/
def Step.owner? : Step α → Option Owner
  | .read n _ _ | .write n _ _ | .pollRead n _ | .pollWrite n _ => some (.socket n)
  | .accept l _ | .pollAccept l _ _ => some (.listener l)
  | .pollConnect c _ => some (.connect c)
  | _ => none

/-- Queues with more records behind those that there are. -/
def Queues.append {β : Type} (q : Queues β) (told : List (Nat × β)) : Queues β :=
  ⟨q.pushed ++ told, q.waiting ++ told⟩

@[simp] theorem Queues.append_nil {β : Type} (q : Queues β) : q.append [] = q := by
  simp [append]

/-- A record with the number of its queue and with whose it is. -/
structure LogEntry (α : Type) where
  owner : Owner
  queue : Nat
  record : Completion α

/-- The record of how an accept ended, which names the socket if one was opened. -/
def AcceptRecord.ofResult (schedulee socket : Nat) : Except String Link → AcceptRecord
  | .error text => { schedulee, error := some text }
  | .ok _ => { schedulee, connection := some socket }

/-- The record of how a connect ended, which names the socket if one was opened. -/
def ConnectRecord.ofResult (schedulee socket : Nat) : Except String Link → ConnectRecord
  | .error text => { schedulee, error := some text }
  | .ok _ => { schedulee, connection := some socket }

namespace World

/-- The records that a step pushes. -/
def pushes (w : World α) (e : Step α) : List (Nat × Completion α) :=
  (w.step e).queues.pushed.drop w.queues.pushed.length

def entries (w : World α) (e : Step α) : List (LogEntry α) :=
  match e.owner? with
  | none => []
  | some owner => (w.pushes e).map fun r => ⟨owner, r.1, r.2⟩

/-- What the steps of a run add to a history, each in the world that it finds. -/
def history {β : Type} (added : World α → Step α → List β) (w : World α) : List (Step α) → List β
  | [] => []
  | e :: steps => added w e ++ history added (w.step e) steps

/-- All records that a run pushes, oldest first. -/
def log : World α → List (Step α) → List (LogEntry α) := history entries

variable (w : World α)

@[simp] theorem run_nil : w.run [] = w := rfl

@[simp] theorem run_cons (e : Step α) (steps : List (Step α)) :
    w.run (e :: steps) = (w.step e).run steps := rfl

theorem run_append (past future : List (Step α)) :
    w.run (past ++ future) = (w.run past).run future := List.foldl_append

theorem run_concat (past : List (Step α)) (e : Step α) :
    w.run (past ++ [e]) = (w.run past).step e := run_append ..

theorem history_append {β : Type} (added : World α → Step α → List β)
    (past future : List (Step α)) :
    history added w (past ++ future) =
      history added w past ++ history added (w.run past) future := by
  induction past generalizing w with
  | nil => rfl
  | cons e past ih => simp only [List.cons_append, history, run_cons, ih, List.append_assoc]

/-- One step more. -/
theorem history_concat {β : Type} (added : World α → Step α → List β) (past : List (Step α))
    (e : Step α) :
    history added w (past ++ [e]) = history added w past ++ added (w.run past) e := by
  rw [history_append, history, history, List.append_nil]

variable {w} {e : Step α}

theorem pushes_eq {told : List (Nat × Completion α)}
    (grown : (w.step e).queues = w.queues.append told) : w.pushes e = told := by
  rw [pushes, grown, Queues.append, List.drop_left]

@[simp] theorem queues_emit (queue : Nat) (c : Completion α) :
    (w.emit queue c).queues = w.queues.append [(queue, c)] := rfl

@[simp] theorem queues_tellConnect (task : Task) (record : ConnectRecord) :
    (w.tellConnect task record).queues = w.queues.append [(task.queue, .connect record)] := rfl

@[simp] theorem queues_modifySocket (n : Nat) (f : Socket α → Socket α) :
    (w.modifySocket n f).queues = w.queues := rfl

@[simp] theorem queues_modifyListener (l : Nat) (f : Listener → Listener) :
    (w.modifyListener l f).queues = w.queues := rfl

@[simp] theorem queues_modifyConnect (c : Nat) (f : ConnectSlot → ConnectSlot) :
    (w.modifyConnect c f).queues = w.queues := rfl

@[simp] theorem queues_spawn (s : Spawned) : (w.spawn s).queues = w.queues := rfl

@[simp] theorem queues_release (guard : Guard) : (w.release guard).queues = w.queues := rfl

@[simp] theorem queues_openSocket (bridge : Nat) (link : Link) :
    (w.openSocket bridge link).1.queues = w.queues := rfl

@[simp] theorem snd_openSocket (bridge : Nat) (link : Link) :
    (w.openSocket bridge link).2 = w.sockets.length := rfl

/-- A poll of a read pushes the record of its turn. -/
theorem queues_pollRead {n : Nat} {s : Socket α} (found : w.sockets[n]? = some s)
    (answer : Poll (List UInt8) String) :
    (w.step (.pollRead n answer)).queues = w.queues.append
      (s.reading.bind fun r => (r.turn s.cancelled answer).record.map fun record =>
        (r.task.queue, .read record)).toList := by
  obtain ⟨guard, link, held, flag, readable, reading, writer⟩ := s
  cases reading with
  | none => simp [step, pollRead, found]
  | some r =>
    simp only [step, pollRead, found, Option.bind_some]
    split <;> rename_i record <;> simp [record]

theorem queues_pollWrite {n : Nat} {s : Socket α} (found : w.sockets[n]? = some s)
    (answer : Poll Nat String) :
    (w.step (.pollWrite n answer)).queues = w.queues.append
      (if s.writer.running then
        ((s.writer.turn s.cancelled (w.socketHandles n == 0) answer).record.map fun r =>
          (r.1.queue, .write r.2)).toList
      else []) := by
  cases running : s.writer.running with
  | false => simp [step, pollWrite, found, running]
  | true =>
    simp only [step, pollWrite, found, running, if_true]
    split <;> rename_i record <;> simp [record]

theorem queues_read (w : World α) (n : Nat) (decoder : Decoder α) (task : Task) :
    (w.step (.read n decoder task)).queues = w.queues := by
  simp only [step, World.read]
  split
  · rfl
  · split
    · rfl
    · split <;> rfl

/-- A write pushes a record at once only if the line is closed and the socket is not. -/
theorem queues_write {n : Nat} {s : Socket α} (found : w.sockets[n]? = some s)
    (data : List UInt8) (task : Task) :
    (w.step (.write n data task)).queues = w.queues.append
      (if s.held = 0 ∨ s.writer.running = true ∨ s.cancelled = true then []
      else [(task.queue, .write
        { schedulee := task.schedulee, error := some ChannelError.closed.message })]) := by
  simp only [step, write, found]
  by_cases held : s.held = 0
  · simp [held]
  · cases running : s.writer.running <;> cases live : s.cancelled <;> simp [held]

theorem queues_accept {l : Nat} {x : Listener} (found : w.listeners[l]? = some x) (task : Task) :
    (w.step (.accept l task)).queues = w.queues.append
      (if x.held = 0 then []
      else [(task.queue, .accept { schedulee := task.schedulee, listener := some l })]) := by
  simp only [step, accept, found]
  by_cases held : x.held = 0
  · simp [held]
  · simp only [if_neg held]
    split <;> simp

theorem queues_pollAccept {l i : Nat} {x : Listener} {task : Task}
    (found : w.listeners[l]? = some x) (running : x.loops[i]? = some (some task))
    (answer : Poll (Except String Link) String) :
    (w.step (.pollAccept l i answer)).queues = w.queues.append
      ((acceptTurn x.cancelled answer).result.map fun result =>
        (task.queue, .accept (.ofResult task.schedulee w.sockets.length result))).toList := by
  simp only [step, pollAccept, found, running]
  split <;> rename_i result <;> simp [result, AcceptRecord.ofResult]

theorem queues_pollConnect {c : Nat} {slot : ConnectSlot} {running : Connect}
    (found : w.connects[c]? = some slot) (runs : slot.running = some running)
    (answer : ConnectAnswer) :
    (w.step (.pollConnect c answer)).queues = w.queues.append
      ((running.turn slot.cancelled answer).result.map fun result => (running.task.queue,
        .connect (.ofResult running.task.schedulee w.sockets.length result))).toList := by
  obtain ⟨bridge, cancelled, _⟩ := slot
  obtain rfl := runs
  simp only [step, pollConnect, found]
  split <;> rename_i result <;> simp [result, ConnectRecord.ofResult]

/-- Steps that carry on no operation push nothing. Only a taken record leaves its queue. -/
theorem queues_of_unowned (unowned : e.owner? = none) (kept : ∀ queue, e ≠ .take queue) :
    (w.step e).queues = w.queues := by
  cases e with
  | addBridge config =>
    simp only [step, addBridge]
    split <;> rfl
  | listen bridge address backlog answer =>
    simp only [step, listen]
    split
    · rfl
    · cases answer <;> rfl
  | dropListener l =>
    simp only [step, dropListener]
    split
    · rfl
    · split
      · rfl
      · split <;> rfl
  | dropSocket n =>
    simp only [step, dropSocket]
    split
    · rfl
    · split
      · rfl
      · split <;> rfl
  | shutdownWrite n =>
    simp only [step, shutdownWrite]
    split
    · rfl
    · split <;> rfl
  | take queue => exact absurd rfl (kept queue)
  | connect | cancelConnect | cancelListener | cloneListener | cancelSocket | cloneSocket => rfl
  | accept | read | write | pollConnect | pollAccept | pollRead | pollWrite => cases unowned

/-- A taken record is the oldest of its queue. -/
theorem queues_take (w : World α) (queue : Nat) :
    (w.take queue).1.queues =
      { w.queues with waiting := w.queues.waiting.eraseP (·.1 == queue) } ∨
    (w.queues.contents queue = [] ∧ (w.take queue).1 = w) := by
  unfold take
  split
  · rename_i popped
    obtain ⟨empty, _⟩ := Prod.mk.inj popped
    exact Or.inr ⟨List.head?_eq_none_iff.mp empty, rfl⟩
  · rename_i c queues popped
    obtain ⟨_, rfl⟩ := Prod.mk.inj popped
    refine Or.inl ?_
    cases c.connection <;> cases c.listener <;> rfl

/-- What an operation pushes waits on its queue. -/
theorem exists_append {owner : Owner} (owned : e.owner? = some owner) :
    ∃ told, (w.step e).queues = w.queues.append told := by
  cases e with
  | accept l task =>
    cases found : w.listeners[l]? with
    | none => exact ⟨[], by simp [step, accept, found]⟩
    | some x => exact ⟨_, queues_accept found task⟩
  | read n decoder task => exact ⟨[], by rw [queues_read, Queues.append_nil]⟩
  | write n data task =>
    cases found : w.sockets[n]? with
    | none => exact ⟨[], by simp [step, write, found]⟩
    | some s => exact ⟨_, queues_write found data task⟩
  | pollConnect c answer =>
    cases found : w.connects[c]? with
    | none => exact ⟨[], by simp [step, pollConnect, found]⟩
    | some slot =>
      cases runs : slot.running with
      | none =>
        obtain ⟨bridge, cancelled, _⟩ := slot
        obtain rfl := runs
        exact ⟨[], by simp [step, pollConnect, found]⟩
      | some running => exact ⟨_, queues_pollConnect found runs answer⟩
  | pollAccept l i answer =>
    cases found : w.listeners[l]? with
    | none => exact ⟨[], by simp [step, pollAccept, found]⟩
    | some x =>
      rcases running : x.loops[i]? with _ | _ | task
      · exact ⟨[], by simp [step, pollAccept, found, running]⟩
      · exact ⟨[], by simp [step, pollAccept, found, running]⟩
      · exact ⟨_, queues_pollAccept found running answer⟩
  | pollRead n answer =>
    cases found : w.sockets[n]? with
    | none => exact ⟨[], by simp [step, pollRead, found]⟩
    | some s => exact ⟨_, queues_pollRead found answer⟩
  | pollWrite n answer =>
    cases found : w.sockets[n]? with
    | none => exact ⟨[], by simp [step, pollWrite, found]⟩
    | some s => exact ⟨_, queues_pollWrite found answer⟩
  | _ => cases owned

/-- All that a step does to the queues, a taken record apart. -/
theorem queues_step (kept : ∀ queue, e ≠ .take queue) :
    (w.step e).queues = w.queues.append (w.pushes e) := by
  cases owned : e.owner? with
  | none =>
    have same := queues_of_unowned (w := w) owned kept
    have nothing : w.pushes e = [] := pushes_eq (same.trans w.queues.append_nil.symm)
    rw [nothing, same, Queues.append_nil]
  | some owner =>
    obtain ⟨told, grown⟩ := exists_append (w := w) owned
    rw [pushes_eq grown, grown]

theorem pushes_of_unowned (w : World α) (unowned : e.owner? = none) : w.pushes e = [] := by
  by_cases taken : ∃ queue, e = .take queue
  · obtain ⟨queue, rfl⟩ := taken
    rcases w.queues_take queue with queues | ⟨_, same⟩
    · simp [pushes, step, queues]
    · simp [pushes, step, same]
  · have same := queues_of_unowned (w := w) unowned fun queue he => taken ⟨queue, he⟩
    exact pushes_eq (same.trans w.queues.append_nil.symm)

theorem pushed_step (w : World α) (e : Step α) :
    (w.step e).queues.pushed = w.queues.pushed ++ w.pushes e := by
  by_cases taken : ∃ queue, e = .take queue
  · obtain ⟨queue, rfl⟩ := taken
    rw [w.pushes_of_unowned rfl, List.append_nil, step]
    rcases w.queues_take queue with queues | ⟨_, same⟩
    · rw [queues]
    · rw [same]
  · rw [queues_step fun queue he => taken ⟨queue, he⟩, Queues.append]

theorem mem_entries {entry : LogEntry α} (member : entry ∈ w.entries e) :
    e.owner? = some entry.owner ∧ (entry.queue, entry.record) ∈ w.pushes e := by
  unfold entries at member
  cases owned : e.owner? with
  | none =>
    rw [owned] at member
    cases member
  | some owner =>
    rw [owned] at member
    obtain ⟨r, pushed, rfl⟩ := List.mem_map.mp member
    exact ⟨rfl, pushed⟩

/-- What each record of a step comes from: the start of an accept loop, the turn of an operation, or
a write that finds its line closed. -/
inductive Tells (w : World α) : Step α → Nat × Completion α → Prop
  | accepts {l : Nat} {x : Listener} (task : Task) (found : w.listeners[l]? = some x)
      (held : x.held ≠ 0) :
    Tells w (.accept l task)
      (task.queue, .accept { schedulee := task.schedulee, listener := some l })
  | acceptTurn {l i : Nat} {x : Listener} {task : Task}
      {answer : Poll (Except String Link) String} (result : Except String Link)
      (found : w.listeners[l]? = some x) (running : x.loops[i]? = some (some task))
      (turned : (acceptTurn x.cancelled answer).result = some result) :
    Tells w (.pollAccept l i answer)
      (task.queue, .accept (.ofResult task.schedulee w.sockets.length result))
  | connectTurn {c : Nat} {slot : ConnectSlot} {running : Connect} {answer : ConnectAnswer}
      (result : Except String Link) (found : w.connects[c]? = some slot)
      (runs : slot.running = some running)
      (turned : (running.turn slot.cancelled answer).result = some result) :
    Tells w (.pollConnect c answer)
      (running.task.queue,
        .connect (.ofResult running.task.schedulee w.sockets.length result))
  | readTurn {n : Nat} {s : Socket α} {r : ReadLoop α} {answer : Poll (List UInt8) String}
      (record : ReadRecord α) (found : w.sockets[n]? = some s) (reading : s.reading = some r)
      (turned : (r.turn s.cancelled answer).record = some record) :
    Tells w (.pollRead n answer) (r.task.queue, .read record)
  | writeTurn {n : Nat} {s : Socket α} {answer : Poll Nat String} (task : Task)
      (record : WriteRecord) (found : w.sockets[n]? = some s)
      (running : s.writer.running = true)
      (turned : (s.writer.turn s.cancelled (w.socketHandles n == 0) answer).record =
        some (task, record)) :
    Tells w (.pollWrite n answer) (task.queue, .write record)
  | refused {n : Nat} {s : Socket α} (data : List UInt8) (task : Task)
      (found : w.sockets[n]? = some s) (held : s.held ≠ 0)
      (closed : s.writer.running = false) (live : s.cancelled = false) :
    Tells w (.write n data task)
      (task.queue, .write
        { schedulee := task.schedulee, error := some ChannelError.closed.message })

/-- A step that leaves the queues as they are pushes nothing. -/
theorem pushes_of_same (same : (w.step e).queues = w.queues) : w.pushes e = [] :=
  pushes_eq (same.trans w.queues.append_nil.symm)

/-- A step pushes one record or none. -/
theorem pushes_cases (w : World α) (e : Step α) :
    w.pushes e = [] ∨ ∃ r, w.pushes e = [r] ∧ w.Tells e r := by
  cases e with
  | accept l task =>
    cases found : w.listeners[l]? with
    | none => exact .inl (pushes_of_same (by simp [step, accept, found]))
    | some x =>
      rw [pushes_eq (queues_accept found task)]
      split
      · exact .inl rfl
      · exact .inr ⟨_, rfl, .accepts task found ‹_›⟩
  | read n decoder task => exact .inl (pushes_of_same (w.queues_read n decoder task))
  | write n data task =>
    cases found : w.sockets[n]? with
    | none => exact .inl (pushes_of_same (by simp [step, write, found]))
    | some s =>
      rw [pushes_eq (queues_write found data task)]
      split
      · exact .inl rfl
      · rename_i refused
        simp only [not_or, Bool.not_eq_true] at refused
        obtain ⟨held, closed, live⟩ := refused
        exact .inr ⟨_, rfl, .refused data task found held closed live⟩
  | pollConnect c answer =>
    cases found : w.connects[c]? with
    | none => exact .inl (pushes_of_same (by simp [step, pollConnect, found]))
    | some slot =>
      cases runs : slot.running with
      | none =>
        obtain ⟨bridge, cancelled, _⟩ := slot
        obtain rfl := runs
        exact .inl (pushes_of_same (by simp [step, pollConnect, found]))
      | some running =>
        rw [pushes_eq (queues_pollConnect found runs answer)]
        cases turned : (running.turn slot.cancelled answer).result with
        | none => exact .inl rfl
        | some result => exact .inr ⟨_, rfl, .connectTurn result found runs turned⟩
  | pollAccept l i answer =>
    cases found : w.listeners[l]? with
    | none => exact .inl (pushes_of_same (by simp [step, pollAccept, found]))
    | some x =>
      rcases running : x.loops[i]? with _ | _ | task
      · exact .inl (pushes_of_same (by simp [step, pollAccept, found, running]))
      · exact .inl (pushes_of_same (by simp [step, pollAccept, found, running]))
      · rw [pushes_eq (queues_pollAccept found running answer)]
        cases turned : (SocketBridge.acceptTurn x.cancelled answer).result with
        | none => exact .inl rfl
        | some result => exact .inr ⟨_, rfl, .acceptTurn result found running turned⟩
  | pollRead n answer =>
    cases found : w.sockets[n]? with
    | none => exact .inl (pushes_of_same (by simp [step, pollRead, found]))
    | some s =>
      rw [pushes_eq (queues_pollRead found answer)]
      cases reading : s.reading with
      | none => exact .inl rfl
      | some r =>
        rw [Option.bind_some]
        cases turned : (r.turn s.cancelled answer).record with
        | none => exact .inl rfl
        | some record => exact .inr ⟨_, rfl, .readTurn record found reading turned⟩
  | pollWrite n answer =>
    cases found : w.sockets[n]? with
    | none => exact .inl (pushes_of_same (by simp [step, pollWrite, found]))
    | some s =>
      rw [pushes_eq (queues_pollWrite found answer)]
      split
      · rename_i running
        cases turned : (s.writer.turn s.cancelled (w.socketHandles n == 0) answer).record with
        | none => exact .inl rfl
        | some told => exact .inr ⟨_, rfl, .writeTurn told.1 told.2 found running turned⟩
      · exact .inl rfl
  | _ => exact .inl (w.pushes_of_unowned rfl)

theorem tells_of_pushes {r : Nat × Completion α} (pushed : r ∈ w.pushes e) : w.Tells e r := by
  rcases w.pushes_cases e with silent | ⟨told, one, tells⟩
  · rw [silent] at pushed
    cases pushed
  · rw [one] at pushed
    obtain rfl := List.mem_singleton.mp pushed
    exact tells

/-- The log leaves no record out. -/
theorem pushed_run (w : World α) (steps : List (Step α)) :
    (w.run steps).queues.pushed =
      w.queues.pushed ++ (w.log steps).map fun entry => (entry.queue, entry.record) := by
  induction steps generalizing w with
  | nil => simp [log, history]
  | cons e steps ih =>
    have here : w.pushes e = (w.entries e).map fun entry => (entry.queue, entry.record) := by
      unfold entries
      cases owned : e.owner? with
      | none => exact w.pushes_of_unowned owned
      | some owner => simp [Function.comp_def]
    rw [run_cons, ih, pushed_step, here, log, history, List.map_append, List.append_assoc]

end World

end SocketBridge
