import Mathlib.Algebra.Ring.Nat
import SocketBridge.Proofs.Bridge.Silence
import SocketBridge.Proofs.Metrics

/-!
# Counters and records

The counters of a bridge are raised beside the places where records are pushed and where bytes come
and go. What a step counts is what it pushes and receives, so what a run has counted can be read off
its records and the bytes that the host gave.
-/

namespace SocketBridge

variable {α : Type}

namespace Completion

/-- What kind of call a record is from. -/
def kind : Completion α → Operation
  | connect _ => .connect
  | accept _ => .accept
  | write _ => .write
  | read _ => .read

/-- Whether a record completes an operation with success or with a failure. The first record of an
accept call completes none: it hands the listener over. -/
def completes (op : Operation) (ok : Bool) (c : Completion α) : Bool :=
  c.kind = op ∧ c.error.isNone = ok ∧ c.listener = none

/-- How many bytes a record says were written. -/
def bytesWritten : Completion α → Nat
  | write r => r.bytesWritten
  | _ => 0

end Completion

namespace World

/-- The bytes that the host delivers in a step. It is asked for some only by the read of a socket
that is not cancelled, and gives no more than there is room for. -/
def delivers (w : World α) : Step α → List UInt8
  | .pollRead n answer =>
    match w.sockets[n]?, answer.ready with
    | some s, some (.ok bytes) =>
      if s.cancelled then [] else s.reading.elim [] fun r => bytes.take r.buffer.free
    | _, _ => []
  | _ => []

/-- All bytes that the host delivers in a run. -/
def delivered : World α → List (Step α) → List UInt8 := history delivers

end World

/-- A read counts what the host delivers, whatever its decoder makes of that. -/
theorem ReadLoop.received_turn (r : ReadLoop α) (cancelled : Bool)
    (answer : Poll (List UInt8) String) :
    (r.turn cancelled answer).received =
      match answer.ready with
      | some (.ok bytes) => if cancelled then [] else bytes.take r.buffer.free
      | _ => [] := by
  cases cancelled with
  | true =>
    rw [turn_cancelled]
    split <;> rfl
  | false =>
    obtain ⟨cancels, ready⟩ := answer
    rcases ready with _ | text | bytes
    · rfl
    · cases cancels <;> rfl
    · simp only [turn, race, Option.map_some, Bool.false_eq_true, if_false, List.isEmpty_iff]
      split
      · rename_i nothing
        rw [nothing, finish]
        split <;> rfl
      · exact r.received_receive _

/-- What is marked at one place tells of the records pushed there and of the bytes received, and of
nothing else. -/
structure Mark.Accounts (marks : List Mark) (records : List (Nat × Completion α)) (received : Nat) :
    Prop where
  completions : ∀ op ok, (marks.map (adds (.completions op.label (outcomeLabel ok)))).sum =
    records.countP fun r => r.2.completes op ok
  written : (marks.map (adds (.bytes "written"))).sum = (records.map fun r => r.2.bytesWritten).sum
  read : (marks.map (adds (.bytes "read"))).sum = received

namespace Mark

variable {marks : List Mark} {records : List (Nat × Completion α)}

theorem accounts_nil : Accounts [] ([] : List (Nat × Completion α)) 0 := by
  constructor <;> simp

/-- A completion is marked under the kind of its record, by whether the record has an error. -/
theorem accounts_completion {op : Operation} {ok : Bool} {c : Completion α} (kind : c.kind = op)
    (outcome : c.error.isNone = ok) (unlisted : c.listener = none) (unwritten : c.bytesWritten = 0)
    (queue : Nat) : Accounts [.completion op ok] [(queue, c)] 0 := by
  constructor
  · intro op' ok'
    simp [Completion.completes, kind, outcome, unlisted, List.countP_cons]
  · simp [unwritten]
  · simp

/-- The bytes of a turn are marked before anything else. -/
theorem Accounts.bytesRead (accounts : Accounts marks records 0) (n : Nat) :
    Accounts (.bytesRead n :: marks) records n := by
  constructor
  · simpa using accounts.completions
  · simpa using accounts.written
  · simpa using accounts.read

/-- A write that the host carried out is marked with the bytes that its record names. -/
theorem accounts_written (r : WriteRecord) (n : Nat) (outcome : r.error = none)
    (told : r.bytesWritten = n) (queue : Nat) :
    Accounts [.completion .write true, .bytesWritten n] [(queue, (.write r : Completion α))] 0 := by
  constructor
  · intro op ok
    simp [Completion.completes, Completion.kind, Completion.error, Completion.listener, outcome,
      List.countP_cons]
  · simp [Completion.bytesWritten, told]
  · simp

/-- The first record of an accept loop is told without a mark. -/
theorem accounts_listening {r : AcceptRecord} (listed : r.listener.isSome) (queue : Nat) :
    Accounts [] [(queue, (.accept r : Completion α))] 0 := by
  have counted (op : Operation) (ok : Bool) :
      (Completion.accept r : Completion α).completes op ok = false := by
    simp [Completion.completes, Completion.listener, Option.isSome_iff_ne_none.mp listed]
  constructor
  · intro op ok
    simp [counted]
  · rfl
  · rfl

end Mark

/-- A turn of a read marks its bytes, and the record that it tells. -/
theorem ReadLoop.accounts_turn (r : ReadLoop α) (cancelled : Bool)
    (answer : Poll (List UInt8) String) (queue : Nat) :
    Mark.Accounts (r.turn cancelled answer).marks
      ((r.turn cancelled answer).record.map fun record => (queue, .read record)).toList
      (r.turn cancelled answer).received.length := by
  generalize outcome : r.turn cancelled answer = turn
  cases outcome ▸ r.turn_does cancelled answer with
  | waits | stops => exact Mark.accounts_nil
  | closes record =>
    refine Mark.accounts_completion ?_ ?_ ?_ ?_ queue <;> rfl
  | receives bytes _ _ turn received =>
    cases received with
    | rejects | overflows | moves =>
      refine (Mark.accounts_completion ?_ ?_ ?_ ?_ queue).bytesRead _ <;> rfl
    | keeps => exact Mark.accounts_nil.bytesRead _

/-- A turn of a writer marks the record that it tells, with the bytes taken if there is no error. -/
theorem Writer.accounts_turn (w : Writer) (cancelled unreachable : Bool)
    (answer : Poll Nat String) :
    Mark.Accounts (w.turn cancelled unreachable answer).marks
      ((w.turn cancelled unreachable answer).record.map fun r =>
        (r.1.queue, (.write r.2 : Completion α))).toList 0 := by
  cases cancelled with
  | true => exact Mark.accounts_nil
  | false =>
    obtain ⟨commands, running, taken, halfClosed⟩ := w
    rcases commands with _ | ⟨⟨data, task⟩ | _, rest⟩
    · exact Mark.accounts_nil
    · simp only [turn]
      rcases race false answer with _ | outcome
      · exact Mark.accounts_nil
      · cases outcome with
        | cancelled => exact Mark.accounts_nil
        | failed text => refine Mark.accounts_completion ?_ ?_ ?_ ?_ _ <;> rfl
        | succeeded n => exact Mark.accounts_written _ n rfl rfl task.queue
    · simp only [turn]
      rcases race false answer with _ | _ | _ | _ <;> exact Mark.accounts_nil

/-- What the counters become when records are pushed and bytes are received. -/
structure Metrics.Tallies (m m' : Metrics) (records : List (Nat × Completion α)) (received : Nat) :
    Prop where
  completions : ∀ op ok, m'.count (.completions op.label (outcomeLabel ok)) =
    m.count (.completions op.label (outcomeLabel ok)) +
      records.countP fun r => r.2.completes op ok
  written : m'.count (.bytes "written") =
    m.count (.bytes "written") + (records.map fun r => r.2.bytesWritten).sum
  read : m'.count (.bytes "read") = m.count (.bytes "read") + received

namespace Metrics

variable {m m' m'' : Metrics} {records more : List (Nat × Completion α)} {received later : Nat}

theorem Tallies.of_counts (same : m'.counts = m.counts) :
    m.Tallies m' ([] : List (Nat × Completion α)) 0 := by
  constructor <;> simp [count, same]

theorem Tallies.trans (first : m.Tallies m' records received) (second : m'.Tallies m'' more later) :
    m.Tallies m'' (records ++ more) (received + later) := by
  constructor
  · intro op ok
    rw [second.completions, first.completions, List.countP_append, Nat.add_assoc]
  · rw [second.written, first.written, List.map_append, List.sum_append, Nat.add_assoc]
  · rw [second.read, first.read, Nat.add_assoc]

/-- What is marked where records are pushed is what the counters tell of them. -/
theorem Tallies.of_marks (same : m'.counts = m.counts) {marks : List Mark}
    (accounts : Mark.Accounts marks records received) :
    m.Tallies (marks.foldl mark m') records received := by
  have before (c : Counter) : m'.count c = m.count c := by rw [count, same, count]
  constructor
  · intro op ok
    rw [count_marks, before, accounts.completions]
  · rw [count_marks, before, accounts.written]
  · rw [count_marks, before, accounts.read]

end Metrics

namespace World

variable (w : World α) {e : Step α}

/-- Steps that carry on no operation count nothing. -/
theorem counts_of_unowned (unowned : e.owner? = none) :
    (w.step e).metrics.counts = w.metrics.counts := by
  cases e with
  | addBridge config =>
    simp only [step, addBridge]
    split <;> rfl
  | listen bridge address backlog answer =>
    simp only [step, listen]
    split
    · rfl
    · cases answer <;> rfl
  | dropListener l =>
    simp only [step, dropListener]
    split
    · rfl
    · split
      · rfl
      · split <;> rfl
  | dropSocket n =>
    simp only [step, dropSocket]
    split
    · rfl
    · split
      · rfl
      · split <;> rfl
  | shutdownWrite n =>
    simp only [step, shutdownWrite]
    split
    · rfl
    · split <;> rfl
  | take queue =>
    simp only [step, take]
    split
    · rfl
    · rename_i c _ _
      cases c.connection <;> cases c.listener <;> rfl
  | connect | cancelConnect | cancelListener | cloneListener | cancelSocket | cloneSocket => rfl
  | accept | read | write | pollConnect | pollAccept | pollRead | pollWrite => cases unowned

theorem delivers_of_unowned (unowned : e.owner? = none) : w.delivers e = [] := by
  cases e with
  | pollRead => cases unowned
  | _ => rfl

variable {w}

/-- A step that changes nothing counts nothing. -/
theorem tallies_of_same (same : w.step e = w) (dry : w.delivers e = []) :
    w.metrics.Tallies (w.step e).metrics (w.pushes e) (w.delivers e).length := by
  rw [pushes_of_same (congrArg queues same), dry, same]
  exact .of_counts rfl

theorem tallies_accept (l : Nat) (task : Task) :
    w.metrics.Tallies (w.step (.accept l task)).metrics (w.pushes (.accept l task)) 0 := by
  cases found : w.listeners[l]? with
  | none => exact tallies_of_same (by simp [step, accept, found]) rfl
  | some x =>
    by_cases held : x.held = 0
    · exact tallies_of_same (by simp [step, accept, found, held]) rfl
    · rw [pushes_eq (queues_accept found task), if_neg held]
      have told : w.metrics.Tallies w.metrics [(task.queue, (.accept
          { schedulee := task.schedulee, listener := some l } : Completion α))] 0 :=
        .of_marks rfl (Mark.accounts_listening rfl task.queue)
      simp only [step, accept, found, if_neg held]
      split <;> exact told

theorem tallies_read (n : Nat) (decoder : Decoder α) (task : Task) :
    w.metrics.Tallies (w.step (.read n decoder task)).metrics (w.pushes (.read n decoder task))
      0 := by
  rw [pushes_of_same (w.queues_read n decoder task)]
  refine .of_counts ?_
  simp only [step, World.read]
  split
  · rfl
  · split
    · rfl
    · split <;> rfl

theorem tallies_write (n : Nat) (data : List UInt8) (task : Task) :
    w.metrics.Tallies (w.step (.write n data task)).metrics (w.pushes (.write n data task)) 0 := by
  cases found : w.sockets[n]? with
  | none => exact tallies_of_same (by simp [step, write, found]) rfl
  | some s =>
    rw [pushes_eq (queues_write found data task)]
    simp only [step, write, found]
    by_cases held : s.held = 0
    · simp only [held, true_or, if_true]
      exact .of_counts rfl
    · cases running : s.writer.running with
      | true =>
        simp only [held, if_false, if_true, true_or, or_true]
        exact .of_counts rfl
      | false =>
        cases live : s.cancelled with
        | true =>
          simp only [held, if_false, if_true, or_true, Bool.false_eq_true]
          exact .of_counts rfl
        | false =>
          simp only [held, if_false, or_false, Bool.false_eq_true]
          refine .of_marks rfl (Mark.accounts_completion ?_ ?_ ?_ ?_ task.queue) <;> rfl

theorem tallies_pollConnect (c : Nat) (answer : ConnectAnswer) :
    w.metrics.Tallies (w.step (.pollConnect c answer)).metrics (w.pushes (.pollConnect c answer))
      0 := by
  cases found : w.connects[c]? with
  | none => exact tallies_of_same (by simp [step, pollConnect, found]) rfl
  | some slot =>
    obtain ⟨bridge, cancelled, running⟩ := slot
    cases running with
    | none => exact tallies_of_same (by simp [step, pollConnect, found]) rfl
    | some running =>
      rw [pushes_eq (queues_pollConnect found rfl answer)]
      simp only [step, pollConnect, found]
      split <;> rename_i result <;> rw [result]
      · exact .of_counts rfl
      · refine .of_marks ?_ (Mark.accounts_completion ?_ ?_ ?_ ?_ _) <;> rfl
      · refine .of_marks ?_ (Mark.accounts_completion ?_ ?_ ?_ ?_ _) <;> rfl

theorem tallies_pollAccept (l i : Nat) (answer : Poll (Except String Link) String) :
    w.metrics.Tallies (w.step (.pollAccept l i answer)).metrics (w.pushes (.pollAccept l i answer))
      0 := by
  cases found : w.listeners[l]? with
  | none => exact tallies_of_same (by simp [step, pollAccept, found]) rfl
  | some x =>
    rcases running : x.loops[i]? with _ | _ | task
    · exact tallies_of_same (by simp [step, pollAccept, found, running]) rfl
    · exact tallies_of_same (by simp [step, pollAccept, found, running]) rfl
    · rw [pushes_eq (queues_pollAccept found running answer)]
      simp only [step, pollAccept, found, running]
      split <;> rename_i result <;> rw [result]
      · exact .of_counts rfl
      · refine .of_marks ?_ (Mark.accounts_completion ?_ ?_ ?_ ?_ _) <;> rfl
      · refine .of_marks ?_ (Mark.accounts_completion ?_ ?_ ?_ ?_ _) <;> rfl

theorem delivers_pollRead {n : Nat} {s : Socket α} {r : ReadLoop α}
    (found : w.sockets[n]? = some s) (reading : s.reading = some r)
    (answer : Poll (List UInt8) String) :
    w.delivers (.pollRead n answer) = (r.turn s.cancelled answer).received := by
  rw [r.received_turn, delivers, found]
  rcases answer.ready with _ | text | bytes
  · rfl
  · rfl
  · simp only [reading, Option.elim_some]

theorem tallies_pollRead (n : Nat) (answer : Poll (List UInt8) String) :
    w.metrics.Tallies (w.step (.pollRead n answer)).metrics (w.pushes (.pollRead n answer))
      (w.delivers (.pollRead n answer)).length := by
  cases found : w.sockets[n]? with
  | none => exact tallies_of_same (by simp [step, pollRead, found]) (by simp [delivers, found])
  | some s =>
    cases reading : s.reading with
    | none =>
      obtain ⟨guard, link, held, flag, readable, _, writer⟩ := s
      obtain rfl := reading
      refine tallies_of_same (by simp [step, pollRead, found]) ?_
      rw [delivers, found]
      rcases answer.ready with _ | text | bytes <;> simp
    | some r =>
      rw [pushes_eq (queues_pollRead found answer), delivers_pollRead found reading]
      obtain ⟨guard, link, held, flag, readable, _, writer⟩ := s
      obtain rfl := reading
      simp only [step, pollRead, found, Option.bind_some]
      have told := r.accounts_turn flag answer r.task.queue
      split <;> exact .of_marks rfl told

theorem tallies_pollWrite (n : Nat) (answer : Poll Nat String) :
    w.metrics.Tallies (w.step (.pollWrite n answer)).metrics (w.pushes (.pollWrite n answer))
      0 := by
  cases found : w.sockets[n]? with
  | none => exact tallies_of_same (by simp [step, pollWrite, found]) rfl
  | some s =>
    cases running : s.writer.running with
    | false => exact tallies_of_same (by simp [step, pollWrite, found, running]) rfl
    | true =>
      rw [pushes_eq (queues_pollWrite found answer), if_pos running]
      simp only [step, pollWrite, found, running, if_true]
      have told := s.writer.accounts_turn s.cancelled (w.socketHandles n == 0) answer (α := α)
      split <;> exact .of_marks rfl told

/-- What any step counts. -/
theorem tallies_step (w : World α) (e : Step α) :
    w.metrics.Tallies (w.step e).metrics (w.pushes e) (w.delivers e).length := by
  cases owned : e.owner? with
  | none =>
    rw [w.pushes_of_unowned owned, w.delivers_of_unowned owned]
    exact .of_counts (w.counts_of_unowned owned)
  | some owner =>
    cases e with
    | accept l task => exact tallies_accept l task
    | read n decoder task => exact tallies_read n decoder task
    | write n data task => exact tallies_write n data task
    | pollConnect c answer => exact tallies_pollConnect c answer
    | pollAccept l i answer => exact tallies_pollAccept l i answer
    | pollRead n answer => exact tallies_pollRead n answer
    | pollWrite n answer => exact tallies_pollWrite n answer
    | _ => cases owned

/-- What a run counts. -/
theorem tallies_run (w : World α) (steps : List (Step α)) :
    ∃ records, (w.run steps).queues.pushed = w.queues.pushed ++ records ∧
      w.metrics.Tallies (w.run steps).metrics records (w.delivered steps).length := by
  induction steps generalizing w with
  | nil => exact ⟨[], (List.append_nil _).symm, .of_counts rfl⟩
  | cons e steps ih =>
    obtain ⟨records, pushed, tallies⟩ := ih (w.step e)
    refine ⟨w.pushes e ++ records, ?_, ?_⟩
    · rw [run_cons, pushed, pushed_step, List.append_assoc]
    · rw [delivered, history, List.length_append]
      exact (w.tallies_step e).trans tallies

end World

end SocketBridge
