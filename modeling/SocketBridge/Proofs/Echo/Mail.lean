import SocketBridge.Proofs.Bridge.Writes
import SocketBridge.Proofs.Echo.Homes
import SocketBridge.Proofs.Echo.Serving

/-!
# The mail of a token

Of the records that wait for the scheduler, each token has its own. A step of the bridge changes the
state in which an open connection is served only if it is about its socket; then it leads from one
such state to another.
-/

namespace SocketBridge

variable {home : Nat → Option Nat} {token : Nat}

namespace Completion

def readFor (token : Nat) : Completion (List UInt8) → Option (ReadRecord (List UInt8))
  | .read q => if q.schedulee = token then some q else none
  | _ => none

def writeFor (token : Nat) : Completion (List UInt8) → Option WriteRecord
  | .write q => if q.schedulee = token then some q else none
  | _ => none

theorem for_of_stream {c : Completion (List UInt8)} (other : c.stream? ≠ some token) :
    c.readFor token = none ∧ c.writeFor token = none := by
  cases c with
  | connect | accept => exact ⟨rfl, rfl⟩
  | read q =>
    have apart : q.schedulee ≠ token := fun same => other (congrArg some same)
    exact ⟨if_neg apart, rfl⟩
  | write q =>
    have apart : q.schedulee ≠ token := fun same => other (congrArg some same)
    exact ⟨rfl, if_neg apart⟩

end Completion

theorem Queues.contents_append {β : Type} (q : Queues β) (told : List (Nat × β)) (queue : Nat) :
    (q.append told).contents queue =
      q.contents queue ++ (told.filter (·.1 == queue)).map Prod.snd := by
  simp [contents, append]

theorem filter_eraseP {β : Type} (p : β → Bool) (l : List β) :
    (l.eraseP p).filter p = (l.filter p).tail := by
  induction l with
  | nil => rfl
  | cons a l ih =>
    cases own : p a with
    | true => simp [own]
    | false => simp [own, ih]

/-- The data of a write. -/
def Performed.data? (p : Performed) : Option (List UInt8) :=
  match p.command with
  | .write data _ => some data
  | .shutdown => none

namespace World

/-- The records of a token's read that wait. -/
def readsFor (token : Nat) (w : World (List UInt8)) : List (ReadRecord (List UInt8)) :=
  (w.queues.contents 0).filterMap (Completion.readFor token)

/-- The records of a token's writes that wait. -/
def writesFor (token : Nat) (w : World (List UInt8)) : List WriteRecord :=
  (w.queues.contents 0).filterMap (Completion.writeFor token)

/-- How a bridge serves an open connection. -/
def Serves (w : World (List UInt8)) (token : Nat) (c : EchoConnection)
    (written : List (List UInt8)) : Prop :=
  ∃ s, w.sockets[c.socket]? = some s ∧
    c.Served token s (w.readsFor token) (w.writesFor token) written

variable {w : World (List UInt8)} {e : Step (List UInt8)} {c : EchoConnection}
  {written : List (List UInt8)}

/-- The oldest record of a queue is taken from its front. -/
theorem contents_take {queue : Nat} {record : Completion (List UInt8)}
    (taken : (w.take queue).2 = some record) :
    w.queues.contents queue = record :: (w.take queue).1.queues.contents queue := by
  obtain ⟨rest, split⟩ := List.head?_eq_some_iff.mp (head_of_take taken)
  rcases w.queues_take queue with queues | ⟨empty, -⟩
  · have tail : (w.take queue).1.queues.contents queue = (w.queues.contents queue).tail := by
      rw [queues]
      simp only [Queues.contents, filter_eraseP, List.map_tail]
    rw [tail, split, List.tail_cons]
  · cases empty.symm.trans split

theorem mail_take (token : Nat) {record : Completion (List UInt8)}
    (taken : (w.take 0).2 = some record) :
    w.readsFor token = (record.readFor token).toList ++ (w.take 0).1.readsFor token ∧
      w.writesFor token = (record.writeFor token).toList ++ (w.take 0).1.writesFor token := by
  simp only [readsFor, writesFor, contents_take taken, List.filterMap_cons]
  refine ⟨?_, ?_⟩
  · cases record.readFor token <;> rfl
  · cases record.writeFor token <;> rfl

/-- What a step pushes comes behind the mail. -/
theorem mail_step (token : Nat) (w : World (List UInt8)) (kept : ∀ queue, e ≠ .take queue) :
    (w.step e).readsFor token = w.readsFor token ++
      (((w.pushes e).filter (·.1 == 0)).map Prod.snd).filterMap (Completion.readFor token) ∧
    (w.step e).writesFor token = w.writesFor token ++
      (((w.pushes e).filter (·.1 == 0)).map Prod.snd).filterMap (Completion.writeFor token) := by
  rw [readsFor, writesFor, queues_step kept, Queues.contents_append, List.filterMap_append,
    List.filterMap_append]
  exact ⟨rfl, rfl⟩

/-- A step that pushes nothing for a token leaves its mail. -/
theorem mail_of_silent (kept : ∀ queue, e ≠ .take queue)
    (silent : ∀ r ∈ w.pushes e, r.2.stream? ≠ some token) :
    (w.step e).readsFor token = w.readsFor token ∧
      (w.step e).writesFor token = w.writesFor token := by
  have nothing {β : Type} {f : Completion (List UInt8) → Option β}
      (unread : ∀ c : Completion (List UInt8), c.stream? ≠ some token → f c = none) :
      (((w.pushes e).filter (·.1 == 0)).map Prod.snd).filterMap f = [] := by
    refine List.filterMap_eq_nil_iff.mpr fun c member => ?_
    obtain ⟨r, pushed, rfl⟩ := List.mem_map.mp member
    exact unread _ (silent r (List.mem_filter.mp pushed).1)
  obtain ⟨reads, writes⟩ := mail_step token w kept
  rw [reads, writes, nothing fun _ other => (Completion.for_of_stream other).1,
    nothing fun _ other => (Completion.for_of_stream other).2, List.append_nil, List.append_nil]
  exact ⟨rfl, rfl⟩

end World

/-- More handles onto its socket do not change how a connection is served. -/
theorem EchoConnection.Served.hold {c : EchoConnection} {s : Socket (List UInt8)}
    {reads : List (ReadRecord (List UInt8))} {writes : List WriteRecord}
    {written : List (List UInt8)} (served : c.Served token s reads writes written) {held : Nat}
    (more : s.held ≤ held) : c.Served token { s with held } reads writes written where
  held := Nat.ne_of_gt (Nat.lt_of_lt_of_le (Nat.pos_of_ne_zero served.held) more)
  live := served.live
  running := served.running
  reading := served.reading
  writing := served.writing
  idle := served.idle
  undone := served.undone

namespace World

variable {w : World (List UInt8)} {e : Step (List UInt8)} {c : EchoConnection}
  {written : List (List UInt8)}

/-- A step that is about another socket serves on. -/
theorem Serves.apart (serves : w.Serves token c written) (housed : w.Housed home)
    (homed : home token = some c.socket) (within : e.Within home)
    (kept : ∀ queue, e ≠ .take queue) (other : e.socket? ≠ some c.socket)
    (undropped : e ≠ .dropSocket c.socket) : (w.step e).Serves token c written := by
  obtain ⟨s, found, served⟩ := serves
  obtain ⟨s', found', moves⟩ := moves_step found e
  have silent : ∀ r ∈ w.pushes e, r.2.stream? ≠ some token := fun r pushed stream => by
    obtain ⟨n, about, homed'⟩ := housed.socket_of_tells within (tells_of_pushes pushed) stream
    exact other (about.trans (homed'.symm.trans homed))
  obtain ⟨reads, writes⟩ := mail_of_silent kept silent
  refine ⟨s', found', ?_⟩
  rw [reads, writes]
  cases moves with
  | apart e held _ more => exact served.hold (more undropped)
  | ignores e own => exact absurd own other
  | reads | writes | shuts | cancels | readTurn | writeTurn => exact absurd rfl other

/-- To take a record does nothing to a connection but that the record waits no more. -/
theorem Serves.take (serves : w.Serves token c written) (queue : Nat) :
    ∃ s, (w.take queue).1.sockets[c.socket]? = some s ∧
      c.Served token s (w.readsFor token) (w.writesFor token) written := by
  obtain ⟨s, found, served⟩ := serves
  obtain ⟨s', found', moves⟩ := moves_take found queue
  refine ⟨s', found', ?_⟩
  cases moves with
  | apart e held _ more => exact served.hold (more nofun)
  | ignores e own => cases own

/-- The mail that a poll of a running read makes. -/
theorem pushes_pollRead {n : Nat} {s : Socket (List UInt8)} {r : ReadLoop (List UInt8)}
    (found : w.sockets[n]? = some s) (live : s.cancelled = false) (reading : s.reading = some r)
    (queue : r.task.queue = 0) (answer : Poll (List UInt8) String) :
    w.pushes (.pollRead n answer) =
      (r.turn false answer).record.toList.map fun q => (0, .read q) := by
  rw [pushes_eq (queues_pollRead found answer), reading, Option.bind_some, live, queue]
  cases (r.turn false answer).record <;> rfl

/-- A poll of the read serves on. -/
theorem Serves.pollRead (serves : w.Serves token c written)
    {answer : Poll (List UInt8) String} (live : answer.cancels = false) :
    (w.step (.pollRead c.socket answer)).Serves token c written := by
  obtain ⟨s, found, served⟩ := serves
  obtain ⟨s', found', moves⟩ := moves_pollRead found answer
  obtain ⟨reads, writes⟩ := mail_step token w (e := .pollRead c.socket answer) nofun
  refine ⟨s', found', ?_⟩
  cases moves with
  | apart e held other => exact absurd rfl other
  | ignores e own unread =>
    have unread : s.reading = none := unread
    have silent := pushes_eq (queues_pollRead found answer)
    simp only [unread, Option.bind_none, Option.toList_none] at silent
    rw [reads, writes, silent]
    simpa using served
  | readTurn r reading answer =>
    have side := served.reading
    rw [reading] at side
    obtain ⟨owner, queue, -⟩ := side.own
    have told := (r.schedulee_turn false answer).2
    have turned := side.turn live
    rw [reads, writes, pushes_pollRead found served.live reading queue answer, live, served.live,
      Socket.cancelIf_false]
    generalize r.turn false answer = turn at told turned
    refine ⟨served.held, rfl, served.running, ?_, ?_, served.idle, served.undone⟩
    · cases record : turn.record with
      | none => simpa [record] using turned
      | some q => simpa [record, Completion.readFor, (told q record).trans owner] using turned
    · cases record : turn.record with
      | none => simpa using served.writing
      | some q => simpa [List.filterMap_cons, Completion.writeFor] using served.writing

/-- A poll of the writer serves on: it may carry out the write in line, which is the one in
flight. -/
theorem Serves.pollWrite (serves : w.Serves token c written)
    {answer : Poll Nat String} (live : answer.cancels = false) :
    (w.step (.pollWrite c.socket answer)).Serves token c
      (written ++ (w.performs c.socket (.pollWrite c.socket answer)).filterMap
        Performed.data?) := by
  obtain ⟨s, found, served⟩ := serves
  obtain ⟨s', found', moves⟩ := moves_pollWrite found answer
  obtain ⟨reads, writes⟩ := mail_step token w (e := .pollWrite c.socket answer) nofun
  have advances := advances_pollWrite found served.live served.running answer live
  have line := advances.line
  rw [w.issues_of_uncommanded (n := c.socket) (e := .pollWrite c.socket answer) rfl,
    List.append_nil] at line
  have told := advances.told
  refine ⟨s', found', ?_⟩
  rw [reads, writes, pushes_pollWrite found answer]
  cases moves with
  | apart e held other => exact absurd rfl other
  | ignores e own closed => exact nomatch served.running.symm.trans closed
  | writeTurn _ answer =>
    have open_ : (s.writer.turn s.cancelled (w.socketHandles c.socket == 0) answer).next.running =
        true := by
      refine (Bool.not_eq_false _).mp fun closed => served.held ?_
      exact ((socketHandles_eq_zero found).mp (advances.stopped closed).2).1
    rw [live, Socket.cancelIf_false]
    generalize (s.writer.turn s.cancelled (w.socketHandles c.socket == 0) answer).next = b
      at line open_
    rcases w.performs_cases c.socket (.pollWrite c.socket answer) with none | ⟨p, one⟩
    · rw [none] at told line
      rw [none, told]
      refine ⟨served.held, served.live, open_, ?_, ?_, served.idle, served.undone⟩
      · simpa using served.reading
      · simpa [show b.commands = s.writer.commands from line] using served.writing
    · rw [one] at told line
      have side := served.writing
      rw [← line] at side
      obtain ⟨data, flight, command, rest, mail⟩ := side.head
      obtain ⟨r, record, owner⟩ := p.record_of_write command
      have sent : p.data? = some data := by simp [Performed.data?, command]
      rw [one, told]
      refine ⟨served.held, served.live, open_, ?_, ?_, served.idle, served.undone⟩
      · simpa [record, List.filterMap_cons, Completion.readFor] using served.reading
      · rw [flight, mail]
        have rest : b.commands = [] := rest
        simpa [record, owner, rest, sent, List.filterMap_cons, Completion.writeFor]
          using WriteSide.told data r (written ++ [data]) written rfl

end World

end SocketBridge
