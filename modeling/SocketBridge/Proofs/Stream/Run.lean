import SocketBridge.Bridge.Step
import SocketBridge.Proofs.Stream.Buffer

/-!
# Runs of a read

A run is a list of events: the socket is cancelled, or the read is polled and the host answers.
What the host put into the buffer, the calls of the decoder and the records are kept. One read of a
bridge goes through such a run, and its records are put on the queue of its task.
-/

namespace SocketBridge

namespace DecodeCall

variable {α : Type}

/-- How many of the bytes it was shown a decoder consumed. -/
def consumed (c : DecodeCall α) : Nat :=
  match c.answer with
  | .error _ => 0
  | .ok (_, reported) => min reported c.filled.length

/-- The payload of a call that consumed something. -/
def payload? (c : DecodeCall α) : Option α :=
  match c.answer with
  | .error _ => none
  | .ok (payload, _) => if c.consumed = 0 then none else some payload

end DecodeCall

/-- What may happen to a read. -/
inductive ReadEvent
  | cancel
  | poll (answer : Poll (List UInt8) String)

/-- A read with all that came of it so far, oldest first. A read that ended leaves nothing. -/
structure ReadRun (α : Type) where
  reading : Option (ReadLoop α)
  cancelled : Bool := false
  chunks : List (List UInt8) := []
  calls : List (DecodeCall α) := []
  records : List (ReadRecord α) := []

namespace ReadLoop

variable {α : Type} (r : ReadLoop α) (received : List UInt8)

/-- The read that holds new bytes back. -/
def keep : ReadLoop α :=
  { r with buffer := r.buffer.put received, shown := r.shown ++ [(r.decode received).filled] }

/-- The read whose decoder consumed some of what it held. -/
def move : ReadLoop α :=
  { r.keep received with
    task := r.task.advance
    buffer := (r.buffer.put received).consume (r.decode received).consumed }

/-- What may come of new bytes: the decoder fails, a full buffer is of no use, the bytes are held
back, or there is a payload. -/
inductive Receives : ReadTurn α → Prop
  | rejects (e : DecodeError) (answer : (r.decode received).answer = .error e) :
    Receives
      { record := some (r.failure e.message), received, call := some (r.decode received),
        marks := [.bytesRead received.length, .completion .read false] }
  | overflows (pair : α × Nat) (answer : (r.decode received).answer = .ok pair)
      (idle : (r.decode received).consumed = 0)
      (full : (r.buffer.put received).filled = r.buffer.size) :
    Receives
      { record := some (r.failure (DecodeError.bufferFull r.buffer.size).message), received,
        call := some (r.decode received),
        marks := [.bytesRead received.length, .completion .read false] }
  | keeps (pair : α × Nat) (answer : (r.decode received).answer = .ok pair)
      (idle : (r.decode received).consumed = 0)
      (room : (r.buffer.put received).filled < r.buffer.size) :
    Receives
      { next := some (r.keep received), received, call := some (r.decode received),
        marks := [.bytesRead received.length] }
  | moves (payload : α) (emitted : (r.decode received).payload? = some payload)
      (progress : 0 < (r.decode received).consumed) :
    Receives
      { next := some (r.move received), record := some (r.data payload), received,
        call := some (r.decode received),
        marks := [.bytesRead received.length, .completion .read true] }

theorem length_decode :
    (r.decode received).filled.length = (r.buffer.put received).filled :=
  (r.buffer.put received).length_held

theorem receive_does : r.Receives received (r.receive received) := by
  cases answer : (r.decode received).answer with
  | error e =>
    simp only [receive, answer]
    exact .rejects e answer
  | ok pair =>
    have consumed : (r.decode received).consumed = min pair.2 (r.buffer.put received).filled := by
      simp only [DecodeCall.consumed, answer, length_decode]
    simp only [receive, answer, ← consumed]
    by_cases idle : (r.decode received).consumed = 0
    · rw [if_pos idle]
      by_cases full : (r.buffer.put received).filled = r.buffer.size
      · rw [if_pos (by exact full), full]
        exact .overflows pair answer idle full
      · rw [if_neg (by exact full)]
        have bound := (r.buffer.put received).filled_le_size
        exact .keeps pair answer idle (Nat.lt_of_le_of_ne bound full)
    · rw [if_neg idle]
      have emitted : (r.decode received).payload? = some pair.1 := by
        simp only [DecodeCall.payload?, answer, if_neg idle]
      exact .moves pair.1 emitted (Nat.pos_of_ne_zero idle)

@[simp] theorem received_receive : (r.receive received).received = received := by
  cases h : r.receive received with
  | mk next record bytes call marks => cases h ▸ r.receive_does received <;> rfl

/-- What may come of one poll: nothing yet, a silent end, a last record, or new bytes. -/
inductive Turns (cancelled : Bool) (answer : Poll (List UInt8) String) : ReadTurn α → Prop
  | waits (pending : race cancelled answer = none) : Turns cancelled answer { next := some r }
  | stops (stopped : race cancelled answer = some .cancelled) : Turns cancelled answer {}
  | closes (record : ReadRecord α) (last : record = r.ending ∨ ∃ text, record = r.failure text)
      (going : race cancelled answer ≠ some .cancelled) :
    Turns cancelled answer
      { record := some record, marks := [.completion .read record.error.isNone] }
  | receives (bytes : List UInt8) (came : race cancelled answer = some (.succeeded bytes))
      (nonempty : bytes.take r.buffer.free ≠ []) (turn : ReadTurn α)
      (outcome : r.Receives (bytes.take r.buffer.free) turn) : Turns cancelled answer turn

theorem turn_does (cancelled : Bool) (answer : Poll (List UInt8) String) :
    r.Turns cancelled answer (r.turn cancelled answer) := by
  cases outcome : race cancelled answer with
  | none =>
    simp only [turn, outcome]
    exact .waits outcome
  | some outcome' =>
    cases outcome' with
    | cancelled =>
      simp only [turn, outcome]
      exact .stops outcome
    | failed text =>
      simp only [turn, outcome]
      exact .closes _ (.inr ⟨text, rfl⟩) (by rw [outcome]; nofun)
    | succeeded bytes =>
      have going : race cancelled answer ≠ some .cancelled := by rw [outcome]; nofun
      simp only [turn, outcome, List.isEmpty_iff]
      by_cases nothing : bytes.take r.buffer.free = []
      · rw [if_pos nothing, finish]
        split
        · exact .closes _ (.inr ⟨_, rfl⟩) going
        · exact .closes _ (.inl rfl) going
      · rw [if_neg nothing]
        exact .receives bytes outcome nothing _ (r.receive_does _)

end ReadLoop

namespace ReadRun

variable {α : Type}

def start (task : Task) (decoder : Decoder α) (size : Nat) : ReadRun α :=
  { reading := some (.start task decoder size) }

/-- Keeps what came of a turn, during which the socket may have been cancelled. -/
def settle (run : ReadRun α) (turn : ReadTurn α) (cancels : Bool) : ReadRun α where
  reading := turn.next
  cancelled := run.cancelled || cancels
  chunks := if turn.received.isEmpty then run.chunks else run.chunks ++ [turn.received]
  calls := run.calls ++ turn.call.toList
  records := run.records ++ turn.record.toList

def step (run : ReadRun α) : ReadEvent → ReadRun α
  | .cancel => { run with cancelled := true }
  | .poll answer =>
    match run.reading with
    | none => run
    | some r => run.settle (r.turn run.cancelled answer) answer.cancels

def run (run : ReadRun α) : List ReadEvent → ReadRun α
  | [] => run
  | e :: events => (run.step e).run events

theorem run_append (run : ReadRun α) (past future : List ReadEvent) :
    run.run (past ++ future) = (run.run past).run future := by
  induction past generalizing run with
  | nil => rfl
  | cons e past ih => exact ih _

theorem step_poll {run : ReadRun α} {r : ReadLoop α} (running : run.reading = some r)
    (answer : Poll (List UInt8) String) :
    run.step (.poll answer) = run.settle (r.turn run.cancelled answer) answer.cancels := by
  simp only [step, running]

/-- After its end nothing comes of a read. -/
theorem run_of_ended {run : ReadRun α} (ended : run.reading = none) (events : List ReadEvent) :
    ∃ cancelled, run.run events = { run with cancelled } := by
  induction events generalizing run with
  | nil => exact ⟨run.cancelled, rfl⟩
  | cons e events ih =>
    cases e with
    | cancel => exact @ih { run with cancelled := true } ended
    | poll answer =>
      have same : run.step (.poll answer) = run := by simp only [step, ended]
      simpa only [ReadRun.run, same] using ih ended

/-- A read that ends does so at one of its polls. -/
theorem exists_end {run : ReadRun α} (running : run.reading.isSome) {events : List ReadEvent}
    (ended : (run.run events).reading = none) :
    ∃ past answer future, events = past ++ .poll answer :: future ∧
      (run.run past).reading.isSome ∧ ((run.run past).step (.poll answer)).reading = none := by
  induction events generalizing run with
  | nil =>
    change run.reading = none at ended
    rw [ended] at running
    cases running
  | cons e events ih =>
    by_cases going : (run.step e).reading.isSome
    · obtain ⟨past, answer, future, rfl, before, after⟩ := ih going ended
      exact ⟨e :: past, answer, future, rfl, before, after⟩
    · cases e with
      | cancel => exact absurd running going
      | poll answer =>
        have ended := Option.not_isSome_iff_eq_none.mp going
        exact ⟨[], answer, events, rfl, running, ended⟩

/-- A read that is cancelled while it goes on tells nothing more. -/
theorem run_of_cancelled {run : ReadRun α} (cancelled : run.cancelled = true)
    (events : List ReadEvent) :
    (run.run events).calls = run.calls ∧ (run.run events).records = run.records := by
  induction events generalizing run with
  | nil => exact ⟨rfl, rfl⟩
  | cons e events ih =>
    cases e with
    | cancel => exact @ih { run with cancelled := true } rfl
    | poll answer =>
      cases running : run.reading with
      | none =>
        have same : run.step (.poll answer) = run := by simp only [step, running]
        simpa only [ReadRun.run, same] using ih cancelled
      | some r =>
        have stopped : (run.step (.poll answer)).calls = run.calls ∧
            (run.step (.poll answer)).records = run.records := by
          rw [step_poll running]
          simp [settle, ReadLoop.turn, race, cancelled]
        have flag : (run.step (.poll answer)).cancelled = true := by
          rw [step_poll running]
          simp [settle, cancelled]
        have later := ih flag
        exact ⟨later.1.trans stopped.1, later.2.trans stopped.2⟩

/-- What holds of a run and is kept by cancellation and by every turn holds of all that follows. -/
theorem preserved {P : ReadRun α → Prop} {run : ReadRun α} (holds : P run)
    (flag : ∀ run cancelled, P run → P { run with cancelled })
    (turn : ∀ run r answer turn, P run → run.reading = some r →
      r.Turns run.cancelled answer turn → P (run.settle turn answer.cancels))
    (events : List ReadEvent) : P (run.run events) := by
  induction events generalizing run with
  | nil => exact holds
  | cons e events ih =>
    refine ih ?_
    cases e with
    | cancel => exact flag run true holds
    | poll answer =>
      cases running : run.reading with
      | none => simpa only [step, running] using holds
      | some r =>
        rw [step_poll running]
        exact turn run r answer _ holds running (r.turn_does run.cancelled answer)

end ReadRun

namespace World

variable {α : Type}

@[simp] theorem sockets_mark (w : World α) (marks : List Mark) :
    (w.mark marks).sockets = w.sockets := rfl

@[simp] theorem queues_mark (w : World α) (marks : List Mark) :
    (w.mark marks).queues = w.queues := rfl

/-- A read that a bridge starts is at the start of its run, with the buffer size of the bridge. -/
theorem read_start {w : World α} {socket : Nat} {s : Socket α} (decoder : Decoder α) (task : Task)
    (found : w.sockets[socket]? = some s) (held : s.held ≠ 0) (live : s.cancelled = false)
    (free : s.readable = true) :
    let run := ReadRun.start task decoder (w.buffers.getD s.guard.tracker 0)
    ∃ s', (w.read socket decoder task).1.sockets[socket]? = some s' ∧
      s'.reading = run.reading ∧ s'.cancelled = run.cancelled := by
  simp [read, found, held, live, free, modifySocket, spawn, ReadRun.start]

/-- Polling a read in a bridge is a step of its run, whose record goes to the queue of its task. -/
theorem pollRead_step {w : World α} {socket : Nat} {s : Socket α} {r : ReadLoop α}
    {run : ReadRun α} (found : w.sockets[socket]? = some s) (reading : s.reading = some r)
    (running : run.reading = some r) (cancelled : s.cancelled = run.cancelled)
    (answer : Poll (List UInt8) String) :
    (∃ s', (w.pollRead socket answer).sockets[socket]? = some s' ∧
      s'.reading = (run.step (.poll answer)).reading ∧
      s'.cancelled = (run.step (.poll answer)).cancelled) ∧
    ∃ records, (run.step (.poll answer)).records = run.records ++ records ∧
      (w.pollRead socket answer).queues.pushed
        = w.queues.pushed ++ records.map fun record => (r.task.queue, .read record) := by
  obtain ⟨guard, link, held, flag, readable, read, writer⟩ := s
  simp only at reading cancelled
  subst reading cancelled
  rw [ReadRun.step_poll running]
  simp only [pollRead, found]
  constructor
  · split <;> by_cases cancels : answer.cancels = true <;>
      simp [ReadRun.settle, emit, modifySocket, Socket.cancel, found, cancels]
  · refine ⟨_, rfl, ?_⟩
    split <;> rename_i record <;> simp [record, emit, modifySocket, Queues.push]

end World

end SocketBridge
