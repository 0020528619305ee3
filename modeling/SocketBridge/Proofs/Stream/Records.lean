import SocketBridge.Proofs.Stream.Run

/-!
# The records of a read

A read numbers its data from zero without gaps, and after them comes one more record at most: the
end of the stream, which bears the next number, or an error. Nothing comes of a read that is found
cancelled.
-/

namespace SocketBridge

variable {α : Type}

/-- The records of payloads, numbered from zero. -/
def dataRecords (schedulee : Nat) (payloads : List α) : List (ReadRecord α) :=
  payloads.mapIdx fun i payload =>
    { schedulee, payload := some payload, sequence := some i }

/-- The record of a stream that ended after so many data. -/
def endRecord (schedulee count : Nat) : ReadRecord α := { schedulee, sequence := some count }

def errorRecord (schedulee : Nat) (text : String) : ReadRecord α :=
  { schedulee, error := some text }

theorem dataRecords_snoc (schedulee : Nat) (payloads : List α) (payload : α) :
    dataRecords schedulee (payloads ++ [payload]) = dataRecords schedulee payloads ++
      [{ schedulee, payload := some payload, sequence := some payloads.length }] :=
  List.mapIdx_concat

theorem not_isEndOfStream_of_data {schedulee : Nat} {payloads : List α} {record : ReadRecord α}
    (member : record ∈ dataRecords schedulee payloads) : record.isEndOfStream = false := by
  obtain ⟨i, bound, rfl⟩ := List.mem_mapIdx.mp member
  rfl

theorem DecodeCall.payload?_eq_none {call : DecodeCall α} (idle : call.consumed = 0) :
    call.payload? = none := by
  rw [payload?]
  split
  · rfl
  · exact if_pos idle

namespace ReadRun

/-- The payloads of the calls that consumed something. -/
def payloads (run : ReadRun α) : List α := run.calls.filterMap DecodeCall.payload?

/-- All records of a run are its data, numbered, and then the last record if there is one. -/
def Tells (run : ReadRun α) (schedulee : Nat) (last : Option (ReadRecord α)) : Prop :=
  run.records = dataRecords schedulee run.payloads ++ last.toList

theorem Tells.unique {run : ReadRun α} {schedulee : Nat} {last last' : Option (ReadRecord α)}
    (h : run.Tells schedulee last) (h' : run.Tells schedulee last') : last = last' := by
  have same := List.append_cancel_left (h.symm.trans h')
  cases last <;> cases last' <;> simp_all

/-- A read that goes on has told its data and nothing else, and its task bears the next number. -/
structure Counts (run : ReadRun α) (schedulee queue size : Nat) (r : ReadLoop α) : Prop where
  task : r.task = { schedulee, queue, sequence := run.payloads.length }
  sized : r.buffer.size = size
  tells : run.Tells schedulee none
  sound : ∀ call ∈ run.calls, ∃ pair, call.answer = .ok pair

variable {run : ReadRun α} {schedulee queue size : Nat} {r : ReadLoop α}

theorem payloads_settle {next : Option (ReadLoop α)} {record : Option (ReadRecord α)}
    {received : List UInt8} {call : DecodeCall α} {marks : List Mark} {cancels : Bool} :
    (run.settle { next, record, received, call := some call, marks } cancels).payloads
      = run.payloads ++ call.payload?.toList := by
  cases h : call.payload? <;> simp [payloads, settle, h]

theorem Counts.records (h : run.Counts schedulee queue size r) :
    run.records = dataRecords schedulee run.payloads := by
  have told := h.tells
  rwa [Tells, Option.toList_none, List.append_nil] at told

theorem Counts.keep (h : run.Counts schedulee queue size r) {received : List UInt8}
    {pair : α × Nat} (answer : (r.decode received).answer = .ok pair)
    (idle : (r.decode received).consumed = 0) (cancels : Bool) :
    (run.settle { next := some (r.keep received), received, call := some (r.decode received) }
      cancels).Counts schedulee queue size (r.keep received) where
  task := by
    rw [payloads_settle, DecodeCall.payload?_eq_none idle, Option.toList_none, List.append_nil]
    exact h.task
  sized := h.sized
  tells := by
    rw [Tells, payloads_settle, DecodeCall.payload?_eq_none idle]
    simpa [settle, Tells] using h.tells
  sound call member := by
    rcases List.mem_append.mp member with old | new
    · exact h.sound call old
    · exact ⟨pair, List.mem_singleton.mp new ▸ answer⟩

theorem Counts.move (h : run.Counts schedulee queue size r) {received : List UInt8} {payload : α}
    (emitted : (r.decode received).payload? = some payload) (cancels : Bool) :
    (run.settle { next := some (r.move received), record := some (r.data payload), received,
                  call := some (r.decode received) }
      cancels).Counts schedulee queue size (r.move received) where
  task := by
    rw [payloads_settle, emitted, Option.toList_some, List.length_append, List.length_singleton]
    simp only [ReadLoop.move, h.task, Task.advance]
  sized := h.sized
  tells := by
    rw [Tells, payloads_settle, emitted, Option.toList_some, Option.toList_none, List.append_nil,
      dataRecords_snoc, ← h.records]
    simp only [settle, ReadLoop.data, h.task, Option.toList_some]
  sound call member := by
    rcases List.mem_append.mp member with old | new
    · exact h.sound call old
    · obtain rfl := List.mem_singleton.mp new
      cases answer : (r.decode received).answer with
      | error e =>
        rw [DecodeCall.payload?, answer] at emitted
        cases emitted
      | ok pair => exact ⟨pair, rfl⟩

/-- Whatever happens, a read that goes on keeps count. -/
theorem counts_run (schedulee queue size : Nat) (decoder : Decoder α) (events : List ReadEvent) :
    ∀ r, ((ReadRun.start { schedulee, queue } decoder size).run events).reading = some r →
      ((ReadRun.start { schedulee, queue } decoder size).run events).Counts
        schedulee queue size r := by
  refine preserved (P := fun run => ∀ r, run.reading = some r → run.Counts schedulee queue size r)
    ?_ ?_ ?_ events
  · intro r running
    obtain rfl := Option.some.inj running
    exact ⟨rfl, rfl, rfl, nofun⟩
  · intro run cancelled h r running
    have old := h r running
    exact ⟨old.task, old.sized, old.tells, old.sound⟩
  · intro run r answer turn h running does r' going
    have old := h r running
    cases does with
    | waits pending =>
      obtain rfl := Option.some.inj going
      have quiet : run.settle { next := some r } answer.cancels
          = { run with reading := some r, cancelled := run.cancelled || answer.cancels } := by
        simp [settle]
      rw [quiet]
      exact ⟨old.task, old.sized, old.tells, old.sound⟩
    | stops stopped => cases going
    | closes record last going' => cases going
    | receives bytes came nonempty turn outcome =>
      cases outcome with
      | rejects e answer => cases going
      | overflows pair answer idle full => cases going
      | keeps pair ok idle room =>
        obtain rfl := Option.some.inj going
        exact old.keep ok idle answer.cancels
      | moves payload emitted progress =>
        obtain rfl := Option.some.inj going
        exact old.move emitted answer.cancels

/-- What a run whose read has ended tells, given whether the read was found cancelled. -/
structure Concludes (run : ReadRun α) (schedulee : Nat) (stopped : Prop)
    (last : Option (ReadRecord α)) : Prop where
  tells : run.Tells schedulee last
  silent : last = none ↔ stopped
  kind : ∀ record, last = some record → record = endRecord schedulee run.payloads.length ∨
    ∃ text, record = errorRecord schedulee text
  failed : ∀ call ∈ run.calls, ∀ e, call.answer = .error e →
    last = some (errorRecord schedulee e.message)

theorem Tells.isEndOfStream_iff {last : Option (ReadRecord α)} (h : run.Tells schedulee last)
    (kind : ∀ record, last = some record → record = endRecord schedulee run.payloads.length ∨
      ∃ text, record = errorRecord schedulee text) {record : ReadRecord α}
    (member : record ∈ run.records) :
    record.isEndOfStream = true ↔ record = endRecord schedulee run.payloads.length := by
  constructor
  · intro ends
    rw [h] at member
    rcases List.mem_append.mp member with data | last
    · rw [not_isEndOfStream_of_data data] at ends
      cases ends
    · rcases kind record (by simpa using last) with rfl | ⟨text, rfl⟩
      · rfl
      · cases ends
  · rintro rfl
    rfl

section Last

variable {record : ReadRecord α} {received : List UInt8} {call : Option (DecodeCall α)}
  (idle : ∀ c, call = some c → c.payload? = none) (cancels : Bool)

include idle

theorem payloads_last :
    (run.settle { record := some record, received, call } cancels).payloads = run.payloads := by
  cases call with
  | none => simp [payloads, settle]
  | some c => rw [payloads_settle, idle c rfl, Option.toList_none, List.append_nil]

theorem Counts.tells_last (h : run.Counts schedulee queue size r) :
    (run.settle { record := some record, received, call } cancels).Tells schedulee
      (some record) := by
  rw [Tells, payloads_last idle, ← h.records]
  rfl

theorem Counts.concludes (h : run.Counts schedulee queue size r) {stopped : Prop}
    (going : ¬ stopped)
    (kind : record = endRecord schedulee run.payloads.length ∨
      ∃ text, record = errorRecord schedulee text)
    (failed : ∀ c, call = some c → ∀ e, c.answer = .error e →
      record = errorRecord schedulee e.message) :
    (run.settle { record := some record, received, call } cancels).Concludes schedulee stopped
      (some record) := by
  refine ⟨h.tells_last idle cancels, ⟨nofun, fun stop => absurd stop going⟩, ?_, ?_⟩
  · intro record' some
    obtain rfl := Option.some.inj some
    rw [payloads_last idle]
    exact kind
  · intro c member e error
    rcases List.mem_append.mp member with old | new
    · obtain ⟨pair, ok⟩ := h.sound c old
      rw [ok] at error
      cases error
    · rw [failed c (by simpa using new) e error]

end Last

theorem Counts.failure_eq (h : run.Counts schedulee queue size r) (text : String) :
    r.failure text = errorRecord schedulee text := by
  rw [ReadLoop.failure, h.task, errorRecord]

theorem Counts.ending_eq (h : run.Counts schedulee queue size r) :
    r.ending = endRecord schedulee run.payloads.length := by
  rw [ReadLoop.ending, h.task, endRecord]

/-- A poll that ends a read tells of the end, unless the read was found cancelled. -/
theorem Counts.step (h : run.Counts schedulee queue size r) (running : run.reading = some r)
    {answer : Poll (List UInt8) String} (ended : (run.step (.poll answer)).reading = none) :
    ∃ last, (run.step (.poll answer)).Concludes schedulee
      (race run.cancelled answer = some .cancelled) last := by
  rw [step_poll running] at ended ⊢
  generalize r.turn run.cancelled answer = turn, r.turn_does run.cancelled answer = does at *
  cases does with
  | waits pending => cases ended
  | stops stopped =>
    refine ⟨none, ?_, ?_, ?_, ?_⟩
    · simpa [Tells, settle, payloads] using h.tells
    · exact ⟨fun _ => stopped, fun _ => rfl⟩
    · intro record none
      cases none
    · intro call member e error
      obtain ⟨pair, ok⟩ := h.sound call (by simpa [settle] using member)
      rw [ok] at error
      cases error
  | closes record last going =>
    have kind : record = endRecord schedulee run.payloads.length ∨
        ∃ text, record = errorRecord schedulee text := by
      rcases last with rfl | ⟨text, rfl⟩
      · exact .inl h.ending_eq
      · exact .inr ⟨text, h.failure_eq text⟩
    refine ⟨some record, h.concludes ?_ answer.cancels going kind ?_⟩
    · intro c none
      cases none
    · intro c none
      cases none
  | receives bytes came nonempty turn outcome =>
    have going : race run.cancelled answer ≠ some .cancelled := by
      intro stopped
      rw [came] at stopped
      cases stopped
    cases outcome with
    | rejects e error =>
      refine ⟨_, h.concludes ?_ answer.cancels going (.inr ⟨_, h.failure_eq _⟩) ?_⟩
      · rintro c ⟨⟩
        simp only [DecodeCall.payload?, error]
      · rintro c ⟨⟩ e' error'
        rw [error] at error'
        cases error'
        exact h.failure_eq _
    | overflows pair ok idle full =>
      refine ⟨_, h.concludes ?_ answer.cancels going (.inr ⟨_, h.failure_eq _⟩) ?_⟩
      · rintro c ⟨⟩
        exact DecodeCall.payload?_eq_none idle
      · rintro c ⟨⟩ e error
        rw [ok] at error
        cases error
    | keeps pair ok idle room => cases ended
    | moves payload emitted progress => cases ended

theorem Concludes.later {stopped : Prop} {last : Option (ReadRecord α)}
    (h : run.Concludes schedulee stopped last) (ended : run.reading = none)
    (events : List ReadEvent) :
    (run.run events).reading = none ∧ (run.run events).Concludes schedulee stopped last := by
  obtain ⟨cancelled, same⟩ := run_of_ended ended events
  rw [same]
  exact ⟨ended, h.tells, h.silent, h.kind, h.failed⟩

/-- Some poll of the read, while it goes on, comes out like this. -/
def Meets (run : ReadRun α) (events : List ReadEvent) (outcome : Outcome (List UInt8) String) :
    Prop :=
  ∃ past answer future, events = past ++ .poll answer :: future ∧
    (run.run past).reading.isSome ∧ race (run.run past).cancelled answer = some outcome

/-- An outcome that ends a read whatever its decoder does. -/
def IsFinal (outcome : Outcome (List UInt8) String) : Prop :=
  outcome = .cancelled ∨ outcome = .succeeded [] ∨ ∃ text, outcome = .failed text

theorem reading_of_final (running : run.reading = some r) {answer : Poll (List UInt8) String}
    {outcome : Outcome (List UInt8) String} (came : race run.cancelled answer = some outcome)
    (final : IsFinal outcome) : (run.step (.poll answer)).reading = none := by
  rw [step_poll running]
  rcases final with rfl | rfl | ⟨text, rfl⟩
  · simp only [settle, ReadLoop.turn, came]
  · simp only [settle, ReadLoop.turn, came, List.take_nil, List.isEmpty_nil, if_true,
      ReadLoop.finish]
    split <;> rfl
  · simp only [settle, ReadLoop.turn, came, ReadLoop.fail]

section Protocol

variable (schedulee queue size : Nat) (decoder : Decoder α) {events : List ReadEvent}

/-- A read that ended at some poll tells what is told of that end. -/
theorem concludes_at {past future : List ReadEvent} {answer : Poll (List UInt8) String}
    (split : events = past ++ .poll answer :: future) :
    let start := ReadRun.start { schedulee, queue } decoder size
    (start.run past).reading.isSome → ((start.run past).step (.poll answer)).reading = none →
    (start.run events).reading = none ∧ ∃ last, (start.run events).Concludes schedulee
      (race (start.run past).cancelled answer = some .cancelled) last := by
  intro start running ended
  obtain ⟨r, running⟩ := Option.isSome_iff_exists.mp running
  obtain ⟨last, concludes⟩ :=
    (counts_run schedulee queue size decoder past r running).step running ended
  obtain ⟨ended, concludes⟩ := concludes.later ended future
  have whole : start.run events = ((start.run past).step (.poll answer)).run future := by
    rw [split, run_append]
    rfl
  exact ⟨whole ▸ ended, last, whole ▸ concludes⟩

theorem ends_of_meets {outcome : Outcome (List UInt8) String} (final : IsFinal outcome) :
    let start := ReadRun.start { schedulee, queue } decoder size
    start.Meets events outcome → (start.run events).reading = none ∧
      ∃ last, (start.run events).Concludes schedulee (outcome = .cancelled) last := by
  rintro start ⟨past, answer, future, split, running, came⟩
  obtain ⟨r, going⟩ := Option.isSome_iff_exists.mp running
  have concludes := concludes_at schedulee queue size decoder split running
    (reading_of_final going came final)
  rwa [came, Option.some.injEq] at concludes

/-- A read that was cancelled while it went on has told its data only. -/
theorem tells_of_cancelled {past future : List ReadEvent} (split : events = past ++ future) :
    let start := ReadRun.start { schedulee, queue } decoder size
    (start.run past).reading.isSome → (start.run past).cancelled = true →
    (start.run events).Tells schedulee none := by
  intro start running cancelled
  obtain ⟨r, running⟩ := Option.isSome_iff_exists.mp running
  have told := (counts_run schedulee queue size decoder past r running).tells
  obtain ⟨calls, records⟩ := run_of_cancelled cancelled future
  rw [split, run_append, Tells, payloads, calls, records]
  exact told

end Protocol

/-- A call that consumes nothing leaves the records and the next number, unless the buffer is
full. -/
theorem Counts.idle (h : run.Counts schedulee queue size r) (running : run.reading = some r)
    {answer : Poll (List UInt8) String} {call : DecodeCall α} {pair : α × Nat}
    (called : (run.step (.poll answer)).calls = run.calls ++ [call])
    (ok : call.answer = .ok pair) (idle : call.consumed = 0) :
    ((run.step (.poll answer)).records = run.records ∧
      ∃ r', (run.step (.poll answer)).reading = some r' ∧ r'.task = r.task) ∨
    (call.filled.length = size ∧ (run.step (.poll answer)).reading = none ∧
      (run.step (.poll answer)).records = run.records ++
        [errorRecord schedulee (DecodeError.bufferFull size).message]) := by
  rw [step_poll running] at called ⊢
  generalize r.turn run.cancelled answer = turn, r.turn_does run.cancelled answer = does at *
  have made : turn.call = some call := by
    simpa [settle, Option.toList_eq_singleton_iff] using called
  cases does with
  | waits pending => cases made
  | stops stopped => cases made
  | closes record last going => cases made
  | receives bytes came nonempty turn outcome =>
    cases outcome with
    | rejects e error =>
      obtain rfl := Option.some.inj made
      rw [error] at ok
      cases ok
    | overflows pair ok idle full =>
      obtain rfl := Option.some.inj made
      refine .inr ⟨?_, rfl, ?_⟩
      · rw [r.length_decode, full, h.sized]
      · simp only [settle, ReadLoop.failure, errorRecord, h.task, h.sized, Option.toList_some]
    | keeps pair ok idle room => exact .inl ⟨List.append_nil _, _, rfl, rfl⟩
    | moves payload emitted progress =>
      obtain rfl := Option.some.inj made
      omega

end ReadRun

/-- For every decoder, whatever the host answers and whenever the socket is cancelled: the records
of a read are its data, numbered from zero, and at most one more, which is the end of the stream
with the next number or an error. A read that was found cancelled, or was cancelled while it went
on, has no last record; one that ended otherwise has one. A call that consumes nothing leaves the
records and the next number as they are, or ends the read with a full buffer. -/
theorem read_record_protocol (schedulee queue size : Nat) (decoder : Decoder α)
    (events : List ReadEvent) :
    let start := ReadRun.start { schedulee, queue } decoder size
    let run := start.run events
    ∃ last : Option (ReadRecord α),
      run.records = dataRecords schedulee run.payloads ++ last.toList ∧
      (∀ record, last = some record → record = endRecord schedulee run.payloads.length ∨
        ∃ text, record = errorRecord schedulee text) ∧
      (∀ record ∈ run.records,
        record.isEndOfStream = true ↔ record = endRecord schedulee run.payloads.length) ∧
      (run.reading.isSome → last = none) ∧
      (run.reading = none → (last = none ↔ start.Meets events .cancelled)) ∧
      ((∃ past future, events = past ++ future ∧ (start.run past).reading.isSome ∧
        (start.run past).cancelled = true) → last = none) ∧
      ((start.Meets events (.succeeded []) ∨ (∃ text, start.Meets events (.failed text)) ∨
        ∃ call ∈ run.calls, ∃ e, call.answer = .error e) → run.reading = none ∧ last ≠ none) ∧
      ∀ answer r call pair, run.reading = some r →
        (run.step (.poll answer)).calls = run.calls ++ [call] → call.answer = .ok pair →
        call.consumed = 0 →
        ((run.step (.poll answer)).records = run.records ∧
          ∃ r', (run.step (.poll answer)).reading = some r' ∧ r'.task = r.task) ∨
        (call.filled.length = size ∧ (run.step (.poll answer)).reading = none ∧
          (run.step (.poll answer)).records = run.records ++
            [errorRecord schedulee (DecodeError.bufferFull size).message]) := by
  intro start run
  cases running : run.reading with
  | some r =>
    have counts := ReadRun.counts_run schedulee queue size decoder events r running
    have going : ¬ run.reading = none := by rw [running]; nofun
    refine ⟨none, counts.tells, nofun, ?_, fun _ => rfl, nofun, fun _ => rfl, ?_, ?_⟩
    · exact fun record member => counts.tells.isEndOfStream_iff nofun member
    · rintro (ends | ⟨text, ends⟩ | ⟨call, member, e, error⟩)
      · exact absurd (ReadRun.ends_of_meets _ _ _ _ (.inr (.inl rfl)) ends).1 going
      · exact absurd (ReadRun.ends_of_meets _ _ _ _ (.inr (.inr ⟨text, rfl⟩)) ends).1 going
      · obtain ⟨pair, ok⟩ := counts.sound call member
        rw [ok] at error
        cases error
    · intro answer r' call pair same called ok idle
      obtain rfl := Option.some.inj same
      exact counts.idle running called ok idle
  | none =>
    obtain ⟨past, answer, future, split, before, after⟩ := ReadRun.exists_end rfl running
    obtain ⟨_, last, concludes⟩ :=
      ReadRun.concludes_at schedulee queue size decoder split before after
    have heard : ∀ outcome, ReadRun.IsFinal outcome → outcome ≠ .cancelled →
        start.Meets events outcome → last ≠ none := by
      intro outcome final other meets none
      obtain ⟨_, last', concludes'⟩ := ReadRun.ends_of_meets _ _ _ _ final meets
      exact other (concludes'.silent.mp ((concludes'.tells.unique concludes.tells).trans none))
    refine ⟨last, concludes.tells, concludes.kind, ?_, nofun, fun _ => ⟨?_, ?_⟩, ?_, ?_, nofun⟩
    · exact fun record member => concludes.tells.isEndOfStream_iff concludes.kind member
    · exact fun none => ⟨past, answer, future, split, before, concludes.silent.mp none⟩
    · intro stopped
      obtain ⟨_, last', concludes'⟩ := ReadRun.ends_of_meets _ _ _ _ (.inl rfl) stopped
      rw [concludes.tells.unique concludes'.tells]
      exact concludes'.silent.mpr rfl
    · rintro ⟨past, future, split, before, cancelled⟩
      exact concludes.tells.unique
        (ReadRun.tells_of_cancelled schedulee queue size decoder split before cancelled)
    · rintro (ends | ⟨text, ends⟩ | ⟨call, member, e, error⟩)
      · exact ⟨rfl, heard _ (.inr (.inl rfl)) nofun ends⟩
      · exact ⟨rfl, heard _ (.inr (.inr ⟨text, rfl⟩)) nofun ends⟩
      · rw [concludes.failed call member e error]
        exact ⟨rfl, nofun⟩

end SocketBridge
