import SocketBridge.Proofs.Stream.Run

/-!
# What a decoder is shown

Every call of a decoder is given the received bytes from the first one that was not consumed, and
whatever the decoder answers, the read that goes on has room for more. So a read of nothing is the
end of the stream, and calls that consume nothing follow each other at most as often as the buffer
has cells.
-/

namespace SocketBridge

variable {α : Type}

/-- How many bytes several calls consumed. -/
def consumedBy : List (DecodeCall α) → Nat
  | [] => 0
  | call :: calls => call.consumed + consumedBy calls

theorem consumedBy_append (calls more : List (DecodeCall α)) :
    consumedBy (calls ++ more) = consumedBy calls + consumedBy more := by
  induction calls with
  | nil => exact (Nat.zero_add _).symm
  | cons call calls ih => rw [List.cons_append, consumedBy, consumedBy, ih, Nat.add_assoc]

theorem consumedBy_singleton (call : DecodeCall α) : consumedBy [call] = call.consumed := rfl

theorem consumedBy_idle {calls : List (DecodeCall α)} (idle : ∀ c ∈ calls, c.consumed = 0) :
    consumedBy calls = 0 := by
  induction calls with
  | nil => rfl
  | cons call calls ih =>
    rw [consumedBy, idle call List.mem_cons_self, Nat.zero_add]
    exact ih fun c member => idle c (List.mem_cons_of_mem _ member)

theorem DecodeCall.consumed_le (call : DecodeCall α) : call.consumed ≤ call.filled.length := by
  rw [consumed]
  split
  · exact Nat.zero_le _
  · exact Nat.min_le_right _ _

section Lists

variable {β : Type}

theorem eq_or_of_snoc {before after list : List β} {b c : β}
    (split : list ++ [c] = before ++ b :: after) :
    (before = list ∧ b = c ∧ after = []) ∨
      ∃ rest, after = rest ++ [c] ∧ list = before ++ b :: rest := by
  rcases List.eq_nil_or_concat after with rfl | ⟨rest, last, rfl⟩
  · obtain ⟨same, last⟩ := List.append_inj' split rfl
    exact .inl ⟨same.symm, (List.singleton_inj.mp last).symm, rfl⟩
  · have regroup : list ++ [c] = (before ++ b :: rest) ++ [last] := by
      simpa using split
    obtain ⟨same, tail⟩ := List.append_inj' regroup rfl
    exact .inr ⟨rest, by rw [List.singleton_inj.mp tail]; simp, same⟩

theorem length_le_length_flatten {chunks : List (List β)}
    (nonempty : ∀ chunk ∈ chunks, chunk ≠ []) : chunks.length ≤ chunks.flatten.length := by
  induction chunks with
  | nil => exact Nat.le_refl _
  | cons chunk chunks ih =>
    have rest := ih fun c member => nonempty c (List.mem_cons_of_mem _ member)
    have first : 0 < chunk.length := List.length_pos_iff.mpr (nonempty chunk List.mem_cons_self)
    simp only [List.length_cons, List.flatten_cons, List.length_append]
    omega

/-- Each of several pieces that are not empty makes what was put together longer. -/
theorem length_flatten_take {chunks : List (List β)} (nonempty : ∀ chunk ∈ chunks, chunk ≠ [])
    {m n : Nat} (enough : m + n ≤ chunks.length) :
    (chunks.take m).flatten.length + n ≤ (chunks.take (m + n)).flatten.length := by
  have more : n ≤ ((chunks.drop m).take n).flatten.length := by
    have each : ∀ chunk ∈ (chunks.drop m).take n, chunk ≠ [] := fun chunk member =>
      nonempty chunk (List.mem_of_mem_drop (List.mem_of_mem_take member))
    have count := length_le_length_flatten each
    rw [List.length_take, List.length_drop] at count
    omega
  rw [List.take_add, List.flatten_append, List.length_append]
  omega

end Lists

/-- A read that goes on, after all of its chunks and calls: what it holds are the bytes received but
not consumed, and there is room for more. -/
structure ReadLoop.Holds (r : ReadLoop α) (schedulee size : Nat) (decoder : Decoder α)
    (chunks : List (List UInt8)) (calls : List (DecodeCall α)) : Prop where
  owner : r.task.schedulee = schedulee
  same : r.decoder = decoder
  shown : r.shown = calls.map DecodeCall.filled
  sized : r.buffer.size = size
  room : r.buffer.filled < size
  within : consumedBy calls ≤ chunks.flatten.length
  held : r.buffer.held = chunks.flatten.drop (consumedBy calls)

/-- What a call is given and answers, after other calls and with all chunks up to its own. -/
structure DecodeCall.Follows (call : DecodeCall α) (size : Nat) (decoder : Decoder α)
    (chunks : List (List UInt8)) (before : List (DecodeCall α)) : Prop where
  within : consumedBy before ≤ (chunks.take before.length).flatten.length
  slice : call.filled = (chunks.take (before.length + 1)).flatten.drop (consumedBy before)
  fits : call.filled.length ≤ size
  answer : call.answer = decoder.decode (before.map DecodeCall.filled) call.filled

/-- The run ended with an error. -/
def ReadRun.FailedWith (run : ReadRun α) (schedulee : Nat) (e : DecodeError) : Prop :=
  run.reading = none ∧ run.records.getLast? = some { schedulee, error := some e.message }

structure ReadRun.Sliced (run : ReadRun α) (schedulee size : Nat) (decoder : Decoder α) :
    Prop where
  count : run.calls.length = run.chunks.length
  nonempty : ∀ chunk ∈ run.chunks, chunk ≠ []
  call : ∀ before call after, run.calls = before ++ call :: after →
    call.Follows size decoder run.chunks before
  /-- A call that consumes nothing of a full buffer is the last one. -/
  last : ∀ before call after, run.calls = before ++ call :: after → call.consumed = 0 →
    call.filled.length = size → after = [] ∧
      ∃ e, run.FailedWith schedulee e ∧
        ((∃ pair, call.answer = .ok pair) → e = .bufferFull size)
  reading : ∀ r, run.reading = some r → r.Holds schedulee size decoder run.chunks run.calls

namespace ReadLoop.Holds

variable {r : ReadLoop α} {schedulee size : Nat} {decoder : Decoder α}
  {chunks : List (List UInt8)} {calls : List (DecodeCall α)} {received : List UInt8}

theorem start (task : Task) (decoder : Decoder α) (nonzero : 0 < size) :
    (ReadLoop.start task decoder size).Holds task.schedulee size decoder [] [] where
  owner := rfl
  same := rfl
  shown := rfl
  sized := rfl
  room := nonzero
  within := Nat.le_refl 0
  held := rfl

variable (h : r.Holds schedulee size decoder chunks calls) (fits : received.length ≤ r.buffer.free)

include h fits

theorem shows : (r.decode received).filled
    = (chunks ++ [received]).flatten.drop (consumedBy calls) := by
  change (r.buffer.put received).held = _
  rw [(ReadBuffer.put_fits fits).1, h.held, List.flatten_append, List.flatten_singleton,
    List.drop_append_of_le_length h.within]

theorem keep (idle : (r.decode received).consumed = 0)
    (room : (r.buffer.put received).filled < r.buffer.size) :
    (r.keep received).Holds schedulee size decoder (chunks ++ [received])
      (calls ++ [r.decode received]) where
  owner := h.owner
  same := h.same
  shown := by simp only [ReadLoop.keep, h.shown, List.map_append, List.map_cons, List.map_nil]
  sized := h.sized
  room := h.sized ▸ room
  within := by
    have within := h.within
    rw [consumedBy_append, consumedBy_singleton, idle, List.flatten_append, List.length_append]
    omega
  held := by
    rw [consumedBy_append, consumedBy_singleton, idle, Nat.add_zero, ← h.shows fits]
    rfl

theorem move (progress : 0 < (r.decode received).consumed) :
    (r.move received).Holds schedulee size decoder (chunks ++ [received])
      (calls ++ [r.decode received]) where
  owner := h.owner
  same := h.same
  shown := by
    simp only [ReadLoop.move, ReadLoop.keep, h.shown, List.map_append, List.map_cons, List.map_nil]
  sized := h.sized
  room := by
    have bound := (r.buffer.put received).filled_le_size
    have nonzero := h.room
    have sized := h.sized
    simp only [ReadLoop.move, ReadBuffer.filled_consume]
    rw [ReadBuffer.size_put] at bound
    omega
  within := by
    have shown := congrArg List.length (h.shows fits)
    have clamped := (r.decode received).consumed_le
    have within := h.within
    rw [List.length_drop] at shown
    rw [List.flatten_append, List.length_append] at shown ⊢
    rw [consumedBy_append, consumedBy_singleton]
    omega
  held := by
    simp only [ReadLoop.move]
    rw [ReadBuffer.held_consume, consumedBy_append, consumedBy_singleton, ← List.drop_drop,
      ← h.shows fits]
    rfl

theorem follows (count : calls.length = chunks.length) :
    (r.decode received).Follows size decoder (chunks ++ [received]) calls where
  within := by
    rw [count, List.take_left]
    exact h.within
  slice := by
    rw [count, List.take_of_length_le (by simp)]
    exact h.shows fits
  fits := by
    rw [r.length_decode, ← h.sized]
    exact (r.buffer.put received).filled_le_size
  answer := by
    rw [← h.shown, ← h.same]
    rfl

end ReadLoop.Holds

theorem DecodeCall.Follows.snoc {call : DecodeCall α} {size : Nat} {decoder : Decoder α}
    {chunks : List (List UInt8)} {before : List (DecodeCall α)}
    (h : call.Follows size decoder chunks before) (earlier : before.length < chunks.length)
    (chunk : List UInt8) : call.Follows size decoder (chunks ++ [chunk]) before where
  within := by
    rw [List.take_append_of_le_length (Nat.le_of_lt earlier)]
    exact h.within
  slice := by
    rw [List.take_append_of_le_length earlier]
    exact h.slice
  fits := h.fits
  answer := h.answer

namespace ReadRun.Sliced

variable {run : ReadRun α} {schedulee size : Nat} {decoder : Decoder α}

theorem start (task : Task) (decoder : Decoder α) (nonzero : 0 < size) :
    (ReadRun.start task decoder size).Sliced task.schedulee size decoder where
  count := rfl
  nonempty := nofun
  call before call after split := by simp [ReadRun.start] at split
  last before call after split := by simp [ReadRun.start] at split
  reading r running := by
    obtain rfl := Option.some.inj running
    exact .start task decoder nonzero

theorem flag (h : run.Sliced schedulee size decoder) (cancelled : Bool) :
    ReadRun.Sliced { run with cancelled } schedulee size decoder :=
  ⟨h.count, h.nonempty, h.call, h.last, h.reading⟩

/-- A turn without new bytes keeps the read as it is or ends it. -/
theorem quiet (h : run.Sliced schedulee size decoder) {r : ReadLoop α}
    (running : run.reading = some r) {next : Option (ReadLoop α)}
    (same : ∀ r', next = some r' → r' = r) (record : Option (ReadRecord α)) (cancels : Bool) :
    (run.settle { next, record } cancels).Sliced schedulee size decoder where
  count := by simpa [settle] using h.count
  nonempty := h.nonempty
  call := by simpa [settle] using h.call
  last before call after split idle full := by
    have split : run.calls = before ++ call :: after := by simpa [settle] using split
    have ended := (h.last before call after split idle full).2
    obtain ⟨e, failed, _⟩ := ended
    rw [failed.1] at running
    cases running
  reading r' going := by
    obtain rfl := same r' going
    simpa [settle] using h.reading r' running

/-- A turn with new bytes adds one chunk and the call that is shown it. -/
theorem received (h : run.Sliced schedulee size decoder) {r : ReadLoop α}
    (running : run.reading = some r) {bytes : List UInt8} (nonempty : bytes ≠ [])
    (fits : bytes.length ≤ r.buffer.free) {next : Option (ReadLoop α)}
    {record : Option (ReadRecord α)}
    (going : ∀ r', next = some r' → r'.Holds schedulee size decoder (run.chunks ++ [bytes])
      (run.calls ++ [r.decode bytes]))
    (cancels : Bool)
    (last : (r.decode bytes).consumed = 0 → (r.decode bytes).filled.length = size → next = none ∧
      ∃ e : DecodeError, record = some { schedulee, error := some e.message } ∧
        ((∃ pair, (r.decode bytes).answer = .ok pair) → e = .bufferFull size)) :
    (run.settle { next, record, received := bytes, call := some (r.decode bytes) }
      cancels).Sliced schedulee size decoder := by
  have chunks : (if bytes.isEmpty then run.chunks else run.chunks ++ [bytes])
      = run.chunks ++ [bytes] := by
    rw [if_neg (by simpa using nonempty)]
  have holds := h.reading r running
  simp only [settle, chunks, Option.toList_some]
  refine ⟨?_, ?_, ?_, ?_, going⟩
  · simpa using h.count
  · intro chunk member
    rcases List.mem_append.mp member with old | new
    · exact h.nonempty chunk old
    · exact List.mem_singleton.mp new ▸ nonempty
  · intro before call after split
    rcases eq_or_of_snoc split with ⟨rfl, rfl, rfl⟩ | ⟨rest, rfl, earlier⟩
    · exact holds.follows fits h.count
    · have bound : before.length < run.chunks.length := by
        rw [← h.count, earlier]
        simp
      exact (h.call before call rest earlier).snoc bound bytes
  · intro before call after split idle full
    rcases eq_or_of_snoc split with ⟨rfl, rfl, rfl⟩ | ⟨rest, rfl, earlier⟩
    · obtain ⟨ended, e, recorded, overflow⟩ := last idle full
      exact ⟨rfl, e, ⟨ended, by simp [recorded]⟩, overflow⟩
    · obtain ⟨_, e, failed, _⟩ := h.last before call rest earlier idle full
      rw [failed.1] at running
      cases running

theorem turn (h : run.Sliced schedulee size decoder) {r : ReadLoop α}
    (running : run.reading = some r) {answer : Poll (List UInt8) String} {turn : ReadTurn α}
    (does : r.Turns run.cancelled answer turn) :
    (run.settle turn answer.cancels).Sliced schedulee size decoder := by
  have holds := h.reading r running
  cases does with
  | waits pending => exact h.quiet running (fun _ same => (Option.some.inj same).symm) none _
  | stops stopped =>
    refine h.quiet running ?_ none _
    nofun
  | closes record last going =>
    refine h.quiet running ?_ (some record) _
    nofun
  | receives bytes came nonempty turn outcome =>
    have fits : (bytes.take r.buffer.free).length ≤ r.buffer.free := List.length_take_le _ _
    cases outcome with
    | rejects e answer =>
      refine h.received running nonempty fits ?_ _ fun _ _ => ⟨rfl, e, ?_, ?_⟩
      · nofun
      · rw [ReadLoop.failure, holds.owner]
      · rintro ⟨pair, ok⟩
        rw [answer] at ok
        cases ok
    | overflows pair answer idle full =>
      refine h.received running nonempty fits ?_ _ fun _ _ => ⟨rfl, .bufferFull size, ?_, ?_⟩
      · nofun
      · rw [ReadLoop.failure, holds.owner, holds.sized]
      · exact fun _ => rfl
    | keeps pair answer idle room =>
      refine h.received running nonempty fits ?_ _ fun _ full => ?_
      · intro r' going
        obtain rfl := Option.some.inj going
        exact holds.keep fits idle room
      · have length := r.length_decode (bytes.take r.buffer.free)
        have sized := holds.sized
        omega
    | moves payload emitted progress =>
      refine h.received running nonempty fits ?_ _ fun idle _ => ?_
      · intro r' going
        obtain rfl := Option.some.inj going
        exact holds.move fits progress
      · omega

theorem kept (h : run.Sliced schedulee size decoder) (events : List ReadEvent) :
    (run.run events).Sliced schedulee size decoder :=
  preserved (P := fun run => run.Sliced schedulee size decoder) h
    (fun _ cancelled h => h.flag cancelled) (fun _ _ _ _ h running => h.turn running) events

/-- Calls that consume nothing are shown more each time. -/
theorem idle_lt (h : run.Sliced schedulee size decoder) {before idle after : List (DecodeCall α)}
    {call : DecodeCall α} (split : run.calls = before ++ (idle ++ call :: after))
    (quiet : ∀ c ∈ idle, c.consumed = 0) : idle.length < call.filled.length := by
  have slice := (h.call (before ++ idle) call after (by rw [split, List.append_assoc])).slice
  have within : consumedBy before ≤ (run.chunks.take before.length).flatten.length := by
    cases idle with
    | nil => exact (h.call before call after split).within
    | cons first rest => exact (h.call before first (rest ++ call :: after) split).within
  have enough : before.length + (idle.length + 1) ≤ run.chunks.length := by
    rw [← h.count, split]
    simp only [List.length_append, List.length_cons]
    omega
  have longer := length_flatten_take h.nonempty enough
  rw [consumedBy_append, consumedBy_idle quiet, List.length_append] at slice
  rw [slice, List.length_drop, Nat.add_assoc]
  omega

theorem idle_le (h : run.Sliced schedulee size decoder) (nonzero : 0 < size)
    {before idle after : List (DecodeCall α)} (split : run.calls = before ++ (idle ++ after))
    (quiet : ∀ c ∈ idle, c.consumed = 0) :
    idle.length ≤ size ∧ (idle.length = size → after = [] ∧
      ∃ e, run.FailedWith schedulee e ∧
        ((∀ c ∈ idle, ∃ pair, c.answer = .ok pair) → e = .bufferFull size)) := by
  rcases List.eq_nil_or_concat idle with rfl | ⟨earlier, call, rfl⟩
  · exact ⟨Nat.zero_le _, fun full => absurd full (Nat.ne_of_lt nonzero)⟩
  · rw [List.concat_eq_append] at quiet split ⊢
    have regroup : run.calls = before ++ (earlier ++ call :: after) := by simpa using split
    have split : run.calls = (before ++ earlier) ++ call :: after := by
      rw [regroup, List.append_assoc]
    have shown := h.idle_lt regroup fun c member => quiet c (List.mem_append_left _ member)
    have fits := (h.call _ call after split).fits
    have last : call ∈ earlier ++ [call] := List.mem_append_right _ List.mem_cons_self
    rw [List.length_append, List.length_singleton]
    refine ⟨by omega, fun full => ?_⟩
    obtain ⟨none, e, failed, overflow⟩ := h.last _ call after split (quiet call last) (by omega)
    exact ⟨none, e, failed, fun all => overflow (all call last)⟩

end ReadRun.Sliced

theorem ReadRun.chunks_step {run : ReadRun α} {r : ReadLoop α} (running : run.reading = some r)
    {answer : Poll (List UInt8) String} {bytes : List UInt8}
    (came : race run.cancelled answer = some (.succeeded bytes))
    (fits : bytes.length ≤ r.buffer.free) :
    (run.step (.poll answer)).chunks = if bytes.isEmpty then run.chunks
      else run.chunks ++ [bytes] := by
  rw [step_poll running]
  simp only [settle, ReadLoop.turn, came, List.take_of_length_le fits]
  cases bytes with
  | nil =>
    simp only [List.isEmpty_nil, if_true, ReadLoop.finish]
    split <;> rfl
  | cons b bytes => simp

/-- For every decoder and whatever the host answers: each call is shown the received bytes from the
first one not consumed on; a read that goes on has room, so that an empty answer comes from the end
of the stream alone; and at most as many calls in a row as there are cells consume nothing, the last
of so many being the end of the read. -/
theorem read_shows_unconsumed_bytes (task : Task) (decoder : Decoder α) {size : Nat}
    (events : List ReadEvent) (nonzero : 0 < size) :
    let run := (ReadRun.start task decoder size).run events
    run.calls.length = run.chunks.length ∧
    (∀ before call after, run.calls = before ++ call :: after →
      consumedBy before ≤ (run.chunks.take before.length).flatten.length ∧
      call.filled = (run.chunks.take (before.length + 1)).flatten.drop (consumedBy before) ∧
      call.answer = decoder.decode (before.map DecodeCall.filled) call.filled) ∧
    (∀ r, run.reading = some r →
      r.buffer.size = size ∧ r.buffer.filled < size ∧
      r.buffer.held = run.chunks.flatten.drop (consumedBy run.calls) ∧
      ∀ answer bytes, race run.cancelled answer = some (.succeeded bytes) →
        (bytes.take r.buffer.free = [] → bytes = []) ∧
        (bytes.length ≤ r.buffer.free →
          (run.step (.poll answer)).chunks.flatten = run.chunks.flatten ++ bytes)) ∧
    ∀ before idle after, run.calls = before ++ (idle ++ after) → (∀ c ∈ idle, c.consumed = 0) →
      idle.length ≤ size ∧ (idle.length = size → after = [] ∧
        ∃ e, run.FailedWith task.schedulee e ∧
          ((∀ c ∈ idle, ∃ pair, c.answer = .ok pair) → e = .bufferFull size)) := by
  intro run
  have sliced : run.Sliced task.schedulee size decoder :=
    (ReadRun.Sliced.start task decoder nonzero).kept events
  refine ⟨sliced.count, ?_, ?_, ?_⟩
  · intro before call after split
    have follows := sliced.call before call after split
    exact ⟨follows.within, follows.slice, follows.answer⟩
  · intro r running
    have holds := sliced.reading r running
    refine ⟨holds.sized, holds.room, holds.held, fun answer bytes came => ⟨?_, ?_⟩⟩
    · intro nothing
      have room := holds.room
      have sized := holds.sized
      rcases List.take_eq_nil_iff.mp nothing with full | empty
      · rw [ReadBuffer.free] at full
        omega
      · exact empty
    · intro fits
      rw [ReadRun.chunks_step running came fits]
      cases bytes <;> simp
  · intro before idle after split quiet
    exact sliced.idle_le nonzero split quiet

/-- A decoder that consumes two bytes in its second call, more than there are in its fourth, and
nothing in the others. -/
def fitful : Decoder (List UInt8) :=
  ⟨fun shown filled => .ok (filled, match shown.length with
    | 1 => 2
    | 3 => 100
    | _ => 0)⟩

/-- Reads that fill a buffer of four bytes in the end. -/
def fitfulReads : List ReadEvent :=
  [[1], [2, 3], [4], [5], [6], [7], [8], [9]].map fun bytes => .poll { ready := some (.ok bytes) }

theorem read_shows_unconsumed_bytes_of_fitful :
    let run := (ReadRun.start { schedulee := 1 } fitful 4).run fitfulReads
    run.calls.map DecodeCall.filled =
      [[1], [1, 2, 3], [3, 4], [3, 4, 5], [6], [6, 7], [6, 7, 8], [6, 7, 8, 9]] ∧
    (∀ before call after, run.calls = before ++ call :: after →
      call.filled = (run.chunks.take (before.length + 1)).flatten.drop (consumedBy before)) ∧
    ∃ e, run.FailedWith 1 e := by
  intro run
  have law := read_shows_unconsumed_bytes { schedulee := 1 } fitful fitfulReads
    (show 0 < 4 by decide)
  have split : run.calls = run.calls.take 4 ++ (run.calls.drop 4 ++ []) := by
    rw [List.append_nil, List.take_append_drop]
  have idle : ∀ c ∈ run.calls.drop 4, c.consumed = 0 := by decide
  obtain ⟨_, e, failed, _⟩ := (law.2.2.2 _ _ _ split idle).2 rfl
  exact ⟨rfl, fun before call after split => (law.2.1 before call after split).2.1, e, failed⟩

end SocketBridge
