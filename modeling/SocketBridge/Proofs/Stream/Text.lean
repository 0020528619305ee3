import SocketBridge.Proofs.Decoder
import SocketBridge.Proofs.Stream.Records

/-!
# Reading text

However a stream is cut into reads, a read of text gives the characters of the stream: it holds back
what reading the stream so far would leave, which is at most three bytes. How it ends tells whether
the stream is a text, is cut within a character, or is not text at all.
-/

namespace SocketBridge

open Utf8

/-- The host has read some bytes; none are the end of the stream. -/
def ReadEvent.data (bytes : List UInt8) : ReadEvent := .poll { ready := some (.ok bytes) }

namespace ReadRun

variable {α : Type}

/-- Reads that deliver something and no more than there is room for, while the read goes on. -/
def Fits (run : ReadRun α) : List (List UInt8) → Prop
  | [] => True
  | chunk :: chunks =>
    (∀ r, run.reading = some r → chunk ≠ [] ∧ chunk.length ≤ r.buffer.free) ∧
      (run.step (.data chunk)).Fits chunks

theorem step_data {run : ReadRun α} {r : ReadLoop α} (running : run.reading = some r)
    (live : run.cancelled = false) {chunk : List UInt8} (nonempty : chunk ≠ [])
    (fits : chunk.length ≤ r.buffer.free) :
    run.step (.data chunk) = run.settle (r.receive chunk) false := by
  have kept : chunk.take r.buffer.free = chunk := List.take_of_length_le fits
  rw [ReadEvent.data, step_poll running, live]
  simp only [ReadLoop.turn, race, Option.map_some, Bool.false_eq_true, if_false, kept,
    List.isEmpty_iff, if_neg nonempty]

theorem step_end {run : ReadRun α} {r : ReadLoop α} (running : run.reading = some r)
    (live : run.cancelled = false) : run.step (.data []) = run.settle r.finish false := by
  rw [ReadEvent.data, step_poll running, live]
  simp only [ReadLoop.turn, race, Option.map_some, Bool.false_eq_true, if_false, List.take_nil,
    List.isEmpty_nil, if_true]

theorem fits_of_ended {run : ReadRun α} (ended : run.reading = none)
    (chunks : List (List UInt8)) : run.Fits chunks := by
  induction chunks with
  | nil => trivial
  | cons chunk chunks ih =>
    have same : run.step (.data chunk) = run := by simp only [ReadEvent.data, step, ended]
    refine ⟨fun r running => ?_, same.symm ▸ ih⟩
    rw [ended] at running
    cases running

/-- The bytes of all payloads. -/
def text (run : ReadRun String) : List UInt8 := run.payloads.flatMap bytesOf

/-- A read of text that goes on after a part of the stream: it has given the characters of that part
and holds what is left of it. -/
structure Reads (run : ReadRun String) (schedulee queue size : Nat) (seen : List UInt8)
    (r : ReadLoop String) : Prop where
  running : run.reading = some r
  live : run.cancelled = false
  decoder : r.decoder = .text
  counts : run.Counts schedulee queue size r
  valid : (scan seen).ending ≠ .invalid
  held : r.buffer.held = (scan seen).rest
  given : run.text = encode (scan seen).chars
  nonempty : ∀ payload ∈ run.payloads, payload ≠ ""

/-- A read of text that ended at bytes that are not text. -/
structure Rejects (run : ReadRun String) (schedulee : Nat) (seen : List UInt8) : Prop where
  ended : run.reading = none
  invalid : (scan seen).ending = .invalid
  tells : ∃ offset, run.Tells schedulee
    (some (errorRecord schedulee (DecodeError.invalidUtf8 offset).message))
  nonempty : ∀ payload ∈ run.payloads, payload ≠ ""

variable {run : ReadRun String} {schedulee queue size : Nat} {seen : List UInt8}
  {r : ReadLoop String}

theorem Reads.start (schedulee queue size : Nat) :
    (ReadRun.start { schedulee, queue } .text size).Reads schedulee queue size []
      (.start { schedulee, queue } .text size) where
  running := rfl
  live := rfl
  decoder := rfl
  counts := counts_run schedulee queue size .text [] _ rfl
  valid := by rw [scan_nil]; nofun
  held := by rw [scan_nil]; rfl
  given := by rw [scan_nil]; rfl
  nonempty := nofun

/-- What is held back is less than a character. -/
theorem Reads.held_le (h : run.Reads schedulee queue size seen r) : r.buffer.filled ≤ 3 := by
  rw [← ReadBuffer.length_held, h.held]
  exact length_rest_le h.valid

section Step

variable (h : run.Reads schedulee queue size seen r) {chunk : List UInt8}
  (fits : chunk.length ≤ r.buffer.free)

include h fits

theorem Reads.filled_decode : (r.decode chunk).filled = (scan seen).rest ++ chunk := by
  rw [← h.held]
  exact (ReadBuffer.put_fits fits).1

theorem Reads.answer_decode :
    (r.decode chunk).answer = Decoder.text.decode r.shown ((scan seen).rest ++ chunk) := by
  rw [← h.filled_decode fits, ← h.decoder]
  rfl

theorem Reads.consumed_decode (valid : (scan ((scan seen).rest ++ chunk)).ending ≠ .invalid) :
    (r.decode chunk).consumed = (encode (scan ((scan seen).rest ++ chunk)).chars).length := by
  have length := congrArg List.length (scan_spec ((scan seen).rest ++ chunk)).1
  have answer := h.answer_decode fits
  rw [Decoder.text_of_valid _ _ valid] at answer
  simp only [DecodeCall.consumed, answer, h.filled_decode fits]
  rw [List.length_append] at length
  omega

/-- Bytes that are not text end the read without a payload, whatever text comes with them. The error
counts the bytes of that text. -/
theorem Reads.refuse (invalid : (scan ((scan seen).rest ++ chunk)).ending = .invalid) :
    let after := run.settle (r.receive chunk) false
    let lost := (encode (scan ((scan seen).rest ++ chunk)).chars).length
    after.reading = none ∧ after.payloads = run.payloads ∧
      after.Tells schedulee (some (errorRecord schedulee (DecodeError.invalidUtf8 lost).message)) := by
  intro after lost
  have answer := h.answer_decode fits
  rw [Decoder.text_of_invalid _ _ invalid] at answer
  have refused : r.receive chunk =
      { record := some (r.failure (DecodeError.invalidUtf8 lost).message)
        received := chunk
        call := some (r.decode chunk)
        marks := [.bytesRead chunk.length, .completion .read false] } := by
    simp only [ReadLoop.receive, ReadLoop.fail, answer, lost]
  have quiet : ∀ c, some (r.decode chunk) = some c → c.payload? = none := by
    rintro c ⟨⟩
    simp only [DecodeCall.payload?, answer]
  simp only [after, refused, h.counts.failure_eq]
  exact ⟨rfl, payloads_last quiet false, h.counts.tells_last quiet false⟩

theorem Reads.reject (invalid : (scan ((scan seen).rest ++ chunk)).ending = .invalid) :
    (run.settle (r.receive chunk) false).Rejects schedulee (seen ++ chunk) := by
  obtain ⟨ended, same, told⟩ := h.refuse fits invalid
  refine ⟨ended, ?_, ⟨_, told⟩, same ▸ h.nonempty⟩
  rw [scan_append]
  exact invalid

theorem Reads.accept (roomy : 64 ≤ size)
    (valid : (scan ((scan seen).rest ++ chunk)).ending ≠ .invalid) :
    ∃ r', (run.settle (r.receive chunk) false).Reads schedulee queue size (seen ++ chunk) r' := by
  have filled := h.filled_decode fits
  have answer := h.answer_decode fits
  have consumed := h.consumed_decode fits valid
  have whole := scan_append seen chunk
  rw [Decoder.text_of_valid _ _ valid] at answer
  generalize bytes_eq : (scan seen).rest ++ chunk = bytes at *
  have spec := (scan_spec bytes).1
  generalize r.receive chunk = turn, r.receive_does chunk = does at *
  cases does with
  | rejects e error =>
    rw [answer] at error
    cases error
  | overflows pair ok idle full =>
    -- No character was read, so what fills the buffer would be less than one.
    have length := r.length_decode chunk
    have short := length_rest_le valid
    have sized := h.counts.sized
    rw [List.eq_nil_of_length_eq_zero (consumed.symm.trans idle), List.nil_append] at spec
    rw [filled] at length
    rw [spec] at short
    omega
  | keeps pair ok idle room =>
    have none := List.eq_nil_of_length_eq_zero (consumed.symm.trans idle)
    rw [none, List.nil_append] at spec
    refine ⟨r.keep chunk, rfl, by simp [settle, h.live], h.decoder, h.counts.keep ok idle false,
      ?_, ?_, ?_, ?_⟩
    · rw [whole]
      exact valid
    · rw [whole]
      exact filled.trans spec.symm
    · rw [whole, encode_append, none, List.append_nil, ← h.given, ReadRun.text, ReadRun.text,
        payloads_settle, DecodeCall.payload?_eq_none idle, Option.toList_none, List.append_nil]
    · rw [payloads_settle, DecodeCall.payload?_eq_none idle, Option.toList_none, List.append_nil]
      exact h.nonempty
  | moves payload emitted progress =>
    have same : String.ofList (scan bytes).chars = payload := by
      simpa [DecodeCall.payload?, answer, Nat.ne_of_gt progress] using emitted
    refine ⟨r.move chunk, rfl, by simp [settle, h.live], h.decoder, h.counts.move emitted false,
      ?_, ?_, ?_, ?_⟩
    · rw [whole]
      exact valid
    · have held : (r.move chunk).buffer.held = bytes.drop (r.decode chunk).consumed := by
        rw [← filled]
        exact ReadBuffer.held_consume _ _
      rw [held, whole, consumed]
      exact (congrArg (List.drop _) spec.symm).trans List.drop_left
    · rw [whole, encode_append, ← h.given, ReadRun.text, ReadRun.text, payloads_settle, emitted,
        Option.toList_some, List.flatMap_append, List.flatMap_singleton, ← same, bytesOf_ofList]
    · rw [payloads_settle, emitted, Option.toList_some]
      intro other member
      rcases List.mem_append.mp member with old | new
      · exact h.nonempty other old
      · rw [List.mem_singleton.mp new, ← same]
        intro empty
        rw [String.ofList_eq_empty_iff.mp empty] at consumed
        rw [consumed] at progress
        exact Nat.lt_irrefl 0 progress

end Step

theorem Rejects.later (h : run.Rejects schedulee seen) (events : List ReadEvent)
    (more : List UInt8) : (run.run events).Rejects schedulee (seen ++ more) := by
  obtain ⟨cancelled, same⟩ := run_of_ended h.ended events
  rw [same]
  exact ⟨h.ended, by rw [scan_append_of_invalid h.invalid more], h.tells, h.nonempty⟩

theorem Reads.feed (h : run.Reads schedulee queue size seen r) (roomy : 64 ≤ size)
    {chunks : List (List UInt8)} (fit : run.Fits chunks) :
    (∃ r', (run.run (chunks.map .data)).Reads schedulee queue size (seen ++ chunks.flatten) r') ∨
      (run.run (chunks.map .data)).Rejects schedulee (seen ++ chunks.flatten) := by
  induction chunks generalizing run seen r with
  | nil =>
    rw [List.flatten_nil, List.append_nil]
    exact .inl ⟨r, h⟩
  | cons chunk chunks ih =>
    obtain ⟨now, later⟩ := fit
    obtain ⟨nonempty, fits⟩ := now r h.running
    have one := step_data h.running h.live nonempty fits
    rw [List.flatten_cons, ← List.append_assoc, List.map_cons, ReadRun.run]
    by_cases invalid : (scan ((scan seen).rest ++ chunk)).ending = .invalid
    · exact .inr ((one ▸ h.reject fits invalid).later _ _)
    · obtain ⟨r', reads⟩ := h.accept fits roomy invalid
      exact ih (one ▸ reads) later

/-- The end of the stream tells whether anything is left of it. -/
theorem Reads.finish (h : run.Reads schedulee queue size seen r) :
    (run.step (.data [])).reading = none ∧ (run.step (.data [])).payloads = run.payloads ∧
    (((scan seen).ending = .complete ∧
      (run.step (.data [])).Tells schedulee (some (endRecord schedulee run.payloads.length))) ∨
    ((scan seen).ending = .incomplete ∧ (run.step (.data [])).Tells schedulee
      (some (errorRecord schedulee (DecodeError.trailing (scan seen).rest.length).message)))) := by
  have quiet : ∀ c : DecodeCall String, none = some c → c.payload? = none := nofun
  have length : r.buffer.filled = (scan seen).rest.length := by
    rw [← h.held, ReadBuffer.length_held]
  have left := (scan_spec seen).2
  rw [step_end h.running h.live, ReadLoop.finish]
  cases ending : (scan seen).ending with
  | complete =>
    rw [ending] at left
    have empty : ¬ 0 < r.buffer.filled := by
      rw [length, show (scan seen).rest = [] from left]
      exact Nat.lt_irrefl 0
    rw [if_neg empty, h.counts.ending_eq]
    exact ⟨rfl, payloads_last quiet false, .inl ⟨rfl, h.counts.tells_last quiet false⟩⟩
  | incomplete =>
    rw [ending] at left
    have some : 0 < r.buffer.filled := by
      rw [length]
      exact List.length_pos_iff.mpr left.1
    rw [if_pos some, ReadLoop.fail, h.counts.failure_eq, length]
    exact ⟨rfl, payloads_last quiet false, .inr ⟨rfl, h.counts.tells_last quiet false⟩⟩
  | invalid => exact absurd ending h.valid

/-- A read of text is always offered all but three bytes of its buffer. -/
theorem Reads.fits (h : run.Reads schedulee queue size seen r) (roomy : 64 ≤ size)
    {chunks : List (List UInt8)}
    (small : ∀ chunk ∈ chunks, chunk ≠ [] ∧ chunk.length + 3 ≤ size) : run.Fits chunks := by
  induction chunks generalizing run seen r with
  | nil => trivial
  | cons chunk chunks ih =>
    obtain ⟨nonempty, short⟩ := small chunk List.mem_cons_self
    have later := fun c member => small c (List.mem_cons_of_mem _ member)
    have fits : chunk.length ≤ r.buffer.free := by
      have held := h.held_le
      have sized := h.counts.sized
      rw [ReadBuffer.free]
      omega
    have one := step_data h.running h.live nonempty fits
    refine ⟨?_, ?_⟩
    · intro r' running
      obtain rfl := Option.some.inj (h.running.symm.trans running)
      exact ⟨nonempty, fits⟩
    · by_cases invalid : (scan ((scan seen).rest ++ chunk)).ending = .invalid
      · exact fits_of_ended (one ▸ h.reject fits invalid).ended chunks
      · obtain ⟨r', reads⟩ := h.accept fits roomy invalid
        exact ih (one ▸ reads) later

/-- The record that ends a read without or with an error of decoding. -/
def lastRecord (schedulee count : Nat) : Option DecodeError → ReadRecord String
  | none => endRecord schedulee count
  | some e => errorRecord schedulee e.message

theorem lastRecord_injective (schedulee count : Nat) :
    Function.Injective (lastRecord schedulee count) := by
  intro e e' same
  have error := congrArg ReadRecord.error same
  cases e with
  | none =>
    cases e' with
    | none => rfl
    | some e' => cases error
  | some e =>
    cases e' with
    | none => cases error
    | some e' => rw [DecodeError.message_injective (Option.some.inj error)]

/-- How a read of text ends, told by reading the whole stream. -/
inductive Ends (whole : Scan) : Option DecodeError → Prop
  | complete (ending : whole.ending = .complete) : Ends whole none
  | incomplete (ending : whole.ending = .incomplete) :
    Ends whole (some (.trailing whole.rest.length))
  | invalid (ending : whole.ending = .invalid) (offset : Nat) :
    Ends whole (some (.invalidUtf8 offset))

/-- A read of text that is given a whole stream and its end. -/
theorem Reads.ends (h : run.Reads schedulee queue size seen r) (roomy : 64 ≤ size)
    {chunks : List (List UInt8)} (fit : run.Fits chunks) :
    let after := run.run (chunks.map .data ++ [.data []])
    after.reading = none ∧ (∀ payload ∈ after.payloads, payload ≠ "") ∧
    ((scan (seen ++ chunks.flatten)).ending ≠ .invalid →
      after.text = encode (scan (seen ++ chunks.flatten)).chars) ∧
    ∃ e, Ends (scan (seen ++ chunks.flatten)) e ∧
      after.Tells schedulee (some (lastRecord schedulee after.payloads.length e)) := by
  have split : run.run (chunks.map .data ++ [.data []])
      = (run.run (chunks.map .data)).step (.data []) := run_append _ _ _
  rw [split]
  rcases h.feed roomy fit with ⟨r', reads⟩ | rejects
  · obtain ⟨ended, same, how⟩ := reads.finish
    have text := congrArg (fun payloads : List String => payloads.flatMap bytesOf) same
    refine ⟨ended, same ▸ reads.nonempty, fun _ => text.trans reads.given, ?_⟩
    rw [same]
    rcases how with ⟨ending, told⟩ | ⟨ending, told⟩
    · exact ⟨none, .complete ending, told⟩
    · exact ⟨_, .incomplete ending, told⟩
  · have later := rejects.later [.data []] []
    rw [List.append_nil] at later
    obtain ⟨offset, told⟩ := later.tells
    exact ⟨later.ended, later.nonempty, fun valid => absurd later.invalid valid,
      _, .invalid later.invalid offset, told⟩

end ReadRun

open ReadRun in
/-- However a stream is cut into reads that fit the buffer, a read of text ends with the end of the
stream if the stream is a text, with the number of bytes left if it is cut within a character, and
with an error of the encoding otherwise, never for want of room. What it gives is never empty, and
in the first two cases it is the longest part of the stream that is a text. -/
theorem text_read_of_any_cut (schedulee queue : Nat) {size : Nat} {chunks : List (List UInt8)}
    (roomy : 64 ≤ size) (fit : (start { schedulee, queue } .text size).Fits chunks) :
    let run := (start { schedulee, queue } .text size).run (chunks.map .data ++ [.data []])
    let stream := chunks.flatten
    run.reading = none ∧ (∀ payload ∈ run.payloads, payload ≠ "") ∧
    (IsText stream ∨ (∃ k, IsCutText k stream) →
      IsLongestText (run.payloads.flatMap bytesOf) stream) ∧
    ∃ last, run.records = dataRecords schedulee run.payloads ++ [last] ∧
      (last = endRecord schedulee run.payloads.length ↔ IsText stream) ∧
      (∀ k, last = errorRecord schedulee (DecodeError.trailing k).message ↔ IsCutText k stream) ∧
      ((∃ offset, last = errorRecord schedulee (DecodeError.invalidUtf8 offset).message) ↔
        ¬ IsText stream ∧ ∀ k, ¬ IsCutText k stream) ∧
      ∀ n, last ≠ errorRecord schedulee (DecodeError.bufferFull n).message := by
  intro run stream
  obtain ⟨ended, nonempty, given, e, ends, told⟩ :=
    (Reads.start schedulee queue size).ends roomy fit
  have ends : Ends (scan stream) e := ends
  have given : (scan stream).ending ≠ .invalid → run.text = encode (scan stream).chars := given
  have told_iff : ∀ e', lastRecord schedulee run.payloads.length e
      = lastRecord schedulee run.payloads.length e' ↔ e = e' := fun e' =>
    (lastRecord_injective schedulee run.payloads.length).eq_iff
  refine ⟨ended, nonempty, ?_, _, told, ?_, ?_, ?_, ?_⟩
  · intro text
    have valid : (scan stream).ending ≠ .invalid := by
      rcases text with text | ⟨k, cut⟩
      · rw [isText_iff_scan.mp text]
        nofun
      · rw [(isCutText_iff_scan.mp cut).1]
        nofun
    change IsLongestText run.text stream
    rw [given valid]
    exact isLongestText_scan stream
  · rw [isText_iff_scan]
    refine (told_iff none).trans ?_
    cases ends <;> simp [*]
  · intro k
    rw [isCutText_iff_scan]
    refine (told_iff (some (.trailing k))).trans ?_
    cases ends <;> simp [*]
  · simp only [isText_iff_scan, isCutText_iff_scan]
    refine (exists_congr fun offset => told_iff (some (.invalidUtf8 offset))).trans ?_
    cases ends <;> simp [*]
  · intro n same
    have full := (told_iff (some (.bufferFull n))).mp same
    cases ends <;> cases full

open ReadRun in
/-- A character of two bytes that comes in two reads. -/
theorem text_read_of_any_cut_of_split_character :
    let chunks : List (List UInt8) := [[0xC3], [0xA9]]
    let run := (start { schedulee := 7 } .text 64).run (chunks.map .data ++ [.data []])
    (start { schedulee := 7 } .text 64).Fits chunks ∧ IsText chunks.flatten ∧
    run.records = dataRecords 7 run.payloads ++ [endRecord 7 run.payloads.length] ∧
    IsLongestText (run.payloads.flatMap bytesOf) chunks.flatten := by
  intro chunks run
  have roomy : 64 ≤ 64 := Nat.le_refl 64
  have fit : (start { schedulee := 7 } .text 64).Fits chunks :=
    (Reads.start 7 0 64).fits roomy (by decide)
  have text : IsText chunks.flatten := isText_iff.mpr ⟨['é'], by decide⟩
  obtain ⟨_, _, longest, last, told, ends, _⟩ := text_read_of_any_cut 7 0 roomy fit
  rw [ends.mpr text] at told
  exact ⟨fit, text, told, longest (.inl text)⟩

end SocketBridge
