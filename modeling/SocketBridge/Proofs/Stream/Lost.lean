import SocketBridge.Proofs.Stream.Text

/-!
# Text lost before bytes that are not text

A read of text ends at the first of its reads after which no text can go on, and the text that came
in that read is not given. So what is given of a stream that is not text hangs on how the stream was
cut. The error makes up for it: it counts the bytes of text that were lost.
-/

namespace SocketBridge

open Utf8

namespace ReadRun

variable {run : ReadRun String} {schedulee queue size : Nat} {seen : List UInt8}
  {r : ReadLoop String}

/-- What a read of text gives of a stream that is not text: the text of all reads before the one
that made it so. Of the longest text of the stream, `front`, it lacks the last `lost` bytes, as the
last record tells. -/
structure Loses (run : ReadRun String) (schedulee : Nat) (chunks : List (List UInt8))
    (front : List UInt8) (lost : Nat) : Prop where
  ended : run.reading = none
  told : run.records = dataRecords schedulee run.payloads ++
    [errorRecord schedulee (DecodeError.invalidUtf8 lost).message]
  lacks : ∃ rest, run.text ++ rest = front ∧ rest.length = lost
  reads : ∃ before chunk after, chunks = before ++ chunk :: after ∧
    (∃ more, IsText (before.flatten ++ more)) ∧
    (∀ more, ¬IsText (before.flatten ++ chunk ++ more)) ∧
    IsLongestText run.text before.flatten

/-- Some read is the first that makes a stream such that no text goes on from it. -/
theorem exists_spoiling {chunks : List (List UInt8)} (valid : (scan seen).ending ≠ .invalid)
    (invalid : (scan (seen ++ chunks.flatten)).ending = .invalid) :
    ∃ before chunk after, chunks = before ++ chunk :: after ∧
      (scan (seen ++ before.flatten)).ending ≠ .invalid ∧
      (scan (seen ++ before.flatten ++ chunk)).ending = .invalid := by
  induction chunks generalizing seen with
  | nil =>
    rw [List.flatten_nil, List.append_nil] at invalid
    exact absurd invalid valid
  | cons chunk chunks ih =>
    by_cases now : (scan (seen ++ chunk)).ending = .invalid
    · exact ⟨[], chunk, chunks, rfl, by simpa using valid, by simpa using now⟩
    · rw [List.flatten_cons, ← List.append_assoc] at invalid
      obtain ⟨before, last, after, rfl, found⟩ := ih now invalid
      refine ⟨chunk :: before, last, after, rfl, ?_⟩
      rw [List.flatten_cons, ← List.append_assoc]
      exact found

/-- A read of text goes on until a read brings bytes that are not text, and ends there. -/
theorem Reads.spoil (h : run.Reads schedulee queue size seen r) (roomy : 64 ≤ size)
    {before after : List (List UInt8)} {chunk : List UInt8}
    (fit : run.Fits (before ++ chunk :: after))
    (valid : (scan (seen ++ before.flatten)).ending ≠ .invalid)
    (invalid : (scan (seen ++ before.flatten ++ chunk)).ending = .invalid) :
    let last := run.run ((before ++ chunk :: after).map .data)
    let lost := (encode (scan ((scan (seen ++ before.flatten)).rest ++ chunk)).chars).length
    last.reading = none ∧ last.text = encode (scan (seen ++ before.flatten)).chars ∧
      last.Tells schedulee (some (errorRecord schedulee (DecodeError.invalidUtf8 lost).message)) := by
  induction before generalizing run seen r with
  | nil =>
    rw [List.flatten_nil, List.append_nil] at invalid ⊢
    obtain ⟨now, -⟩ := fit
    obtain ⟨nonempty, fits⟩ := now r h.running
    rw [scan_append] at invalid
    obtain ⟨ended, same, told⟩ := h.refuse fits invalid
    have given := congrArg (fun payloads : List String => payloads.flatMap bytesOf) same
    -- All later reads find the read ended.
    rw [← step_data h.running h.live nonempty fits] at ended told given
    obtain ⟨cancelled, rest⟩ := run_of_ended ended (after.map .data)
    rw [List.nil_append, List.map_cons, ReadRun.run, rest]
    exact ⟨ended, given.trans h.given, told⟩
  | cons first before ih =>
    obtain ⟨now, later⟩ := fit
    obtain ⟨nonempty, fits⟩ := now r h.running
    rw [List.flatten_cons, ← List.append_assoc] at valid invalid ⊢
    have goes : (scan ((scan seen).rest ++ first)).ending ≠ .invalid := by
      intro bad
      have spoiled : (scan (seen ++ first)).ending = .invalid := by
        rw [scan_append]
        exact bad
      exact valid (by rw [scan_append_of_invalid spoiled])
    obtain ⟨r', reads⟩ := h.accept fits roomy goes
    exact ih (step_data h.running h.live nonempty fits ▸ reads) later valid invalid

theorem Reads.text_of_spoiled (h : run.Reads schedulee queue size [] r) (roomy : 64 ≤ size)
    (before : List (List UInt8)) {chunk : List UInt8} {after : List (List UInt8)}
    (fit : run.Fits (before ++ chunk :: after)) {front : Scan} (read : scan before.flatten = front)
    (valid : front.ending ≠ .invalid)
    (invalid : (scan (before.flatten ++ chunk)).ending = .invalid) :
    (run.run ((before ++ chunk :: after).map .data)).text = encode front.chars := by
  subst read
  exact (h.spoil roomy fit valid invalid).2.1

theorem Reads.loses (h : run.Reads schedulee queue size [] r) (roomy : 64 ≤ size)
    {chunks : List (List UInt8)} (fit : run.Fits chunks)
    (invalid : (scan chunks.flatten).ending = .invalid) :
    ∃ lost, (run.run (chunks.map .data)).Loses schedulee chunks
      (encode (scan chunks.flatten).chars) lost := by
  obtain ⟨before, chunk, after, rfl, valid, bad⟩ := exists_spoiling h.valid invalid
  obtain ⟨ended, given, told⟩ := h.spoil roomy fit valid bad
  rw [List.nil_append] at valid bad given told
  have whole : (before ++ chunk :: after).flatten = before.flatten ++ chunk ++ after.flatten := by
    simp
  refine ⟨_, ended, told, ⟨encode (scan ((scan before.flatten).rest ++ chunk)).chars, ?_, rfl⟩,
    before, chunk, after, rfl, exists_isText_append_iff.mpr valid, ?_, ?_⟩
  · have read : (scan (before ++ chunk :: after).flatten).chars =
        (scan (before.flatten ++ chunk)).chars := by rw [whole, scan_append_of_invalid bad]
    rw [given, read, scan_append before.flatten chunk, encode_append]
  · exact not_exists.mp fun text => exists_isText_append_iff.mp text bad
  · rw [given]
    exact isLongestText_scan before.flatten

end ReadRun

open ReadRun in
/-- Of a stream that is not text, every read of text gives a part of the longest text of the stream,
however the stream is cut and whatever room the buffer has: the text of the reads before the one that
brought the bad bytes, where the error counts the bytes that are missing. So of two such reads one
gives the beginning of what the other gives, and they give the same just when they fail alike. -/
theorem lost_text_is_counted (schedulee queue : Nat) {size size' : Nat}
    {chunks chunks' : List (List UInt8)} (roomy : 64 ≤ size) (roomy' : 64 ≤ size')
    (fit : (start { schedulee, queue } .text size).Fits chunks)
    (fit' : (start { schedulee, queue } .text size').Fits chunks')
    (same : chunks'.flatten = chunks.flatten)
    (invalid : ∀ more, ¬IsText (chunks.flatten ++ more)) :
    let run := (start { schedulee, queue } .text size).run (chunks.map .data)
    let run' := (start { schedulee, queue } .text size').run (chunks'.map .data)
    ∃ front lost lost', IsLongestText front chunks.flatten ∧
      run.Loses schedulee chunks front lost ∧ run'.Loses schedulee chunks' front lost' ∧
      (run.text <+: run'.text ∨ run'.text <+: run.text) ∧
      (run.text = run'.text ↔ lost = lost') ∧ (run.text = front ↔ lost = 0) := by
  intro run run'
  have bad : (scan chunks.flatten).ending = .invalid := by
    by_contra valid
    obtain ⟨more, text⟩ := exists_isText_append_iff.mpr valid
    exact invalid more text
  obtain ⟨lost, loses⟩ := (Reads.start schedulee queue size).loses roomy fit bad
  obtain ⟨lost', loses'⟩ := (Reads.start schedulee queue size').loses roomy' fit' (same ▸ bad)
  rw [same] at loses'
  obtain ⟨rest, split, length⟩ := loses.lacks
  obtain ⟨rest', split', length'⟩ := loses'.lacks
  have prefixes : run.text <+: run'.text ∨ run'.text <+: run.text :=
    List.prefix_or_prefix_of_prefix ⟨rest, split⟩ ⟨rest', split'⟩
  have total : run.text.length + lost = run'.text.length + lost' := by
    rw [← length, ← length', ← List.length_append, ← List.length_append, split, split']
  refine ⟨_, lost, lost', isLongestText_scan _, loses, loses', prefixes, ⟨?_, ?_⟩, ⟨?_, ?_⟩⟩
  · intro equal
    have := congrArg List.length equal
    omega
  · intro equal
    have : run.text.length = run'.text.length := by omega
    rcases prefixes with shorter | shorter
    · exact shorter.eq_of_length this
    · exact (shorter.eq_of_length this.symm).symm
  · intro all
    rw [← length, List.self_eq_append_right.mp (all.trans split.symm), List.length_nil]
  · intro none
    rw [none, List.length_eq_zero_iff] at length
    rw [← split, length, List.append_nil]

open ReadRun in
/-- Cut within a character, the bad byte comes with two bytes of text; cut behind it, with none. -/
theorem lost_text_is_counted_of_two_cuts :
    let early : List (List UInt8) := [[0x68, 0xC3], [0xA9, 0xFF], [0x78]]
    let late : List (List UInt8) := [[0x68, 0xC3, 0xA9], [0xFF, 0x78]]
    let run := (start { schedulee := 7 } .text 64).run (early.map .data)
    let run' := (start { schedulee := 7 } .text 100).run (late.map .data)
    run.text = [0x68] ∧ run'.text = [0x68, 0xC3, 0xA9] ∧
    ∃ front lost lost', IsLongestText front early.flatten ∧ run.Loses 7 early front lost ∧
      run'.Loses 7 late front lost' ∧ lost ≠ lost' := by
  intro early late run run'
  have fit : (start { schedulee := 7 } .text 64).Fits early :=
    (Reads.start 7 0 64).fits (Nat.le_refl 64) (by decide)
  have fit' : (start { schedulee := 7 } .text 100).Fits late :=
    (Reads.start 7 0 100).fits (by decide) (by decide)
  have half : scan [0x68, 0xC3] = ⟨['h'], [0xC3], .incomplete⟩ := by cbv
  have whole : scan [0x68, 0xC3, 0xA9] = ⟨['h', 'é'], [], .complete⟩ := by cbv
  have given : run.text = [0x68] := (Reads.start 7 0 64).text_of_spoiled (Nat.le_refl 64)
    [_] fit half nofun (by cbv)
  have given' : run'.text = [0x68, 0xC3, 0xA9] := (Reads.start 7 0 100).text_of_spoiled (by decide)
    [_] fit' whole nofun (by cbv)
  have invalid : ∀ more, ¬IsText (early.flatten ++ more) := not_exists.mp fun text =>
    exists_isText_append_iff.mp text (by cbv : (scan early.flatten).ending = .invalid)
  obtain ⟨front, lost, lost', longest, loses, loses', -, alike, -⟩ :=
    lost_text_is_counted 7 0 (Nat.le_refl 64) (by decide) fit fit' rfl invalid
  refine ⟨given, given', front, lost, lost', longest, loses, loses', fun same => ?_⟩
  have equal : run.text = run'.text := alike.mpr same
  rw [given, given'] at equal
  cases equal

open ReadRun in
/-- Two good characters and a bad byte: cut before the bad byte the text is given, uncut it is not. -/
theorem given_text_hangs_on_cut :
    let uncut : List (List UInt8) := [[0x6F, 0x6B, 0xFF]]
    let cut : List (List UInt8) := [[0x6F, 0x6B], [0xFF]]
    let start := start { schedulee := 7 } .text 64
    start.Fits uncut ∧ start.Fits cut ∧ cut.flatten = uncut.flatten ∧
    (∀ more, ¬IsText (uncut.flatten ++ more)) ∧ IsLongestText [0x6F, 0x6B] uncut.flatten ∧
    (start.run (cut.map .data)).text = [0x6F, 0x6B] ∧ (start.run (uncut.map .data)).text = [] := by
  intro uncut cut start
  have roomy : 64 ≤ 64 := Nat.le_refl 64
  have fit : start.Fits uncut := (Reads.start 7 0 64).fits roomy (by decide)
  have fit' : start.Fits cut := (Reads.start 7 0 64).fits roomy (by decide)
  have good : scan [0x6F, 0x6B] = ⟨['o', 'k'], [], .complete⟩ := by cbv
  have bad : scan uncut.flatten = ⟨['o', 'k'], [0xFF], .invalid⟩ := by cbv
  have longest : IsLongestText (encode (scan uncut.flatten).chars) uncut.flatten :=
    isLongestText_scan uncut.flatten
  rw [bad] at longest
  have invalid : (scan uncut.flatten).ending = .invalid := congrArg Scan.ending bad
  refine ⟨fit, fit', rfl, ?_, longest, ?_, ?_⟩
  · exact not_exists.mp fun text => exists_isText_append_iff.mp text invalid
  · exact (Reads.start 7 0 64).text_of_spoiled roomy [_] fit' good nofun invalid
  · exact (Reads.start 7 0 64).text_of_spoiled roomy [] fit scan_nil nofun invalid

end SocketBridge
