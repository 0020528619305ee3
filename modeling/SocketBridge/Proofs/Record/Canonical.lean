import SocketBridge.Proofs.Record.Layout

/-!
# One spelling for each address

The converse of the round trip. Whatever reading takes off the front of some bytes is what writing
makes of the value that was read, so no byte string but that one is read as the value. Nothing is
said of what a failed read leaves.
-/

namespace SocketBridge.Record

theorem take_eq_ok {n : Nat} {bs taken rest : List UInt8} (read : take n bs = .ok taken rest) :
    bs = taken ++ rest ∧ taken.length = n := by
  rw [take_apply] at read
  split at read
  · cases read
  · rename_i enough
    cases read
    refine ⟨(List.take_append_drop n bs).symm, ?_⟩
    rw [List.length_take]
    omega

theorem getInt_eq_ok {n : Int32} {bs rest : List UInt8} (read : getInt bs = .ok n rest) :
    bs = Bytes.ofInt32 n ++ rest := by
  obtain ⟨four, taken, rfl⟩ := map_eq_ok_iff.mp read
  obtain ⟨split, length⟩ := take_eq_ok taken
  rw [Bytes.ofInt32_toInt32 length, split]

/-- A length that is not negative is the only spelling of its number. -/
theorem ofNat_toNat_toInt {n : Int32} (positive : ¬n < 0) :
    Int32.ofNat n.toInt.toNat = n ∧ n.toInt.toNat < maxLength := by
  rw [Int32.lt_iff_toInt_lt] at positive
  have small := n.toInt_lt
  have whole : (n.toInt.toNat : Int) = n.toInt := Int.toNat_of_nonneg (by simpa using positive)
  have fits : n.toInt.toNat < maxLength := by
    rw [maxLength]
    omega
  refine ⟨Int32.toInt_inj.mp ?_, fits⟩
  rw [toInt_ofNat_length fits, whole]

theorem getBlock_eq_ok {bs block rest : List UInt8} (read : getBlock bs = .ok block rest) :
    bs = blockBytes block ++ rest ∧ block.length < maxLength := by
  obtain ⟨n, between, length, body⟩ := bind_eq_ok_iff.mp read
  obtain rfl := getInt_eq_ok length
  split at body
  · cases body
  · rename_i positive
    obtain ⟨spelt, fits⟩ := ofNat_toNat_toInt positive
    obtain ⟨rfl, taken⟩ := take_eq_ok body
    rw [← taken] at spelt fits
    rw [blockBytes, spelt, List.append_assoc]
    exact ⟨rfl, fits⟩

theorem decode?_eq_some {bs : List UInt8} {cs : List Char} (read : Utf8.decode? bs = some cs) :
    Utf8.bytesOf (String.ofList cs) = bs := by
  simp only [Utf8.decode?] at read
  split at read
  · rename_i complete
    obtain ⟨split, left⟩ := Utf8.scan_spec bs
    rw [complete] at left
    rw [show (Utf8.scan bs).rest = [] from left, List.append_nil] at split
    rw [← Option.some.inj read, Utf8.bytesOf_ofList, split]
  · cases read

theorem getText_eq_ok {s : String} {bs rest : List UInt8} (read : getText bs = .ok s rest) :
    bs = textBytes s ++ rest ∧ s.utf8ByteSize < maxLength := by
  obtain ⟨block, between, body, decode⟩ := bind_eq_ok_iff.mp read
  obtain ⟨rfl, fits⟩ := getBlock_eq_ok body
  cases decoded : Utf8.decode? block with
  | some cs =>
    rw [decoded] at decode
    cases decode
    have spelt := decode?_eq_some decoded
    refine ⟨by rw [textBytes, spelt], ?_⟩
    rw [← spelt] at fits
    exact fits
  | none =>
    rw [decoded] at decode
    cases decode

/-- A call takes the bytes of what it gives, and no other bytes are read as that. -/
theorem get_eq_ok_iff {kind : PrimitiveKind} {value : kind.Value} {bs rest : List UInt8} :
    reader.get kind bs = .ok value rest ↔
      bs = primitiveBytes ⟨kind, value⟩ ++ rest ∧ Fits ⟨kind, value⟩ := by
  constructor
  · intro read
    cases kind with
    | int => exact ⟨getInt_eq_ok read, trivial⟩
    | text => exact getText_eq_ok read
    | block => exact getBlock_eq_ok read
  · rintro ⟨rfl, fits⟩
    exact reads_get fits rest

theorem gives_iff {ps : List Primitive} {bs rest : List UInt8} : reader.Gives bs ps rest ↔
    bs = ps.flatMap primitiveBytes ++ rest ∧ ∀ p ∈ ps, Fits p := by
  constructor
  · intro gives
    induction gives with
    | nil bs => exact ⟨rfl, nofun⟩
    | cons here _ ih =>
      obtain ⟨rfl, fits⟩ := get_eq_ok_iff.mp here
      obtain ⟨rfl, later⟩ := ih
      exact ⟨by rw [List.flatMap_cons, List.append_assoc], List.forall_mem_cons.mpr ⟨fits, later⟩⟩
  · rintro ⟨rfl, fits⟩
    exact gives_of_fits fits rest

/-- Whatever is read as an address is what is written of it. -/
theorem read_eq_ok {a : Address} {bs rest : List UInt8}
    (read : Address.read reader bs = .ok a rest) :
    bs = addressBytes a ++ rest ∧ (a.hostname.getD "").utf8ByteSize < maxLength := by
  rw [Address.read_eq_ok_iff_gives, gives_iff, fits_fields_iff, ← addressBytes_eq] at read
  exact read

theorem fits_of_putBlock {bs before after : List UInt8}
    (written : putBlock bs before = .ok () after) : bs.length < maxLength := by
  unfold putBlock at written
  split at written
  · cases written
  · omega

theorem fits_of_put {p : Primitive} {before after : List UInt8}
    (written : writer.put p before = .ok () after) : Fits p := by
  match p with
  | .int _ => trivial
  | .text s =>
    have fits : (Utf8.encode s.toList).length < maxLength := fits_of_putBlock written
    rwa [encode_toList] at fits
  | .block _ => exact fits_of_putBlock written

theorem put_eq_ok_iff {p : Primitive} {before after : List UInt8} :
    writer.put p before = .ok () after ↔ after = before ++ primitiveBytes p ∧ Fits p := by
  constructor
  · intro written
    have fits := fits_of_put written
    cases written.symm.trans (writes_put fits before)
    exact ⟨rfl, fits⟩
  · rintro ⟨rfl, fits⟩
    exact writes_put fits before

/-- Values are written in full exactly if they all fit. -/
theorem takes_iff {ps : List Primitive} {before after : List UInt8} :
    writer.Takes before ps after ↔
      after = before ++ ps.flatMap primitiveBytes ∧ ∀ p ∈ ps, Fits p := by
  constructor
  · intro takes
    induction takes with
    | nil before => exact ⟨(List.append_nil before).symm, nofun⟩
    | cons here _ ih =>
      obtain ⟨rfl, fits⟩ := put_eq_ok_iff.mp here
      obtain ⟨rfl, later⟩ := ih
      exact ⟨List.append_assoc .., List.forall_mem_cons.mpr ⟨fits, later⟩⟩
  · rintro ⟨rfl, fits⟩
    exact writer.forM_put_eq_ok_iff.mp (writes_forM_put fits before)

theorem write_eq_ok_iff {a : Address} {spelling : List UInt8} :
    a.write writer [] = .ok () spelling ↔
      spelling = addressBytes a ∧ (a.hostname.getD "").utf8ByteSize < maxLength := by
  rw [a.write_eq_forM, writer.forM_put_eq_ok_iff, takes_iff, fits_fields_iff, addressBytes_eq,
    List.nil_append]

/-- Reading an address undoes writing it and nothing else. -/
theorem read_eq_ok_iff {a : Address} {bs rest : List UInt8} :
    Address.read reader bs = .ok a rest ↔
      ∃ spelling, a.write writer [] = .ok () spelling ∧ bs = spelling ++ rest := by
  constructor
  · intro read
    obtain ⟨split, fits⟩ := read_eq_ok read
    exact ⟨addressBytes a, write_eq_ok_iff.mpr ⟨rfl, fits⟩, split⟩
  · rintro ⟨spelling, written, rfl⟩
    obtain ⟨rfl, fits⟩ := write_eq_ok_iff.mp written
    exact reads_address fits rest

/-- A byte string is read as an address exactly if it begins with what is written of one. There is
one such address then, it is the one that is read, and what is taken off the front is what is
written of it. So an address has one spelling, whatever stands behind it. -/
theorem address_spelling_unique (bs : List UInt8) :
    (∀ a rest, Address.read reader bs = .ok a rest ↔
      ∃ spelling, a.write writer [] = .ok () spelling ∧ bs = spelling ++ rest) ∧
    ((∃ a rest, Address.read reader bs = .ok a rest) ↔
      ∃ (a : Address) (spelling : List UInt8),
        a.write writer [] = .ok () spelling ∧ spelling <+: bs) ∧
    (∀ a b first second, Address.write writer a [] = .ok () first →
      Address.write writer b [] = .ok () second → first <+: bs → second <+: bs →
        a = b ∧ first = second) ∧
    ∀ other a rest rest', Address.read reader bs = .ok a rest →
      Address.read reader other = .ok a rest' →
        ∃ spelling, bs = spelling ++ rest ∧ other = spelling ++ rest' := by
  refine ⟨fun a rest => read_eq_ok_iff, ⟨?_, ?_⟩, ?_, ?_⟩
  · rintro ⟨a, rest, read⟩
    obtain ⟨spelling, written, split⟩ := read_eq_ok_iff.mp read
    exact ⟨a, spelling, written, rest, split.symm⟩
  · rintro ⟨a, spelling, written, rest, split⟩
    exact ⟨a, rest, read_eq_ok_iff.mpr ⟨spelling, written, split.symm⟩⟩
  · rintro a b first second writtenA writtenB ⟨restA, splitA⟩ ⟨restB, splitB⟩
    have readA := read_eq_ok_iff.mpr ⟨first, writtenA, splitA.symm⟩
    have readB := read_eq_ok_iff.mpr ⟨second, writtenB, splitB.symm⟩
    have same := readA.symm.trans readB
    cases same
    exact ⟨rfl, List.append_cancel_right (splitA.trans splitB.symm)⟩
  · intro other a rest rest' read read'
    obtain ⟨spelling, written, split⟩ := read_eq_ok_iff.mp read
    obtain ⟨spelling', written', split'⟩ := read_eq_ok_iff.mp read'
    have same := written.symm.trans written'
    cases same
    exact ⟨spelling, split, split'⟩

/-- A port that is one too high is no spelling of any port. -/
example :
    Address.read reader [1, 0, 0, 0, 0, 0, 0, 0, 4, 0, 0, 0, 10, 0, 0, 1, 0, 0, 1, 0] =
      .error (.portOutOfRange 65536) [] := by
  cbv

end SocketBridge.Record
