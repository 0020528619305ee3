import SocketBridge.Proofs.Record.Canonical

/-!
# What a failed read leaves

A read that fails takes bytes too, and the next read goes on behind them. It takes none if four bytes
were asked for and fewer are left, the length alone if that is negative or too long, and a whole
block if it is no text.
-/

namespace SocketBridge.Record

open Utf8

/-- How a call fails, with the bytes that it takes and the bytes that it leaves. -/
inductive Fails : PrimitiveKind → RecordError → List UInt8 → List UInt8 → Prop
  | short {kind : PrimitiveKind} {left : List UInt8} (few : left.length < 4) :
    Fails kind (.truncated 4 left.length) [] left
  | negative {kind : PrimitiveKind} (sized : kind ≠ .int) {n : Int32} (negative : n.toInt < 0)
    (left : List UInt8) : Fails kind (.negativeLength n) (Bytes.ofInt32 n) left
  | body {kind : PrimitiveKind} (sized : kind ≠ .int) {n : Nat} (fits : n < maxLength)
    {left : List UInt8} (few : left.length < n) :
    Fails kind (.truncated n left.length) (Bytes.ofInt32 (Int32.ofNat n)) left
  | encoding {bs : List UInt8} (fits : bs.length < maxLength) (foreign : ¬ IsText bs)
    (left : List UInt8) : Fails .text .invalidUtf8 (blockBytes bs) left

theorem Fails.truncated {kind : PrimitiveKind} {needed remaining : Nat} {taken left : List UInt8}
    (fails : Fails kind (.truncated needed remaining) taken left) :
    remaining = left.length ∧ remaining < needed := by
  cases fails with
  | short few => exact ⟨rfl, few⟩
  | body _ _ few => exact ⟨rfl, few⟩

/-- A text fails as a block does, or for what the block is. -/
theorem fails_text_iff {e : RecordError} {taken left : List UInt8} : Fails .text e taken left ↔
    Fails .block e taken left ∨ ∃ bs, bs.length < maxLength ∧ ¬ IsText bs ∧ e = .invalidUtf8 ∧
      taken = blockBytes bs := by
  constructor
  · intro fails
    cases fails with
    | short few => exact Or.inl (.short few)
    | negative _ below => exact Or.inl (.negative (by decide) below left)
    | body _ fits few => exact Or.inl (.body (by decide) fits few)
    | encoding fits foreign => exact Or.inr ⟨_, fits, foreign, rfl, rfl⟩
  · rintro (fails | ⟨bs, fits, foreign, rfl, rfl⟩)
    · cases fails with
      | short few => exact .short few
      | negative _ below => exact .negative (by decide) below left
      | body _ fits few => exact .body (by decide) fits few
    · exact .encoding fits foreign left

theorem take_eq_error_iff {n : Nat} {bs rest : List UInt8} {e : RecordError} :
    take n bs = .error e rest ↔ bs.length < n ∧ e = .truncated n bs.length ∧ rest = bs := by
  rw [take_apply]
  split
  · rename_i short
    simp [short, eq_comm]
  · rename_i enough
    simp [enough]

theorem getInt_eq_error_iff {bs rest : List UInt8} {e : RecordError} :
    getInt bs = .error e rest ↔ bs.length < 4 ∧ e = .truncated 4 bs.length ∧ rest = bs := by
  rw [← take_eq_error_iff]
  exact map_eq_error_iff

/-- A length comes as four bytes, and is negative or fits. -/
theorem sign_cases (n : Int32) :
    n < 0 ∧ n.toInt < 0 ∨ ¬n < 0 ∧ ∃ length < maxLength, Int32.ofNat length = n ∧
      n.toInt.toNat = length := by
  by_cases negative : n < 0
  · exact Or.inl ⟨negative, Int32.lt_iff_toInt_lt.mp negative⟩
  · obtain ⟨spelt, fits⟩ := ofNat_toNat_toInt negative
    exact Or.inr ⟨negative, _, fits, spelt, rfl⟩

theorem getBlock_eq_error_iff {bs rest : List UInt8} {e : RecordError} :
    getBlock bs = .error e rest ↔ ∃ taken, bs = taken ++ rest ∧ Fails .block e taken rest := by
  rw [getBlock_eq, bind_eq_error_iff]
  constructor
  · rintro (length | ⟨n, between, length, body⟩)
    · obtain ⟨few, rfl, rfl⟩ := getInt_eq_error_iff.mp length
      exact ⟨[], rfl, .short few⟩
    · obtain rfl := getInt_eq_ok length
      rcases sign_cases n with ⟨negative, below⟩ | ⟨positive, length, fits, rfl, same⟩
      · rw [if_pos negative] at body
        cases body
        exact ⟨_, rfl, .negative (by decide) below rest⟩
      · rw [if_neg positive, same] at body
        obtain ⟨few, rfl, rfl⟩ := take_eq_error_iff.mp body
        exact ⟨_, rfl, .body (by decide) fits few⟩
  · rintro ⟨taken, rfl, fails⟩
    cases fails with
    | short few => exact Or.inl (getInt_eq_error_iff.mpr ⟨few, rfl, rfl⟩)
    | negative _ below =>
      refine Or.inr ⟨_, rest, reads_getInt _ rest, ?_⟩
      rw [if_pos (Int32.lt_iff_toInt_lt.mpr below)]
      rfl
    | body _ fits few =>
      refine Or.inr ⟨_, rest, reads_getInt _ rest, ?_⟩
      rw [if_neg (not_ofNat_length_neg fits), toInt_ofNat_length fits]
      exact take_eq_error_iff.mpr ⟨few, rfl, rfl⟩

theorem decode?_eq_none_iff {bs : List UInt8} : decode? bs = none ↔ ¬ IsText bs := by
  rw [isText_iff_scan, decode?]
  simp

theorem getText_eq_error_iff {bs rest : List UInt8} {e : RecordError} :
    getText bs = .error e rest ↔ ∃ taken, bs = taken ++ rest ∧ Fails .text e taken rest := by
  rw [getText_eq, bind_eq_error_iff]
  constructor
  · rintro (failed | ⟨block, between, body, decode⟩)
    · obtain ⟨taken, split, fails⟩ := getBlock_eq_error_iff.mp failed
      exact ⟨taken, split, fails_text_iff.mpr (Or.inl fails)⟩
    · obtain ⟨rfl, fits⟩ := getBlock_eq_ok body
      rcases decoded : decode? block with _ | cs
      · rw [decoded] at decode
        cases decode
        exact ⟨_, rfl, .encoding fits (decode?_eq_none_iff.mp decoded) rest⟩
      · rw [decoded] at decode
        cases decode
  · rintro ⟨taken, rfl, fails⟩
    rcases fails_text_iff.mp fails with fails | ⟨block, fits, foreign, rfl, rfl⟩
    · exact Or.inl (getBlock_eq_error_iff.mpr ⟨taken, rfl, fails⟩)
    · refine Or.inr ⟨block, rest, reads_getBlock fits rest, ?_⟩
      rw [decode?_eq_none_iff.mpr foreign]
      rfl

theorem get_eq_error_iff {kind : PrimitiveKind} {bs rest : List UInt8} {e : RecordError} :
    reader.get kind bs = .error e rest ↔ ∃ taken, bs = taken ++ rest ∧ Fails kind e taken rest := by
  cases kind with
  | int =>
    refine getInt_eq_error_iff.trans ⟨?_, ?_⟩
    · rintro ⟨few, rfl, rfl⟩
      exact ⟨[], rfl, .short few⟩
    · rintro ⟨taken, rfl, fails⟩
      cases fails with
      | short few => exact ⟨few, rfl, rfl⟩
      | negative sized => exact absurd rfl sized
      | body sized => exact absurd rfl sized
  | text => exact getText_eq_error_iff
  | block => exact getBlock_eq_error_iff

/-- A failed address takes the fields that were read, and what the call takes that failed. -/
theorem read_eq_error_iff {bs rest : List UInt8} {e : RecordError} :
    Address.read reader bs = .error e rest ↔ ∃ got taken, (∀ p ∈ got, Fits p) ∧
      bs = got.flatMap primitiveBytes ++ taken ++ rest ∧
        ((Address.Refuses got e ∧ taken = []) ∨
          ∃ kind, Address.Awaits got kind ∧ Fails kind e taken rest) := by
  rw [Address.read_eq_error_iff]
  constructor
  · rintro ⟨got, between, gives, ⟨refuses, rfl⟩ | ⟨kind, awaits, failed⟩⟩
    · obtain ⟨rfl, fits⟩ := gives_iff.mp gives
      exact ⟨got, [], fits, by rw [List.append_nil], Or.inl ⟨refuses, rfl⟩⟩
    · obtain ⟨rfl, fits⟩ := gives_iff.mp gives
      obtain ⟨taken, rfl, fails⟩ := get_eq_error_iff.mp failed
      exact ⟨got, taken, fits, by rw [List.append_assoc], Or.inr ⟨kind, awaits, fails⟩⟩
  · rintro ⟨got, taken, fits, rfl, ⟨refuses, rfl⟩ | ⟨kind, awaits, fails⟩⟩
    · refine ⟨got, rest, gives_iff.mpr ⟨?_, fits⟩, Or.inl ⟨refuses, rfl⟩⟩
      rw [List.append_nil]
    · refine ⟨got, taken ++ rest, gives_iff.mpr ⟨?_, fits⟩, Or.inr ⟨kind, awaits, ?_⟩⟩
      · rw [List.append_assoc]
      · exact get_eq_error_iff.mpr ⟨taken, rfl, fails⟩

end SocketBridge.Record
