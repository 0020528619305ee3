import Mathlib.Algebra.Group.Nat.Defs
import Mathlib.Data.List.Induction
import SocketBridge.Bytes

/-!
# Numbers as bytes

The base-256 digits of a number stand for that number, up to the width they were cut to. Bytes are
the digits of the number they stand for, so that no number has two spellings of one width.
-/

namespace SocketBridge.Bytes

theorem toNat_concat (bs : List UInt8) (b : UInt8) :
    toNat (bs ++ [b]) = 256 * toNat bs + b.toNat := by
  simp only [toNat, List.foldl_append, List.foldl_cons, List.foldl_nil]

theorem length_ofNat (width n : Nat) : (ofNat width n).length = width := by
  induction width generalizing n with
  | zero => rfl
  | succ width ih => rw [ofNat, List.length_append, ih, List.length_singleton]

theorem toNat_ofNat (width n : Nat) : toNat (ofNat width n) = n % 256 ^ width := by
  induction width generalizing n with
  | zero => rw [Nat.pow_zero, Nat.mod_one]; rfl
  | succ width ih =>
    have digit : (UInt8.ofNat n).toNat = n % 256 := UInt8.toNat_ofNat'
    rw [ofNat, toNat_concat, ih, digit, Nat.pow_succ, Nat.mul_comm (256 ^ width), Nat.mod_mul]
    omega

theorem toNat_lt (bs : List UInt8) : toNat bs < 256 ^ bs.length := by
  induction bs using List.reverseRecOn with
  | nil => exact Nat.one_pos
  | append_singleton bs b ih =>
    have digit := b.toNat_lt
    rw [toNat_concat, List.length_append, List.length_singleton, Nat.pow_succ]
    omega

theorem ofNat_toNat (bs : List UInt8) : ofNat bs.length (toNat bs) = bs := by
  induction bs using List.reverseRecOn with
  | nil => rfl
  | append_singleton bs b ih =>
    have digit := b.toNat_lt
    have high : (256 * toNat bs + b.toNat) / 256 = toNat bs := by omega
    have low : UInt8.ofNat (256 * toNat bs + b.toNat) = b := by
      refine UInt8.toNat_inj.mp ?_
      rw [UInt8.toNat_ofNat']
      omega
    rw [toNat_concat, List.length_append, List.length_singleton, ofNat, high, low, ih]

theorem length_groups {width : Nat} (positive : 0 < width) (bs : List UInt8) :
    (groups width bs).length = bs.length / width := by
  fun_induction groups width bs with
  | case1 bs enough ih =>
    rw [List.length_cons, ih, List.length_drop]
    exact (Nat.div_eq_sub_div positive enough.2).symm
  | case2 bs few => exact (Nat.div_eq_of_lt (by omega)).symm

/-- Each group has the width, and if there is no shorter one left over, nothing is lost. -/
theorem groups_spec {width : Nat} (positive : 0 < width) (bs : List UInt8) :
    (∀ g ∈ groups width bs, g.length = width) ∧
      (width ∣ bs.length → (groups width bs).flatten = bs) := by
  fun_induction groups width bs with
  | case1 bs enough ih =>
    obtain ⟨widths, flat⟩ := ih
    constructor
    · intro g member
      rcases List.mem_cons.mp member with rfl | member
      · exact List.length_take_of_le enough.2
      · exact widths g member
    · intro whole
      have rest : width ∣ (bs.drop width).length := by
        rw [List.length_drop]
        exact Nat.dvd_sub whole (Nat.dvd_refl width)
      rw [List.flatten_cons, flat rest, List.take_append_drop]
  | case2 bs few =>
    refine ⟨nofun, fun whole => ?_⟩
    have short : bs.length < width := by omega
    exact (List.length_eq_zero_iff.mp (Nat.eq_zero_of_dvd_of_lt whole short)).symm

theorem toNat_append (as bs : List UInt8) :
    toNat (as ++ bs) = 256 ^ bs.length * toNat as + toNat bs := by
  induction bs using List.reverseRecOn with
  | nil => simp [toNat]
  | append_singleton bs b ih =>
    rw [← List.append_assoc, toNat_concat, toNat_concat, ih, List.length_append,
      List.length_singleton, Nat.pow_succ', Nat.mul_add, Nat.mul_assoc, Nat.add_assoc]

/-- Bytes that are joined from groups of one width are cut into these again. -/
theorem groups_flatten {width : Nat} (positive : 0 < width) {gs : List (List UInt8)}
    (widths : ∀ g ∈ gs, g.length = width) : groups width gs.flatten = gs := by
  induction gs with
  | nil =>
    have few : ¬(0 < width ∧ width ≤ 0) := by omega
    exact groups.eq_1 width [] ▸ if_neg few
  | cons g gs ih =>
    obtain ⟨first, rest⟩ := List.forall_mem_cons.mp widths
    have enough : 0 < width ∧ width ≤ (g ++ gs.flatten).length := by
      rw [List.length_append]
      omega
    rw [List.flatten_cons, groups, if_pos enough, ← first, List.take_left, List.drop_left, first,
      ih rest]

theorem length_ofInt32 (n : Int32) : (ofInt32 n).length = 4 := by
  rw [ofInt32, List.length_reverse, length_ofNat]

@[simp] theorem toInt32_ofInt32 (n : Int32) : toInt32 (ofInt32 n) = n := by
  have small : n.toUInt32.toNat < 256 ^ 4 := n.toUInt32.toNat_lt
  rw [toInt32, ofInt32, List.reverse_reverse, toNat_ofNat, Nat.mod_eq_of_lt small,
    UInt32.ofNat_toNat, Int32.toInt32_toUInt32]

/-- Any four bytes are the spelling of the number they stand for. -/
theorem ofInt32_toInt32 {bs : List UInt8} (four : bs.length = 4) : ofInt32 (toInt32 bs) = bs := by
  have four' : bs.reverse.length = 4 := by rw [List.length_reverse, four]
  have small := toNat_lt bs.reverse
  rw [four'] at small
  have value : (UInt32.ofNat (toNat bs.reverse)).toNat = toNat bs.reverse := by
    rw [UInt32.toNat_ofNat']
    omega
  have digits := ofNat_toNat bs.reverse
  rw [four'] at digits
  rw [ofInt32, toInt32, UInt32.toUInt32_toInt32, value, digits, List.reverse_reverse]

end SocketBridge.Bytes
