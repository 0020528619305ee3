import Mathlib.Data.List.Forall2
import Mathlib.Data.List.TakeWhile
import SocketBridge.Proofs.Text.Digits
import SocketBridge.Text.Blank

/-!
# What a text spells

Blanks around a text do not count, and neither does the case of ASCII letters.
-/

namespace SocketBridge

namespace Text

/-- What stands in a text between the blanks on its two sides. -/
structure IsCore (text core : List Char) : Prop where
  parted : ∃ front back, text = front ++ (core ++ back) ∧ (∀ c ∈ front, isBlank c) ∧
    ∀ c ∈ back, isBlank c
  head : ∀ c ∈ core.head?, isBlank c = false
  last : ∀ c ∈ core.getLast?, isBlank c = false

theorem dropWhile_eq_iff {p : Char → Bool} {cs rest : List Char} :
    cs.dropWhile p = rest ↔
      ∃ front, cs = front ++ rest ∧ (∀ c ∈ front, p c) ∧ ∀ c ∈ rest.head?, p c = false := by
  constructor
  · rintro rfl
    refine ⟨cs.takeWhile p, List.takeWhile_append_dropWhile.symm, ?_, ?_⟩
    · exact fun c inside => List.mem_takeWhile_imp inside
    · intro c first
      have stopped := List.head?_dropWhile_not p cs
      rw [Option.mem_def.mp first] at stopped
      exact stopped
  · rintro ⟨front, rfl, inside, boundary⟩
    exact (parted_at_boundary inside boundary).2

/-- Trimming gives what stands between the blanks, and nothing else does. -/
theorem trim_eq_iff {text core : List Char} : trim text = core ↔ IsCore text core := by
  constructor
  · rintro rfl
    obtain ⟨front, parted, blank, first⟩ := dropWhile_eq_iff.mp (Eq.refl (text.dropWhile isBlank))
    obtain ⟨back, parted', blank', last⟩ :=
      dropWhile_eq_iff.mp (Eq.refl ((text.dropWhile isBlank).reverse.dropWhile isBlank))
    have middle : text.dropWhile isBlank = trim text ++ back.reverse := by
      simpa [trim] using congrArg List.reverse parted'
    refine ⟨⟨front, back.reverse, ?_, blank, ?_⟩, ?_, ?_⟩
    · rw [← middle]
      exact parted
    · intro c inside
      exact blank' c (List.mem_reverse.mp inside)
    · intro c head
      apply first
      rw [middle, List.head?_append, Option.mem_def.mp head]
      rfl
    · simpa [trim] using last
  · rintro ⟨⟨front, back, rfl, blank, blank'⟩, first, last⟩
    cases core with
    | nil =>
      have all : ∀ c ∈ front ++ back, isBlank c := by
        intro c inside
        exact (List.mem_append.mp inside).elim (blank c) (blank' c)
      have nothing : (front ++ back).dropWhile isBlank = [] := List.dropWhile_eq_nil_iff.mpr all
      simp [trim, nothing]
    | cons c core =>
      have leading : ∀ d ∈ (c :: core ++ back).head?, isBlank d = false := first
      have middle : (front ++ (c :: core ++ back)).dropWhile isBlank = c :: core ++ back :=
        (parted_at_boundary blank leading).2
      have ending : (c :: core ++ back).reverse.dropWhile isBlank = (c :: core).reverse := by
        rw [List.reverse_append]
        apply (parted_at_boundary _ _).2
        · exact fun d inside => blank' d (List.mem_reverse.mp inside)
        · rwa [List.head?_reverse]
      rw [trim, middle, ending, List.reverse_reverse]

/-- The second character is the first in upper case, which only ASCII letters change in. -/
def UpperOf (c d : Char) : Prop := if c.isLower then d.toNat + 32 = c.toNat else d = c

theorem isLower_iff_val {c : Char} : c.isLower ↔ 'a'.val ≤ c.val ∧ c.val ≤ 'z'.val :=
  Bool.and_eq_true_iff.trans (and_congr decide_eq_true_iff decide_eq_true_iff)

theorem isLower_iff {c : Char} : c.isLower ↔ 97 ≤ c.toNat ∧ c.toNat ≤ 122 :=
  isLower_iff_val.trans (and_congr UInt32.le_iff_toNat_le UInt32.le_iff_toNat_le)

theorem toNat_toUpper {c : Char} (lower : c.isLower) : c.toUpper.toNat + 32 = c.toNat := by
  obtain ⟨least, most⟩ := isLower_iff.mp lower
  have shifted : c.toUpper = _ := dif_pos (isLower_iff_val.mp lower)
  -- the upper-case letters come first, so the distance to them is added modulo the word
  have distance : ('A'.val - 'a'.val).toNat = 4294967264 := by decide
  have value : c.toUpper.toNat = (c.toNat + 4294967264) % 4294967296 := by
    rw [shifted, ← Char.toNat_val, UInt32.toNat_add, distance, Char.toNat_val]
  omega

theorem toUpper_of_not_lower {c : Char} (other : ¬c.isLower) : c.toUpper = c :=
  dif_neg fun range => other (isLower_iff_val.mpr range)

theorem toUpper_eq_iff {c d : Char} : c.toUpper = d ↔ UpperOf c d := by
  unfold UpperOf
  by_cases lower : c.isLower
  · have same := toNat_toUpper lower
    rw [if_pos lower, ← Char.toNat_inj, ← same, Nat.add_right_cancel_iff, eq_comm]
  · rw [if_neg lower, toUpper_of_not_lower lower, eq_comm]

/-- Only letters of one case become ASCII characters in upper case, and they are such themselves. -/
theorem plain_of_toUpper {c : Char} (plain : c.toUpper.toNat < 128 ∧ isBlank c.toUpper = false) :
    c.toNat < 128 ∧ isBlank c = false := by
  by_cases lower : c.isLower
  · obtain ⟨least, most⟩ := isLower_iff.mp lower
    refine ⟨by omega, ?_⟩
    simp only [isBlank, Bool.or_eq_false_iff, Bool.and_eq_false_iff, decide_eq_false_iff_not,
      beq_eq_false_iff_ne]
    omega
  · rwa [toUpper_of_not_lower lower] at plain

theorem map_toUpper_eq_iff {cs ds : List Char} :
    cs.map Char.toUpper = ds ↔ List.Forall₂ UpperOf cs ds := by
  rw [← List.forall₂_eq_eq_eq, List.forall₂_map_left_iff]
  simp only [toUpper_eq_iff]

/-- What is spelt by a text between its blanks: ASCII letters count as upper case. -/
def Spells (text : String) (upper : List Char) : Prop :=
  ∃ core, IsCore text.toList core ∧ List.Forall₂ UpperOf core upper

theorem spells_iff {text : String} {upper : List Char} :
    Spells text upper ↔ (trim text.toList).map Char.toUpper = upper := by
  constructor
  · rintro ⟨core, isCore, same⟩
    rw [trim_eq_iff.mpr isCore, map_toUpper_eq_iff]
    exact same
  · intro same
    exact ⟨_, trim_eq_iff.mp rfl, map_toUpper_eq_iff.mp same⟩

end Text

end SocketBridge
