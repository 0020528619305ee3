import Mathlib.Tactic.IntervalCases
import SocketBridge.Text.Digits

/-!
# Digits read back

The digits that a number is written with stand for it, and a reader that takes all digits it finds
takes exactly these, provided that what follows does not begin with another one.
-/

namespace SocketBridge.Text

variable {base n : Nat} {c : Char} {cs rest : List Char}

theorem digitValue?_digitChar (known : base ≤ 16) {d : Nat} (small : d < base) :
    digitValue? base d.digitChar = some d := by
  have inTable : d < 16 := by omega
  interval_cases d <;> simp [digitValue?, Nat.digitChar, small]

/-- A digit of a base is one of every larger base. -/
theorem isDigitOf_mono {larger : Nat} (le : base ≤ larger) (digit : isDigitOf base c) :
    isDigitOf larger c := by
  simp only [isDigitOf, digitValue?, Option.isSome_ite] at digit ⊢
  split_ifs at digit ⊢ <;> omega

theorem valueOf_concat (base : Nat) (cs : List Char) (c : Char) :
    valueOf base (cs ++ [c]) = base * valueOf base cs + (digitValue? base c).getD 0 := by
  simp only [valueOf, List.foldl_append, List.foldl_cons, List.foldl_nil]

section Written

variable (many : 1 < base) (known : base ≤ 16)
include many known

theorem valueOf_toDigits (n : Nat) : valueOf base (Nat.toDigits base n) = n := by
  induction n using Nat.strongRecOn with
  | ind n ih =>
    have low : n % base < base := Nat.mod_lt n (by omega)
    rw [Nat.toDigits_eq_if many]
    split
    · rename_i small
      simp [valueOf, digitValue?_digitChar known small]
    · rename_i large
      have fewer : n / base < n := Nat.div_lt_self (by omega) many
      simp only [valueOf_concat, ih _ fewer, digitValue?_digitChar known low, Option.getD_some]
      exact Nat.div_add_mod n base

theorem isDigitOf_of_mem_toDigits (member : c ∈ Nat.toDigits base n) : isDigitOf base c := by
  induction n using Nat.strongRecOn with
  | ind n ih =>
    have low : n % base < base := Nat.mod_lt n (by omega)
    rw [Nat.toDigits_eq_if many] at member
    split at member
    · rename_i small
      obtain rfl := List.mem_singleton.mp member
      simp [isDigitOf, digitValue?_digitChar known small]
    · rename_i large
      have fewer : n / base < n := Nat.div_lt_self (by omega) many
      rcases List.mem_append.mp member with member | member
      · exact ih _ fewer member
      · obtain rfl := List.mem_singleton.mp member
        simp [isDigitOf, digitValue?_digitChar known low]

omit known in
/-- A number of more than one digit does not begin with a zero. -/
theorem head?_toDigits (positive : n ≠ 0) : (Nat.toDigits base n).head? ≠ some '0' := by
  induction n using Nat.strongRecOn with
  | ind n ih =>
    rw [Nat.toDigits_eq_if many]
    split
    · simpa [Nat.digitChar_eq_zero] using positive
    · rename_i large
      have fewer : n / base < n := Nat.div_lt_self (by omega) many
      have more : n / base ≠ 0 := (Nat.div_pos (by omega) (by omega)).ne'
      have first := ih _ fewer more
      obtain ⟨d, ds, digits⟩ := List.exists_cons_of_ne_nil (@Nat.toDigits_ne_nil (n / base) base)
      rw [digits] at first ⊢
      exact first

end Written

/-- No digit of a base stands in front. -/
def Ends (base : Nat) (rest : List Char) : Prop := ∀ c ∈ rest.head?, isDigitOf base c = false

theorem ends_nil (base : Nat) : Ends base [] := nofun

theorem ends_cons : Ends base (c :: rest) ↔ isDigitOf base c = false := by
  simp [Ends]

/-- A text is parted where a condition on its characters first fails. -/
theorem parted_at_boundary {p : Char → Bool} (inside : ∀ c ∈ cs, p c)
    (boundary : ∀ c ∈ rest.head?, p c = false) :
    (cs ++ rest).takeWhile p = cs ∧ (cs ++ rest).dropWhile p = rest := by
  rw [List.takeWhile_append_of_pos inside, List.dropWhile_append_of_pos inside]
  cases rest with
  | nil => simp
  | cons c rest =>
    have other := boundary c rfl
    simp [other]

/-- A reader leaves what stands behind all digits in front, and there has to be one. -/
theorem NumberForm.read?_eq_some {form : NumberForm} (read : form.read? cs = some (n, rest)) :
    rest = cs.dropWhile (isDigitOf form.base) ∧ ¬Ends form.base cs := by
  simp only [read?, Option.ite_none_right_eq_some, Option.some.injEq, Prod.mk.injEq] at read
  obtain ⟨admitted, -, rest⟩ := read
  refine ⟨rest.symm, fun ends => ?_⟩
  have none : cs.takeWhile (isDigitOf form.base) = [] :=
    (@parted_at_boundary [] cs _ nofun ends).1
  rw [none] at admitted
  cases admitted

/-- A reader for a form finds the number that was written, if it is one of the form. -/
theorem NumberForm.read?_toDigits {form : NumberForm} (many : 1 < form.base)
    (known : form.base ≤ 16) (bound : n < form.bound)
    (short : ∀ k ∈ form.maxDigits, (Nat.toDigits form.base n).length ≤ k)
    (ends : Ends form.base rest) :
    form.read? (Nat.toDigits form.base n ++ rest) = some (n, rest) := by
  have digits (c : Char) (member : c ∈ Nat.toDigits form.base n) : isDigitOf form.base c :=
    isDigitOf_of_mem_toDigits many known member
  have parts := parted_at_boundary digits ends
  have value := valueOf_toDigits many known n
  have length : form.maxDigits.all ((Nat.toDigits form.base n).length ≤ ·) := by
    simpa [Option.all_eq_true] using short
  have lead : (Nat.toDigits form.base n).length ≤ 1 ∨
      (Nat.toDigits form.base n).head? ≠ some '0' := by
    by_cases zero : n = 0
    · subst zero
      exact .inl (by simp)
    · exact .inr (head?_toDigits many zero)
  have admitted : form.admits (Nat.toDigits form.base n) := by
    simp only [admits, value, length, bound]
    rcases lead with single | lead
    · simp [single]
    · simp [lead]
  simp only [read?, parts, admitted, value, if_true]

end SocketBridge.Text
