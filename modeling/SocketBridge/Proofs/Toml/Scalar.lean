import SocketBridge.Proofs.Text.Digits
import SocketBridge.Toml.Value

/-!
# Values of one line

A truth value, a number or a text can be spelled so that it is read back, whatever the text is: what
may not stand in quotes as it is has its code point there. The spelling ends where the line does.
-/

namespace SocketBridge.Toml

open Text

/-- A value that needs no brackets. -/
inductive Scalar
  | bool (b : Bool)
  | int (n : Nat) (small : n < 2 ^ 63)
  | text (s : String)

namespace Scalar

def toData : Scalar → Data
  | bool b => .bool b
  | int n _ => .int n
  | text s => .text s

end Scalar

/-- A code point in eight digits. -/
def spellCode (c : Char) : List Char :=
  List.replicate (8 - (hexadecimal c.toNat).length) '0' ++ hexadecimal c.toNat

def spellChar (c : Char) : List Char :=
  if isBasic c then [c] else '\\' :: 'U' :: spellCode c

def Scalar.spell : Scalar → List Char
  | bool b => (if b then "true" else "false").toList
  | int n _ => decimal n
  | text s => '"' :: s.toList.flatMap spellChar ++ ['"']

/-! ## Texts -/

variable {cs ds rest : List Char} {n : Nat}

theorem valueOf_zeros (base k : Nat) (ds : List Char) :
    valueOf base (List.replicate k '0' ++ ds) = valueOf base ds := by
  have zero : (digitValue? base '0').getD 0 = 0 := by
    simp only [digitValue?, Char.reduceLE, and_self, if_true]
    split <;> rfl
  induction k with
  | zero => rfl
  | succ k ih => simpa [List.replicate_succ, valueOf, zero] using ih

theorem length_spellCode (c : Char) : (spellCode c).length = 8 := by
  have short : (hexadecimal c.toNat).length ≤ 8 :=
    (Nat.length_toDigits_le_iff (by decide) (by decide)).mpr c.val.toNat_lt
  rw [spellCode, List.length_append, List.length_replicate]
  omega

theorem readCodePoint_spellCode (c : Char) (rest : List Char) :
    readCodePoint 8 (spellCode c ++ rest) = some (c, rest) := by
  have length := length_spellCode c
  have value : valueOf 16 (spellCode c) = c.toNat := by
    rw [spellCode, valueOf_zeros, hexadecimal, valueOf_toDigits (by decide) (by decide)]
  have digits : (spellCode c).all (isDigitOf 16) = true := by
    rw [List.all_eq_true]
    intro d member
    rcases List.mem_append.mp member with zero | digit
    · rw [List.eq_of_mem_replicate zero]
      decide
    · exact isDigitOf_of_mem_toDigits (by decide) (by decide) digit
  have taken : (spellCode c ++ rest).take 8 = spellCode c := List.take_left' length
  have left : (spellCode c ++ rest).drop 8 = rest := List.drop_left' length
  simp only [readCodePoint, taken, left, value]
  rw [if_pos ⟨length, digits, c.valid⟩, Char.ofNat_toNat]

theorem readBasicTail_spell {fuel : Nat} (enough : cs.length < fuel) (rest : List Char) :
    readBasicTail fuel (cs.flatMap spellChar ++ '"' :: rest) = some (cs, rest) := by
  induction cs generalizing fuel with
  | nil =>
    obtain ⟨fuel, rfl⟩ := Nat.exists_eq_succ_of_ne_zero (Nat.ne_of_gt enough)
    simp [readBasicTail]
  | cons c cs ih =>
    obtain ⟨fuel, rfl⟩ := Nat.exists_eq_succ_of_ne_zero (Nat.ne_of_gt (Nat.zero_lt_of_lt enough))
    have more := ih (Nat.lt_of_succ_lt_succ enough)
    rw [List.flatMap_cons, List.append_assoc, spellChar]
    cases plain : isBasic c with
    | true =>
      have other : c ≠ '"' ∧ c ≠ '\\' := by
        constructor <;> rintro rfl <;> exact absurd plain (by decide)
      simp [readBasicTail, other, plain, more]
    | false =>
      simp [readBasicTail, readEscape, readCodePoint_spellCode, more]

/-- Quotes open a text of one line unless two more stand behind them. -/
theorem readText_basic (short : ∀ r, cs ≠ '"' :: '"' :: r) :
    readText ('"' :: cs) = readBasicTail (cs.length + 1) cs := by
  unfold readText
  split
  · rename_i r same
    exact absurd (List.cons.inj same).2 (short r)
  · rename_i same
    rw [(List.cons.inj same).2]
  · rename_i same
    cases (List.cons.inj same).1
  · rename_i same
    cases (List.cons.inj same).1
  · rename_i none _ _
    exact (none cs rfl).elim

theorem spellChar_ne_nil (c : Char) : spellChar c ≠ [] := by
  unfold spellChar
  split <;> exact List.cons_ne_nil _ _

/-- A spelling that leaves nothing out is no shorter than what it spells. -/
theorem length_le_flatMap {α β : Type} {spell : α → List β} (shown : ∀ a, spell a ≠ [])
    (l : List α) : l.length ≤ (l.flatMap spell).length := by
  induction l with
  | nil => exact Nat.le_refl 0
  | cons a l ih =>
    have some := List.length_pos_iff.mpr (shown a)
    rw [List.flatMap_cons, List.length_append, List.length_cons]
    omega

theorem readText_spell (s : String) (rest : List Char) :
    readText ((Scalar.text s).spell ++ '\n' :: rest) = some (s.toList, '\n' :: rest) := by
  have tail : (Scalar.text s).spell ++ '\n' :: rest =
      '"' :: (s.toList.flatMap spellChar ++ '"' :: '\n' :: rest) := by
    simp [Scalar.spell]
  have short (r : List Char) :
      s.toList.flatMap spellChar ++ '"' :: '\n' :: rest ≠ '"' :: '"' :: r := by
    cases s.toList with
    | nil => exact fun same => nomatch (List.cons.inj (List.cons.inj same).2).1
    | cons c cs =>
      intro same
      unfold spellChar at same
      cases plain : isBasic c with
      | true =>
        have first : c = '"' := by simpa [plain] using (congrArg List.head? same)
        exact absurd (first ▸ plain) (by decide)
      | false => simp [plain] at same
  rw [tail, readText_basic short, readBasicTail_spell]
  have length := length_le_flatMap spellChar_ne_nil s.toList
  rw [List.length_append]
  omega

/-! ## Numbers -/

theorem not_digit_newline (base : Nat) : isDigitOf base '\n' = false := by
  simp [isDigitOf, digitValue?]

/-- A line that begins with digits and ends behind them begins with nothing else. -/
theorem digits_ne_cons (digits : ∀ c ∈ ds, isDigitOf 10 c = true) {mark : Char}
    (other : isDigitOf 10 mark = false) (inLine : mark ≠ '\n') (r : List Char) :
    ds ++ '\n' :: rest ≠ mark :: r := by
  intro same
  cases ds with
  | nil => exact inLine (List.cons.inj same).1.symm
  | cons d ds =>
    have digit := digits d List.mem_cons_self
    rw [(List.cons.inj same).1, other] at digit
    cases digit

theorem readDigits_append {fuel : Nat} (digits : ∀ c ∈ ds, isDigitOf 10 c = true)
    (enough : ds.length ≤ fuel) (rest : List Char) :
    readDigits 10 fuel (ds ++ '\n' :: rest) = (ds, '\n' :: rest) := by
  induction ds generalizing fuel with
  | nil =>
    cases fuel with
    | zero => rfl
    | succ fuel => simp [readDigits, not_digit_newline]
  | cons c ds ih =>
    obtain ⟨fuel, rfl⟩ := Nat.exists_eq_succ_of_ne_zero (Nat.ne_of_gt (Nat.zero_lt_of_lt enough))
    obtain ⟨first, others⟩ := List.forall_mem_cons.mp digits
    have more := ih others (Nat.le_of_succ_le_succ enough)
    unfold readDigits
    simp only [List.cons_append, first, if_true]
    split
    · rename_i same
      exact absurd same (digits_ne_cons others (by decide) (by decide) _)
    · rw [more]

theorem digits_decimal (n : Nat) : ∀ c ∈ decimal n, isDigitOf 10 c = true := fun _ =>
  isDigitOf_of_mem_toDigits (by decide) (by decide)

theorem readWhole_decimal (n : Nat) (rest : List Char) :
    readWhole (decimal n ++ '\n' :: rest) = some (decimal n, '\n' :: rest) := by
  by_cases zero : n = 0
  · subst zero
    rfl
  · have lead : (decimal n).head? ≠ some '0' := head?_toDigits (by decide) zero
    have taken := readDigits_append (digits_decimal n)
      (Nat.le_add_right _ ('\n' :: rest).length) rest
    obtain ⟨d, ds, written⟩ := List.exists_cons_of_ne_nil (@Nat.toDigits_ne_nil n 10)
    rw [show decimal n = d :: ds from written] at lead taken ⊢
    unfold readWhole
    split
    · rename_i same
      exact absurd (congrArg some (List.cons.inj same).1) lead
    · rw [readSomeDigits, List.length_append, taken]

theorem readMark_eq_none {mark : Char} (other : ∀ r, cs ≠ mark :: r) : readMark mark cs = none := by
  cases cs with
  | nil => rfl
  | cons c r => exact if_neg fun (same : mark = c) => other r (same ▸ rfl)

/-- A mark of a date or a time does not stand behind digits that the line ends with. -/
theorem readMark_of_readFixed (digits : ∀ c ∈ ds, isDigitOf 10 c = true) {count low high m : Nat}
    {r : List Char} (read : readFixed count low high (ds ++ '\n' :: rest) = some (m, r))
    {mark : Char} (other : isDigitOf 10 mark = false) (inLine : mark ≠ '\n') :
    readMark mark r = none := by
  simp only [readFixed, Option.ite_none_right_eq_some, Option.some.injEq, Prod.mk.injEq] at read
  obtain ⟨⟨length, inside, -⟩, -, rfl⟩ := read
  have within : count ≤ ds.length := by
    by_contra beyond
    have last : '\n' ∈ (ds ++ '\n' :: rest).take count :=
      List.mem_take_iff_getElem.mpr ⟨ds.length, by simp; omega, by simp⟩
    cases (List.all_eq_true.mp inside _ last).symm.trans (not_digit_newline 10)
  rw [List.drop_append_of_le_length within]
  have behind (c : Char) (member : c ∈ ds.drop count) : isDigitOf 10 c = true :=
    digits c (List.mem_of_mem_drop member)
  exact readMark_eq_none (digits_ne_cons behind other inLine)

/-- Digits alone are no date and no time. -/
theorem readMoment_digits (digits : ∀ c ∈ ds, isDigitOf 10 c = true) (rest : List Char) :
    readMoment (ds ++ '\n' :: rest) = none := by
  have date : readDate (ds ++ '\n' :: rest) = none :=
    Option.bind_eq_none_iff.mpr fun ⟨year, r⟩ taken => by
      simp [readMark_of_readFixed digits taken (by decide : isDigitOf 10 '-' = false)
        (by decide)]
  have time : readTime (ds ++ '\n' :: rest) = none :=
    Option.bind_eq_none_iff.mpr fun ⟨hour, r⟩ taken => by
      simp [readMark_of_readFixed digits taken (by decide : isDigitOf 10 ':' = false)
        (by decide)]
  simp only [readMoment, date, time]

theorem readSign_digits (digits : ∀ c ∈ ds, isDigitOf 10 c = true) (rest : List Char) :
    readSign (ds ++ '\n' :: rest) = (false, ds ++ '\n' :: rest) := by
  unfold readSign
  split
  · rename_i same
    exact absurd same (digits_ne_cons digits (by decide) (by decide) _)
  · rename_i same
    exact absurd same (digits_ne_cons digits (by decide) (by decide) _)
  · rfl

/-- Without a point and without an exponent a number is no float. -/
theorem readFloat_decimal (n : Nat) (rest : List Char) :
    readFloat (decimal n ++ '\n' :: rest) = none := by
  have sign := readSign_digits (digits_decimal n) rest
  have decimalFloat : readDecimalFloat (decimal n ++ '\n' :: rest) = none := by
    simp [readDecimalFloat, sign, readWhole_decimal, readExponent]
  have special : readSpecialFloat (decimal n ++ '\n' :: rest) = none := by
    unfold readSpecialFloat
    rw [sign]
    split
    · rename_i same
      exact absurd same (digits_ne_cons (digits_decimal n) (by decide) (by decide) _)
    · rename_i same
      exact absurd same (digits_ne_cons (digits_decimal n) (by decide) (by decide) _)
    · rfl
  rw [readFloat, decimalFloat, special]
  rfl

/-- Behind a zero in front comes no mark of a base. -/
theorem decimal_ne_base (n : Nat) {mark : Char} (other : isDigitOf 10 mark = false)
    (inLine : mark ≠ '\n') (r : List Char) : decimal n ++ '\n' :: rest ≠ '0' :: mark :: r := by
  intro same
  have digits := digits_decimal n
  cases written : decimal n with
  | nil => cases (List.cons.inj (written ▸ same)).1
  | cons d ds =>
    rw [written] at digits same
    exact digits_ne_cons (List.forall_mem_cons.mp digits).2 other inLine r (List.cons.inj same).2

theorem readInteger_decimal (small : n < 2 ^ 63) (rest : List Char) :
    readInteger (decimal n ++ '\n' :: rest) = some ((n : Int), '\n' :: rest) := by
  unfold readInteger
  split
  · rename_i same
    exact absurd same (decimal_ne_base n (by decide) (by decide) _)
  · rename_i same
    exact absurd same (decimal_ne_base n (by decide) (by decide) _)
  · rename_i same
    exact absurd same (decimal_ne_base n (by decide) (by decide) _)
  · have value : valueOf 10 (decimal n) = n := valueOf_toDigits (by decide) (by decide) n
    have held : int64? (n : Int) = some (n : Int) := if_pos (by omega)
    simp [readSign_digits (digits_decimal n), readWhole_decimal, value, held]

/-! ## Values -/

theorem readText_digits (digits : ∀ c ∈ ds, isDigitOf 10 c = true) (rest : List Char) :
    readText (ds ++ '\n' :: rest) = none := by
  have double (r : List Char) : ds ++ '\n' :: rest ≠ '"' :: r :=
    digits_ne_cons digits (by decide) (by decide) r
  have single (r : List Char) : ds ++ '\n' :: rest ≠ '\'' :: r :=
    digits_ne_cons digits (by decide) (by decide) r
  unfold readText
  split
  · rename_i same
    exact absurd same (double _)
  · rename_i same
    exact absurd same (double _)
  · rename_i same
    exact absurd same (single _)
  · rename_i same
    exact absurd same (single _)
  · rfl

theorem readScalar_spell (v : Scalar) (rest : List Char) :
    readScalar (v.spell ++ '\n' :: rest) = some (v.toData, '\n' :: rest) := by
  cases v with
  | bool b => cases b <;> rfl
  | int n small =>
    have digits := digits_decimal n
    simp only [Scalar.spell]
    unfold readScalar
    split
    · rename_i same
      exact absurd same (digits_ne_cons digits (by decide) (by decide) _)
    · rename_i same
      exact absurd same (digits_ne_cons digits (by decide) (by decide) _)
    · simp only [readText_digits digits, readMoment_digits digits, readFloat_decimal,
        readInteger_decimal small]
      rfl
  | text s =>
    have read := readText_spell s rest
    unfold readScalar
    split
    · rename_i same
      cases (List.cons.inj same).1
    · rename_i same
      cases (List.cons.inj same).1
    · simp only [read, String.ofList_toList]
      rfl

example : (Scalar.text "a\nb").spell = "\"a\\U0000000ab\"".toList := by decide +kernel

/-- No value begins with a blank or with a bracket. -/
theorem Scalar.spell_ne_cons (v : Scalar) {mark : Char} (other : mark ∈ [' ', '\t', '[', '\x7b'])
    (r : List Char) : v.spell ++ '\n' :: rest ≠ mark :: r := by
  cases v with
  | bool b =>
    rintro same
    cases b <;> exact absurd ((List.cons.inj same).1 ▸ other) (by decide)
  | int n small =>
    have unlike : [' ', '\t', '[', '\x7b'].all (fun c => !isDigitOf 10 c && c != '\n') = true := by
      decide
    obtain ⟨digitless, inLine⟩ : isDigitOf 10 mark = false ∧ mark ≠ '\n' := by
      simpa using List.all_eq_true.mp unlike mark other
    exact digits_ne_cons (digits_decimal n) digitless inLine r
  | text s =>
    rintro same
    exact absurd ((List.cons.inj same).1 ▸ other) (by decide)

theorem readValue_spell (levels : Nat) (v : Scalar) (rest : List Char) :
    readValue levels (v.spell ++ '\n' :: rest) = some (v.toData, '\n' :: rest) := by
  unfold readValue
  split
  · exact readScalar_spell v rest
  · rename_i same
    exact absurd same (v.spell_ne_cons (by decide) _)
  · rename_i same
    exact absurd same (v.spell_ne_cons (by decide) _)
  · exact readScalar_spell v rest

end SocketBridge.Toml
