import SocketBridge.Text.Utf8
import Mathlib.Tactic.SplitIfs

/-!
# UTF-8 as a language

What the reading of characters says about bytes, in terms of encodings alone: a character is read
exactly where its encoding stands, bytes are incomplete exactly where they begin one, and reading
as far as it goes finds the longest prefix that is the encoding of a text.
-/

namespace SocketBridge.Utf8

theorem toNat_valid (c : Char) : c.toNat < 0xD800 ∨ 0xDFFF < c.toNat ∧ c.toNat < 0x110000 :=
  c.valid

/-- The four forms of a character, by its number. -/
theorem encodeChar_cases (c : Char) :
    (c.toNat < 0x80 ∧ encodeChar c = [UInt8.ofNat c.toNat]) ∨
    (0x80 ≤ c.toNat ∧ c.toNat < 0x800 ∧
      encodeChar c = [UInt8.ofNat (0xC0 + c.toNat / 64), tail c.toNat]) ∨
    (0x800 ≤ c.toNat ∧ c.toNat < 0x10000 ∧ encodeChar c =
      [UInt8.ofNat (0xE0 + c.toNat / 4096), tail (c.toNat / 64), tail c.toNat]) ∨
    (0x10000 ≤ c.toNat ∧ encodeChar c =
      [UInt8.ofNat (0xF0 + c.toNat / 262144), tail (c.toNat / 4096), tail (c.toNat / 64),
        tail c.toNat]) := by
  simp only [encodeChar]
  split
  · exact Or.inl ⟨by assumption, rfl⟩
  split
  · exact Or.inr (Or.inl ⟨by omega, by omega, rfl⟩)
  split
  · exact Or.inr (Or.inr (Or.inl ⟨by omega, by omega, rfl⟩))
  · exact Or.inr (Or.inr (Or.inr ⟨by omega, rfl⟩))

theorem encodeChar_eq_utf8EncodeChar (c : Char) : encodeChar c = String.utf8EncodeChar c := by
  have valid := toNat_valid c
  have number : c.val.toNat = c.toNat := rfl
  rcases encodeChar_cases c with ⟨h, e⟩ | ⟨l, h, e⟩ | ⟨l, h, e⟩ | ⟨l, e⟩
  · rw [e, String.utf8EncodeChar, number, if_pos (by omega)]
  · rw [e, String.utf8EncodeChar, number, if_neg (by omega), if_pos (by omega)]
    simp only [List.cons.injEq, ← UInt8.toNat_inj, UInt8.toNat_ofNat', tail, and_true]
    omega
  · rw [e, String.utf8EncodeChar, number, if_neg (by omega), if_neg (by omega), if_pos (by omega)]
    simp only [List.cons.injEq, ← UInt8.toNat_inj, UInt8.toNat_ofNat', tail, and_true]
    omega
  · rw [e, String.utf8EncodeChar, number, if_neg (by omega), if_neg (by omega), if_neg (by omega)]
    simp only [List.cons.injEq, ← UInt8.toNat_inj, UInt8.toNat_ofNat', tail, and_true]
    omega

theorem width_eq (b : UInt8) : width b =
    if b.toNat < 0x80 then 1 else if 0xC2 ≤ b.toNat ∧ b.toNat ≤ 0xDF then 2
    else if 0xE0 ≤ b.toNat ∧ b.toNat ≤ 0xEF then 3
    else if 0xF0 ≤ b.toNat ∧ b.toNat ≤ 0xF4 then 4 else 0 := by
  simp [width, UInt8.lt_iff_toNat_lt, UInt8.le_iff_toNat_le]

theorem isTail_iff (b : UInt8) : isTail b = true ↔ 0x80 ≤ b.toNat ∧ b.toNat ≤ 0xBF := by
  simp [isTail, UInt8.le_iff_toNat_le]

theorem isSecond_iff (a b : UInt8) : isSecond a b = true ↔ 0x80 ≤ b.toNat ∧ b.toNat ≤ 0xBF ∧
    (a.toNat = 0xE0 → 0xA0 ≤ b.toNat) ∧ (a.toNat = 0xED → b.toNat ≤ 0x9F) ∧
    (a.toNat = 0xF0 → 0x90 ≤ b.toNat) ∧ (a.toNat = 0xF4 → b.toNat ≤ 0x8F) := by
  simp only [isSecond, beq_iff_eq, isTail, ← UInt8.toNat_inj, UInt8.le_iff_toNat_le]
  split_ifs
  all_goals
    simp at *
    omega

/-- Bytes in the form of one character: a lead byte, and as many bytes after it as it asks for. -/
def IsForm (lead : UInt8) (more : List UInt8) : Prop :=
  width lead = more.length + 1 ∧ follows lead more = true

theorem toNat_tail (n : Nat) : (tail n).toNat = 0x80 + n % 64 := by
  simp only [tail, UInt8.toNat_ofNat']
  omega

theorem codePoint_one (a b : UInt8) :
    codePoint a [b] = 64 * (a.toNat % 32) + b.toNat % 64 := rfl

theorem codePoint_two (a b c : UInt8) : codePoint a [b, c] =
    64 * (64 * (a.toNat % 16) + b.toNat % 64) + c.toNat % 64 := rfl

theorem codePoint_three (a b c d : UInt8) : codePoint a [b, c, d] =
    64 * (64 * (64 * (a.toNat % 8) + b.toNat % 64) + c.toNat % 64) + d.toNat % 64 := rfl

theorem isForm_encodeChar (c : Char) :
    ∃ lead more, encodeChar c = lead :: more ∧ IsForm lead more ∧
      codePoint lead more = c.toNat := by
  have valid := toNat_valid c
  rcases encodeChar_cases c with ⟨h, e⟩ | ⟨l, h, e⟩ | ⟨l, h, e⟩ | ⟨l, e⟩
  · have lead : (UInt8.ofNat c.toNat).toNat = c.toNat := by
      rw [UInt8.toNat_ofNat', Nat.mod_eq_of_lt (by omega)]
    refine ⟨_, _, e, ⟨?_, rfl⟩, lead⟩
    rw [width_eq, lead, if_pos h]
    rfl
  · have lead : (UInt8.ofNat (0xC0 + c.toNat / 64)).toNat = 0xC0 + c.toNat / 64 := by
      rw [UInt8.toNat_ofNat', Nat.mod_eq_of_lt (by omega)]
    refine ⟨_, _, e, ⟨?_, ?_⟩, ?_⟩
    · rw [width_eq, lead, if_neg (by omega), if_pos (by omega)]
      rfl
    · simp only [follows, isSecond_iff, lead, toNat_tail, List.all_nil, Bool.and_true]
      omega
    · simp only [codePoint_one, lead, toNat_tail]
      omega
  · have lead : (UInt8.ofNat (0xE0 + c.toNat / 4096)).toNat = 0xE0 + c.toNat / 4096 := by
      rw [UInt8.toNat_ofNat', Nat.mod_eq_of_lt (by omega)]
    refine ⟨_, _, e, ⟨?_, ?_⟩, ?_⟩
    · rw [width_eq, lead, if_neg (by omega), if_neg (by omega), if_pos (by omega)]
      rfl
    · simp only [follows, Bool.and_eq_true, isSecond_iff, isTail_iff, lead, toNat_tail,
        List.all_cons, List.all_nil, and_true]
      omega
    · simp only [codePoint_two, lead, toNat_tail]
      omega
  · have lead : (UInt8.ofNat (0xF0 + c.toNat / 262144)).toNat = 0xF0 + c.toNat / 262144 := by
      rw [UInt8.toNat_ofNat', Nat.mod_eq_of_lt (by omega)]
    refine ⟨_, _, e, ⟨?_, ?_⟩, ?_⟩
    · rw [width_eq, lead, if_neg (by omega), if_neg (by omega), if_neg (by omega),
        if_pos (by omega)]
      rfl
    · simp only [follows, Bool.and_eq_true, isSecond_iff, isTail_iff, lead, toNat_tail,
        List.all_cons, List.all_nil, and_true]
      omega
    · simp only [codePoint_three, lead, toNat_tail]
      omega

theorem toNat_ofNat {n : Nat} (h : n.isValidChar) : (Char.ofNat n).toNat = n := by
  rw [Char.ofNat, dif_pos h]
  exact UInt32.toNat_ofNatLT ..

theorem encodeChar_ofNat {n : Nat} (h : n < 0xD800 ∨ 0xDFFF < n ∧ n < 0x110000) :
    encodeChar (Char.ofNat n) =
      if n < 0x80 then [UInt8.ofNat n]
      else if n < 0x800 then [UInt8.ofNat (0xC0 + n / 64), tail n]
      else if n < 0x10000 then [UInt8.ofNat (0xE0 + n / 4096), tail (n / 64), tail n]
      else [UInt8.ofNat (0xF0 + n / 262144), tail (n / 4096), tail (n / 64), tail n] := by
  simp only [encodeChar, toNat_ofNat h]

/-- The lead bytes of each width. -/
theorem range_of_width {b : UInt8} {n : Nat} (h : width b = n + 1) :
    (n = 0 ∧ b.toNat < 0x80) ∨ (n = 1 ∧ 0xC2 ≤ b.toNat ∧ b.toNat ≤ 0xDF) ∨
      (n = 2 ∧ 0xE0 ≤ b.toNat ∧ b.toNat ≤ 0xEF) ∨ (n = 3 ∧ 0xF0 ≤ b.toNat ∧ b.toNat ≤ 0xF4) := by
  rw [width_eq] at h
  split_ifs at h <;> omega

/-- Bytes in the form of a character are the encoding of one. -/
theorem encodeChar_of_form {lead : UInt8} {more : List UInt8} (h : IsForm lead more) :
    encodeChar (Char.ofNat (codePoint lead more)) = lead :: more := by
  obtain ⟨hw, hf⟩ := h
  have range := range_of_width hw
  match more with
  | [] =>
    have point : codePoint lead [] = lead.toNat := rfl
    simp only [List.length_nil] at range
    rw [point, encodeChar_ofNat (by omega), if_pos (by omega), UInt8.ofNat_toNat]
  | [b] =>
    simp only [follows, isSecond_iff, List.all_nil, Bool.and_true] at hf
    simp only [List.length_cons, List.length_nil] at range
    rw [codePoint_one, encodeChar_ofNat (by omega), if_neg (by omega), if_pos (by omega)]
    simp only [List.cons.injEq, ← UInt8.toNat_inj, UInt8.toNat_ofNat', toNat_tail, and_true]
    omega
  | [b, c] =>
    simp only [follows, Bool.and_eq_true, isSecond_iff, isTail_iff, List.all_cons, List.all_nil,
      and_true] at hf
    simp only [List.length_cons, List.length_nil] at range
    rw [codePoint_two, encodeChar_ofNat (by omega), if_neg (by omega), if_neg (by omega),
      if_pos (by omega)]
    simp only [List.cons.injEq, ← UInt8.toNat_inj, UInt8.toNat_ofNat', toNat_tail, and_true]
    omega
  | [b, c, d] =>
    simp only [follows, Bool.and_eq_true, isSecond_iff, isTail_iff, List.all_cons, List.all_nil,
      and_true] at hf
    simp only [List.length_cons, List.length_nil] at range
    rw [codePoint_three, encodeChar_ofNat (by omega), if_neg (by omega), if_neg (by omega),
      if_neg (by omega)]
    simp only [List.cons.injEq, ← UInt8.toNat_inj, UInt8.toNat_ofNat', toNat_tail, and_true]
    omega
  | _ :: _ :: _ :: _ :: more =>
    simp only [List.length_cons] at range
    omega

theorem length_encodeChar_le (c : Char) : (encodeChar c).length ≤ 4 := by
  rcases encodeChar_cases c with ⟨_, e⟩ | ⟨_, _, e⟩ | ⟨_, _, e⟩ | ⟨_, e⟩ <;> simp [e]

/-- Bytes that begin a character and do not end it. -/
def Incomplete (bs : List UInt8) : Prop :=
  bs ≠ [] ∧ ∃ c more, more ≠ [] ∧ String.utf8EncodeChar c = bs ++ more

theorem Incomplete.length_le {bs : List UInt8} (h : Incomplete bs) : bs.length ≤ 3 := by
  obtain ⟨_, c, more, hm, e⟩ := h
  have bound := length_encodeChar_le c
  have := List.length_pos_iff.mpr hm
  rw [encodeChar_eq_utf8EncodeChar, e, List.length_append] at bound
  omega

theorem front_encodeChar_append (c : Char) (rest : List UInt8) :
    front (encodeChar c ++ rest) = .char c rest := by
  obtain ⟨lead, more, e, ⟨hw, hf⟩, point⟩ := isForm_encodeChar c
  rw [e, List.cons_append, front, hw]
  have long : more.length ≤ (more ++ rest).length := by simp
  simp only [List.take_left, List.drop_left, hf, if_pos long, if_true, point, Char.ofNat_toNat]

/-- What stands at the front of some bytes is told by their lead byte and how it is followed. -/
theorem front_cons {lead : UInt8} {count : Nat} (r : List UInt8) (hw : width lead = count + 1) :
    front (lead :: r) =
      if follows lead (r.take count) then
        if count ≤ r.length then .char (Char.ofNat (codePoint lead (r.take count))) (r.drop count)
        else .incomplete
      else .invalid := by
  simp only [front, hw]

theorem front_cons_of_width_zero {lead : UInt8} (r : List UInt8) (hw : width lead = 0) :
    front (lead :: r) = .invalid := by
  simp only [front, hw]

theorem eq_of_front_char {bs rest : List UInt8} {c : Char} (h : front bs = .char c rest) :
    bs = encodeChar c ++ rest := by
  cases bs with
  | nil => cases h
  | cons lead r =>
    cases hw : width lead with
    | zero =>
      rw [front_cons_of_width_zero r hw] at h
      cases h
    | succ count =>
      rw [front_cons r hw] at h
      split_ifs at h with hf long
      cases h
      have form : IsForm lead (r.take count) := ⟨by rw [hw, List.length_take_of_le long], hf⟩
      rw [encodeChar_of_form form, List.cons_append, List.take_append_drop]

theorem front_eq_char_iff {bs rest : List UInt8} {c : Char} :
    front bs = .char c rest ↔ bs = encodeChar c ++ rest :=
  ⟨eq_of_front_char, fun h => h ▸ front_encodeChar_append c rest⟩

theorem front_eq_done_iff {bs : List UInt8} : front bs = .done ↔ bs = [] := by
  cases bs with
  | nil => exact ⟨fun _ => rfl, fun _ => rfl⟩
  | cons lead r =>
    refine ⟨fun h => ?_, fun h => nomatch h⟩
    cases hw : width lead with
    | zero =>
      rw [front_cons_of_width_zero r hw] at h
      cases h
    | succ count =>
      rw [front_cons r hw] at h
      split_ifs at h

/-- A continuation byte that may follow a lead byte. -/
theorem exists_isSecond (lead : UInt8) : ∃ b, isSecond lead b = true := by
  by_cases low : lead.toNat = 0xED ∨ lead.toNat = 0xF4
  · exact ⟨0x80, by rw [isSecond_iff]; simp; omega⟩
  · exact ⟨0xA0, by rw [isSecond_iff]; simp; omega⟩

/-- What follows a lead byte can be filled up to any length. -/
theorem exists_follows {lead : UInt8} {r : List UInt8} (hf : follows lead r = true) {count : Nat}
    (short : r.length < count) :
    ∃ more, more ≠ [] ∧ (r ++ more).length = count ∧ follows lead (r ++ more) = true := by
  cases r with
  | nil =>
    obtain ⟨b, hb⟩ := exists_isSecond lead
    refine ⟨b :: List.replicate (count - 1) 0x80, List.cons_ne_nil _ _, ?_, ?_⟩
    · simp only [List.length_nil] at short
      simp only [List.nil_append, List.length_cons, List.length_replicate]
      omega
    · simp only [List.nil_append, follows, hb, Bool.true_and, List.all_eq_true]
      intro x hx
      rw [(List.mem_replicate.mp hx).2]
      decide
  | cons b bs =>
    refine ⟨List.replicate (count - (b :: bs).length) 0x80, ?_, ?_, ?_⟩
    · rw [Ne, List.replicate_eq_nil_iff]
      omega
    · rw [List.length_append, List.length_replicate]
      omega
    · simp only [follows, Bool.and_eq_true] at hf
      simp only [List.cons_append, follows, hf.1, Bool.true_and, List.all_append, hf.2,
        List.all_eq_true]
      intro x hx
      rw [(List.mem_replicate.mp hx).2]
      decide

theorem follows_take {lead : UInt8} {more : List UInt8} (hf : follows lead more = true)
    (n : Nat) : follows lead (more.take n) = true := by
  cases more with
  | nil => rwa [List.take_nil]
  | cons b bs =>
    cases n with
    | zero => rfl
    | succ n =>
      simp only [follows, Bool.and_eq_true, List.all_eq_true, List.take_succ_cons] at hf ⊢
      exact ⟨hf.1, fun x hx => hf.2 x (List.mem_of_mem_take hx)⟩

theorem front_eq_incomplete_iff {bs : List UInt8} : front bs = .incomplete ↔ Incomplete bs := by
  constructor
  · intro h
    cases bs with
    | nil => cases h
    | cons lead r =>
      cases hw : width lead with
      | zero =>
        rw [front_cons_of_width_zero r hw] at h
        cases h
      | succ count =>
        rw [front_cons r hw] at h
        split_ifs at h with hf long
        rw [List.take_of_length_le (by omega)] at hf
        obtain ⟨more, hm, full, hf⟩ := exists_follows hf (Nat.lt_of_not_le long)
        have form : IsForm lead (r ++ more) := ⟨by rw [hw, full], hf⟩
        refine ⟨List.cons_ne_nil _ _, Char.ofNat (codePoint lead (r ++ more)), more, hm, ?_⟩
        rw [← encodeChar_eq_utf8EncodeChar, encodeChar_of_form form, List.cons_append]
  · rintro ⟨some, c, more, hm, e⟩
    rw [← encodeChar_eq_utf8EncodeChar] at e
    obtain ⟨lead, all, e', ⟨hw, hf⟩, _⟩ := isForm_encodeChar c
    cases bs with
    | nil => exact absurd rfl some
    | cons b r =>
      rw [e', List.cons_append, List.cons.injEq] at e
      obtain ⟨rfl, rfl⟩ := e
      have whole : r.take (r ++ more).length = r := List.take_of_length_le (by simp)
      have valid : follows lead r = true := by
        have := follows_take hf r.length
        rwa [List.take_left] at this
      have short : ¬(r ++ more).length ≤ r.length := by
        have := List.length_pos_iff.mpr hm
        rw [List.length_append]
        omega
      rw [front_cons r hw, whole, if_pos valid, if_neg short]

/-- Bytes that no character begins with stay so whatever comes after them. -/
theorem front_append_of_invalid {bs : List UInt8} (h : front bs = .invalid) (more : List UInt8) :
    front (bs ++ more) = .invalid := by
  have alone : ∀ c rest, bs ≠ encodeChar c ++ rest := fun c rest e => by
    rw [front_eq_char_iff.mpr e] at h
    cases h
  have some : bs ≠ [] := fun e => by
    rw [front_eq_done_iff.mpr e] at h
    cases h
  have never : ∀ c rest, encodeChar c ≠ bs ++ rest := fun c rest e => by
    cases rest with
    | nil => exact alone c [] (by simpa using e.symm)
    | cons b rest =>
      rw [encodeChar_eq_utf8EncodeChar] at e
      rw [front_eq_incomplete_iff.mpr ⟨some, c, _, List.cons_ne_nil _ _, e⟩] at h
      cases h
  cases hf : front (bs ++ more) with
  | invalid => rfl
  | done =>
    rw [front_eq_done_iff, List.append_eq_nil_iff] at hf
    exact absurd hf.1 some
  | incomplete =>
    obtain ⟨_, c, rest, _, e⟩ := front_eq_incomplete_iff.mp hf
    rw [← encodeChar_eq_utf8EncodeChar] at e
    exact absurd (by rw [e, List.append_assoc]) (never c (more ++ rest))
  | char c rest =>
    rw [front_eq_char_iff, List.append_eq_append_iff] at hf
    rcases hf with ⟨cut, e, _⟩ | ⟨cut, e, _⟩
    · exact absurd e (never c cut)
    · exact absurd e (alone c cut)

/-- What is left where reading ends, for each way to end. -/
def LeftBy : End → List UInt8 → Prop
  | .complete, rest => rest = []
  | .incomplete, rest => Incomplete rest
  | .invalid, rest => front rest = .invalid

theorem scan_of_char {bs rest : List UInt8} {c : Char} (h : front bs = .char c rest) :
    scan bs = ⟨c :: (scan rest).chars, (scan rest).rest, (scan rest).ending⟩ := by
  rw [scan]
  grind

theorem scan_of_left {bs : List UInt8} {ending : End} (h : LeftBy ending bs) :
    scan bs = ⟨[], bs, ending⟩ := by
  rw [scan]
  cases ending with
  | complete =>
    have := front_eq_done_iff.mpr h
    grind
  | incomplete =>
    have := front_eq_incomplete_iff.mpr h
    grind
  | invalid =>
    have : front bs = .invalid := h
    grind

theorem scan_nil : scan [] = ⟨[], [], .complete⟩ :=
  scan_of_left rfl

/-- Reading undoes writing, and goes on behind it. -/
theorem scan_encode_append (cs : List Char) (rest : List UInt8) :
    scan (encode cs ++ rest) =
      ⟨cs ++ (scan rest).chars, (scan rest).rest, (scan rest).ending⟩ := by
  induction cs with
  | nil => rfl
  | cons c cs ih =>
    have start : encode (c :: cs) ++ rest = encodeChar c ++ (encode cs ++ rest) := by
      simp [encode]
    rw [start, scan_of_char (front_encodeChar_append c _), ih]
    rfl

/-- Bytes are the encoding of what was read, followed by what is left. -/
theorem scan_spec (bs : List UInt8) :
    encode (scan bs).chars ++ (scan bs).rest = bs ∧ LeftBy (scan bs).ending (scan bs).rest := by
  induction bs using scan.induct with
  | case1 bs h =>
    have left : LeftBy .complete bs := front_eq_done_iff.mp h
    rw [scan_of_left left]
    exact ⟨rfl, left⟩
  | case2 bs h =>
    have left : LeftBy .incomplete bs := front_eq_incomplete_iff.mp h
    rw [scan_of_left left]
    exact ⟨rfl, left⟩
  | case3 bs h =>
    have left : LeftBy .invalid bs := h
    rw [scan_of_left left]
    exact ⟨rfl, left⟩
  | case4 bs c rest h ih =>
    rw [scan_of_char h]
    refine ⟨?_, ih.2⟩
    simp only [encode, List.flatMap_cons, List.append_assoc] at ih ⊢
    rw [ih.1, eq_of_front_char h]

/-- Bytes that may go on end with a character or within one. -/
theorem left_of_valid {bs : List UInt8} (valid : (scan bs).ending ≠ .invalid) :
    ((scan bs).ending = .complete ∧ (scan bs).rest = []) ∨
      ((scan bs).ending = .incomplete ∧ Incomplete (scan bs).rest) := by
  have left := (scan_spec bs).2
  cases ending : (scan bs).ending with
  | complete =>
    rw [ending] at left
    exact Or.inl ⟨rfl, left⟩
  | incomplete =>
    rw [ending] at left
    exact Or.inr ⟨rfl, left⟩
  | invalid => exact absurd ending valid

/-- Less than a character is left of bytes that may go on. -/
theorem length_rest_le {bs : List UInt8} (valid : (scan bs).ending ≠ .invalid) :
    (scan bs).rest.length ≤ 3 := by
  rcases left_of_valid valid with ⟨-, nothing⟩ | ⟨-, begun⟩
  · rw [nothing]
    exact Nat.zero_le _
  · exact begun.length_le

/-- What is left of bytes that may go on begins a character and does not end it. -/
theorem exists_char_of_rest {bs : List UInt8} (valid : (scan bs).ending ≠ .invalid) :
    ∃ c more, more ≠ [] ∧ String.utf8EncodeChar c = (scan bs).rest ++ more := by
  rcases left_of_valid valid with ⟨-, nothing⟩ | ⟨-, -, begun⟩
  · rw [nothing]
    exact ⟨'a', String.utf8EncodeChar 'a', by decide, rfl⟩
  · exact begun

theorem scan_eq_iff {bs rest : List UInt8} {cs : List Char} {ending : End} :
    scan bs = ⟨cs, rest, ending⟩ ↔ encode cs ++ rest = bs ∧ LeftBy ending rest := by
  constructor
  · intro h
    have spec := scan_spec bs
    rwa [h] at spec
  · rintro ⟨rfl, left⟩
    rw [scan_encode_append, scan_of_left left, List.append_nil]

/-- Reading may stop anywhere and go on with what was left. -/
theorem scan_append (bs more : List UInt8) :
    scan (bs ++ more) = ⟨(scan bs).chars ++ (scan ((scan bs).rest ++ more)).chars,
      (scan ((scan bs).rest ++ more)).rest, (scan ((scan bs).rest ++ more)).ending⟩ := by
  have split : bs ++ more = encode (scan bs).chars ++ ((scan bs).rest ++ more) := by
    rw [← List.append_assoc, (scan_spec bs).1]
  rw [split, scan_encode_append]

theorem encode_append (cs more : List Char) : encode (cs ++ more) = encode cs ++ encode more :=
  List.flatMap_append

/-- Once reading has met invalid bytes, more bytes change neither that nor what was read. -/
theorem scan_append_of_invalid {bs : List UInt8} (h : (scan bs).ending = .invalid)
    (more : List UInt8) :
    scan (bs ++ more) = ⟨(scan bs).chars, (scan bs).rest ++ more, .invalid⟩ := by
  obtain ⟨split, left⟩ := scan_spec bs
  rw [h] at left
  rw [scan_eq_iff, ← List.append_assoc, split]
  exact ⟨rfl, front_append_of_invalid left more⟩

section Texts

/-- The bytes of a text. -/
def bytesOf (text : String) : List UInt8 := text.toUTF8.data.toList

/-- Bytes that are a text from end to end. -/
def IsText (bs : List UInt8) : Prop := ∃ text, bytesOf text = bs

/-- Bytes that are a text up to the last `k`, with which a character begins but does not end. -/
def IsCutText (k : Nat) (bs : List UInt8) : Prop :=
  ∃ text tail, bytesOf text ++ tail = bs ∧ Incomplete tail ∧ tail.length = k

/-- The longest part of some bytes, from the front, that is a text. -/
def IsLongestText (front bs : List UInt8) : Prop :=
  IsText front ∧ front <+: bs ∧ ∀ other, IsText other → other <+: bs → other.length ≤ front.length

theorem bytesOf_ofList (cs : List Char) : bytesOf (String.ofList cs) = encode cs := by
  have same : encodeChar = String.utf8EncodeChar := funext encodeChar_eq_utf8EncodeChar
  simp [bytesOf, encode, List.utf8Encode, same]

theorem isText_iff {bs : List UInt8} : IsText bs ↔ ∃ cs, encode cs = bs := by
  constructor
  · rintro ⟨text, rfl⟩
    exact ⟨text.toList, by rw [← bytesOf_ofList, String.ofList_toList]⟩
  · rintro ⟨cs, rfl⟩
    exact ⟨String.ofList cs, bytesOf_ofList cs⟩

theorem isText_iff_scan {bs : List UInt8} : IsText bs ↔ (scan bs).ending = .complete := by
  rw [isText_iff]
  constructor
  · rintro ⟨cs, rfl⟩
    have read : scan (encode cs) = ⟨cs, [], .complete⟩ :=
      scan_eq_iff.mpr ⟨List.append_nil _, rfl⟩
    rw [read]
  · intro h
    obtain ⟨split, left⟩ := scan_spec bs
    rw [h] at left
    have none : (scan bs).rest = [] := left
    rw [none, List.append_nil] at split
    exact ⟨_, split⟩

theorem rest_eq_nil_iff {bs : List UInt8} (valid : (scan bs).ending ≠ .invalid) :
    (scan bs).rest = [] ↔ IsText bs := by
  rw [isText_iff_scan]
  rcases left_of_valid valid with ⟨complete, nothing⟩ | ⟨incomplete, some, -⟩
  · exact iff_of_true nothing complete
  · exact iff_of_false some (by rw [incomplete]; decide)

/-- Bytes are invalid exactly if no more bytes make a text of them. -/
theorem exists_isText_append_iff {bs : List UInt8} :
    (∃ more, IsText (bs ++ more)) ↔ (scan bs).ending ≠ .invalid := by
  constructor
  · rintro ⟨more, text⟩ invalid
    rw [isText_iff_scan, scan_append_of_invalid invalid more] at text
    cases text
  · intro valid
    obtain ⟨c, more, -, begun⟩ := exists_char_of_rest valid
    refine ⟨more, isText_iff.mpr ⟨(scan bs).chars ++ [c], ?_⟩⟩
    calc encode ((scan bs).chars ++ [c])
        = encode (scan bs).chars ++ encodeChar c := by simp [encode]
      _ = encode (scan bs).chars ++ ((scan bs).rest ++ more) := by
          rw [encodeChar_eq_utf8EncodeChar, begun]
      _ = bs ++ more := by rw [← List.append_assoc, (scan_spec bs).1]

theorem isCutText_iff_scan {k : Nat} {bs : List UInt8} :
    IsCutText k bs ↔ (scan bs).ending = .incomplete ∧ (scan bs).rest.length = k := by
  constructor
  · rintro ⟨text, tail, rfl, cut, rfl⟩
    have read : scan (bytesOf text ++ tail) = ⟨text.toList, tail, .incomplete⟩ := by
      refine scan_eq_iff.mpr ⟨?_, cut⟩
      rw [← bytesOf_ofList, String.ofList_toList]
    rw [read]
    exact ⟨rfl, rfl⟩
  · rintro ⟨h, rfl⟩
    obtain ⟨split, left⟩ := scan_spec bs
    rw [h] at left
    exact ⟨String.ofList (scan bs).chars, _, by rw [bytesOf_ofList, split], left, rfl⟩

theorem isLongestText_scan (bs : List UInt8) : IsLongestText (encode (scan bs).chars) bs := by
  refine ⟨isText_iff.mpr ⟨_, rfl⟩, ⟨_, (scan_spec bs).1⟩, ?_⟩
  rintro other text ⟨rest, rfl⟩
  obtain ⟨cs, rfl⟩ := isText_iff.mp text
  rw [scan_encode_append]
  simp [encode]

end Texts

end SocketBridge.Utf8
