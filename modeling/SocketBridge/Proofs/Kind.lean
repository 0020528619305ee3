import SocketBridge.Kind
import SocketBridge.Proofs.Text.Spelling

/-!
# Codes and names of closed enumerations

A code is one member's or nobody's, and so is a text. A text denotes a member if it spells the
canonical name of the member, with the stem or without it. Nothing else denotes one.
-/

namespace SocketBridge

namespace Enumeration

section Table

variable {α : Type} [Enumeration α] {text : String} {a : α}

theorem toList_name (a : α) : (name a).toList = (stem α).toList ++ (short a).toList :=
  String.toList_append

/-- A text denotes a member by the canonical name or by what follows the stem in it. -/
def Denotes (text : String) (a : α) : Prop :=
  Text.Spells text (name a).toList ∨ Text.Spells text (short a).toList

theorem Denotes.eq_or_eq (denotes : Denotes text a) {upper : List Char}
    (spelt : Text.Spells text upper) : upper = (name a).toList ∨ upper = (short a).toList := by
  rw [Text.spells_iff] at spelt
  subst spelt
  exact denotes.imp Text.spells_iff.mp Text.spells_iff.mp

/-- A text that is refused is told as it was given. -/
def Refuses (α : Type) [Enumeration α] (text : String) : Prop :=
  ofName α text = .error ⟨kind α, text⟩

theorem eq_of_ofName_eq_error {e : UnknownName} (failed : ofName α text = .error e) :
    e = ⟨kind α, text⟩ := by
  dsimp only [ofName] at failed
  split at failed
  · cases failed
  · exact (Except.error.inj failed).symm

theorem dropStem_eq_iff {stem cs bare : List Char} (unstemmed : ¬stem <+: bare) :
    dropStem stem cs = bare ↔ cs = stem ++ bare ∨ cs = bare := by
  unfold dropStem
  by_cases stemmed : stem <+: cs
  · rw [if_pos (List.isPrefixOf_iff_prefix.mpr stemmed)]
    obtain ⟨rest, rfl⟩ := stemmed
    rw [List.drop_left, List.append_cancel_left_eq]
    refine (or_iff_left fun same => unstemmed ?_).symm
    exact ⟨rest, same⟩
  · rw [if_neg fun isPrefix => stemmed (List.isPrefixOf_iff_prefix.mp isPrefix)]
    refine (or_iff_right fun same => stemmed ?_).symm
    exact ⟨bare, same.symm⟩

end Table

/-! ### What the tables promise -/

/-- What the canonical names of the enumerations start with. -/
def stems : List String := [stem Family, stem SocketType, stem Protocol]

/-- What the tables of an enumeration have to be like for codes and names to tell its members
apart. No name ends like another, and no name has a stem besides its own in front. -/
class Lawful (α : Type) [Enumeration α] : Prop where
  stem_mem : stem α ∈ stems
  mem_members : ∀ a : α, a ∈ (members : List α)
  code_injective : ∀ a b : α, code a = code b → a = b
  plain : ∀ a : α, (name a).toList.all fun c => c.toNat < 128 && !Text.isBlank c
  eq_of_suffix : ∀ a b : α, (short a).toList <:+ (name b).toList → a = b
  eq_of_stem : ∀ a : α, ∀ s ∈ stems, s.toList <+: (name a).toList → s = stem α
  unstemmed : ∀ a : α, ∀ s ∈ stems, ¬s.toList <+: (short a).toList

instance : Lawful Family where
  stem_mem := by decide
  mem_members a := by cases a <;> decide
  code_injective a b := by cases a <;> cases b <;> decide
  plain a := by cases a <;> decide
  eq_of_suffix a b := by cases a <;> cases b <;> decide
  eq_of_stem a := by cases a <;> decide
  unstemmed a := by cases a <;> decide

instance : Lawful SocketType where
  stem_mem := by decide
  mem_members a := by cases a <;> decide
  code_injective a b := by cases a <;> cases b <;> decide
  plain a := by cases a <;> decide
  eq_of_suffix a b := by cases a <;> cases b <;> decide
  eq_of_stem a := by cases a <;> decide
  unstemmed a := by cases a <;> decide

instance : Lawful Protocol where
  stem_mem := by decide
  mem_members a := by cases a <;> decide
  code_injective a b := by cases a <;> cases b <;> decide
  plain a := by cases a <;> decide
  eq_of_suffix a b := by cases a <;> cases b <;> decide
  eq_of_stem a := by cases a <;> decide
  unstemmed a := by cases a <;> decide

variable {α : Type} [Enumeration α] [Lawful α]

/-- A search for what only one member can be finds that member. -/
theorem find?_members_eq_some_iff {p : α → Bool} (single : ∀ a b, p a → p b → a = b) {a : α} :
    members.find? p = some a ↔ p a = true := by
  constructor
  · exact List.find?_some
  · intro own
    cases found : members.find? p with
    | none => exact absurd own (List.find?_eq_none.mp found a (Lawful.mem_members a))
    | some b => rw [single a b own (List.find?_some found)]

/-! ### Codes -/

theorem find?_code_eq_some_iff {c : Int32} {a : α} :
    members.find? (fun a : α => code a == c) = some a ↔ code a = c := by
  rw [find?_members_eq_some_iff, beq_iff_eq]
  intro a b here there
  apply Lawful.code_injective
  rw [beq_iff_eq.mp here, beq_iff_eq.mp there]

theorem ofCode_eq_ok_iff {c : Int32} {a : α} : ofCode α c = .ok a ↔ code a = c := by
  rw [← find?_code_eq_some_iff, ofCode]
  cases members.find? (fun a : α => code a == c) <;> simp

/-- A request that is satisfied names a member: the wildcard or the actual one. -/
theorem satisfies_code_iff (a : α) {requested : Int32} :
    satisfies α (code a) requested = true ↔
      ∃ b : α, ofCode α requested = .ok b ∧ (b = wildcard ∨ b = a) := by
  simp only [satisfies, ofCode_eq_ok_iff.mpr (Eq.refl (code a)), Bool.or_eq_true, beq_iff_eq,
    ofCode_eq_ok_iff]
  constructor
  · rintro (rfl | rfl)
    · exact ⟨wildcard, rfl, .inl rfl⟩
    · exact ⟨a, rfl, .inr rfl⟩
  · rintro ⟨b, rfl, rfl | rfl⟩
    · exact .inl rfl
    · exact .inr rfl

/-! ### Names -/

variable {text : String} {a : α}

theorem find?_short_eq_some_iff {bare : List Char} :
    members.find? (fun a : α => (short a).toList == bare) = some a ↔ (short a).toList = bare := by
  rw [find?_members_eq_some_iff, beq_iff_eq]
  intro a b here there
  apply Lawful.eq_of_suffix
  rw [toList_name, beq_iff_eq.mp here, beq_iff_eq.mp there]
  exact List.suffix_append ..

theorem ofName_eq_ok_iff : ofName α text = .ok a ↔ Denotes text a := by
  have unstemmed := Lawful.unstemmed a (stem α) Lawful.stem_mem
  rw [Denotes, Text.spells_iff, Text.spells_iff, toList_name, ← dropStem_eq_iff unstemmed,
    @eq_comm _ (dropStem _ _), ← find?_short_eq_some_iff]
  dsimp only [ofName]
  split
  · rename_i found
    rw [found, Except.ok.injEq, Option.some.injEq]
  · rename_i missing
    rw [missing]
    exact iff_of_false nofun nofun

/-- No text denotes two members. -/
theorem Denotes.unique {b : α} (here : Denotes text a) (there : Denotes text b) : a = b :=
  Except.ok.inj ((ofName_eq_ok_iff.mpr here).symm.trans (ofName_eq_ok_iff.mpr there))

theorem ofName_eq_error_iff {e : UnknownName} :
    ofName α text = .error e ↔ (∀ a : α, ¬Denotes text a) ∧ e = ⟨kind α, text⟩ := by
  constructor
  · intro failed
    refine ⟨fun a denotes => ?_, eq_of_ofName_eq_error failed⟩
    cases failed.symm.trans (ofName_eq_ok_iff.mpr denotes)
  · rintro ⟨nobody, rfl⟩
    cases told : ofName α text with
    | ok a => exact absurd (ofName_eq_ok_iff.mp told) (nobody a)
    | error e => rw [eq_of_ofName_eq_error told]

theorem refuses_iff : Refuses α text ↔ ∀ a : α, ¬Denotes text a := by
  rw [Refuses, ofName_eq_error_iff, and_iff_left rfl]

/-- Nothing but the stem may stand before what follows the stem in a name. -/
theorem refuses_prefixed {front : List Char} (spelt : Text.Spells text (front ++ (short a).toList))
    (something : front ≠ []) (strange : front ≠ (stem α).toList) : Refuses α text := by
  rw [refuses_iff]
  intro b denotes
  have ending : (short a).toList <:+ (name b).toList := by
    rcases denotes.eq_or_eq spelt with same | same
    · rw [← same]
      exact List.suffix_append ..
    · rw [toList_name, ← same, ← List.append_assoc]
      exact List.suffix_append ..
  obtain rfl := Lawful.eq_of_suffix a b ending
  rcases denotes.eq_or_eq spelt with same | same
  · rw [toList_name] at same
    exact strange (List.append_cancel_right same)
  · exact something (List.append_left_eq_self.mp same)

/-- No stem may stand behind the stem. -/
theorem refuses_doubled {s : String} {rest : List Char} (known : s ∈ stems)
    (spelt : Text.Spells text ((stem α).toList ++ (s.toList ++ rest))) : Refuses α text := by
  rw [refuses_iff]
  intro a denotes
  rcases denotes.eq_or_eq spelt with same | same
  · rw [toList_name, List.append_cancel_left_eq] at same
    exact Lawful.unstemmed a s known ⟨rest, same⟩
  · exact Lawful.unstemmed a (stem α) Lawful.stem_mem ⟨_, same⟩

/-- No stem of another enumeration may stand in front. -/
theorem refuses_foreign {s : String} {rest : List Char} (known : s ∈ stems) (other : s ≠ stem α)
    (spelt : Text.Spells text (s.toList ++ rest)) : Refuses α text := by
  rw [refuses_iff]
  intro a denotes
  rcases denotes.eq_or_eq spelt with same | same
  · exact other (Lawful.eq_of_stem a s known ⟨rest, same⟩)
  · exact Lawful.unstemmed a s known ⟨rest, same⟩

theorem plain_of_mem_name {c : Char} (inside : c ∈ (name a).toList) :
    c.toNat < 128 ∧ Text.isBlank c = false := by
  have plain := List.all_eq_true.mp (Lawful.plain a) c inside
  simpa using plain

theorem plain_of_denotes (denotes : Denotes text a) {core : List Char}
    (isCore : Text.IsCore text.toList core) {c : Char} (inside : c ∈ core) :
    c.toNat < 128 ∧ Text.isBlank c = false := by
  have shown : c.toUpper ∈ (name a).toList := by
    have upper := List.mem_map_of_mem (f := Char.toUpper) inside
    rw [← Text.trim_eq_iff.mpr isCore] at upper
    rcases denotes.eq_or_eq (Text.spells_iff.mpr rfl) with same | same
    · rwa [same] at upper
    · rw [same] at upper
      rw [toList_name]
      exact List.mem_append_right _ upper
  exact Text.plain_of_toUpper (plain_of_mem_name shown)

/-- Inside a name there are no blanks and no characters but ASCII ones. -/
theorem refuses_strange {core : List Char} (isCore : Text.IsCore text.toList core) {c : Char}
    (inside : c ∈ core) (strange : Text.isBlank c = true ∨ 128 ≤ c.toNat) : Refuses α text := by
  rw [refuses_iff]
  intro a denotes
  obtain ⟨small, seen⟩ := plain_of_denotes denotes isCore inside
  rcases strange with blank | large
  · cases blank.symm.trans seen
  · omega

/-- What reading the names of an enumeration promises of all texts. -/
structure ReadsNames (α : Type) [Enumeration α] : Prop where
  reads : ∀ text (a : α), ofName α text = .ok a ↔ Denotes text a
  fails : ∀ text e, ofName α text = .error e ↔ (∀ a : α, ¬Denotes text a) ∧ e = ⟨kind α, text⟩
  single : ∀ text (a b : α), Denotes text a → Denotes text b → a = b
  prefixed : ∀ text front (a : α), Text.Spells text (front ++ (short a).toList) → front ≠ [] →
    front ≠ (stem α).toList → Refuses α text
  doubled : ∀ text, ∀ s ∈ stems, ∀ rest,
    Text.Spells text ((stem α).toList ++ (s.toList ++ rest)) → Refuses α text
  foreign : ∀ text, ∀ s ∈ stems, s ≠ stem α → ∀ rest, Text.Spells text (s.toList ++ rest) →
    Refuses α text
  strange : ∀ text core, Text.IsCore text.toList core → ∀ c ∈ core,
    Text.isBlank c = true ∨ 128 ≤ c.toNat → Refuses α text

theorem readsNames (α : Type) [Enumeration α] [Lawful α] : ReadsNames α where
  reads _ _ := ofName_eq_ok_iff
  fails _ _ := ofName_eq_error_iff
  single _ _ _ := Denotes.unique
  prefixed _ _ _ := refuses_prefixed
  doubled _ _ known _ := refuses_doubled known
  foreign _ _ known other _ := refuses_foreign known other
  strange _ _ isCore _ := refuses_strange isCore

end Enumeration

open Enumeration in
/-- Whatever the text: it is read as a family, a socket type or a protocol if it spells the canonical
name of one, or that name without its stem, and else it is refused and told as it was given. Blanks
around it and the case of ASCII letters do not count. No text denotes two members. Nothing besides
the stem may stand before a name, no second stem and none of another enumeration, and in a name there
are neither blanks nor characters that are not ASCII. -/
theorem names_read_exactly : ReadsNames Family ∧ ReadsNames SocketType ∧ ReadsNames Protocol :=
  ⟨readsNames Family, readsNames SocketType, readsNames Protocol⟩

example : Enumeration.ofName Family " pf_Inet6\n" = .ok .inet6 := by decide

end SocketBridge
