import Mathlib.Data.List.Induction
import SocketBridge.Proofs.Toml.Scalar
import SocketBridge.Proofs.Toml.Table
import SocketBridge.Toml.Document

/-!
# Documents written line by line

A header opens a section, and its pairs follow, each on a line. Such a document is read back as what
is written in it, if no section and no key of a section is there twice.
-/

namespace SocketBridge.Toml

open Text

/-- A key that needs no quotes. -/
structure BareKey where
  key : String
  nonempty : key ≠ ""
  bare : key.toList.all isBareKey = true

/-- A section: its name and its pairs. -/
structure Section where
  name : BareKey
  pairs : List (BareKey × Scalar)
  distinct : (pairs.map fun p => p.1.key).Nodup

/-- Sections with different names. -/
structure Document where
  sections : List Section
  distinct : (sections.map fun s => s.name.key).Nodup

def Section.toData (s : Section) : Data := .fields (s.pairs.map fun p => (p.1.key, p.2.toData))

def Document.toData (d : Document) : Data :=
  .fields (d.sections.map fun s => (s.name.key, s.toData))

inductive Line
  | header (name : BareKey)
  | pair (key : BareKey) (v : Scalar)

namespace Line

def spell : Line → List Char
  | header name => '[' :: name.key.toList ++ [']', '\n']
  | pair key v => key.key.toList ++ ' ' :: '=' :: ' ' :: v.spell ++ ['\n']

def statement : Line → Statement
  | header name => .header [name.key]
  | pair key v => .pair [key.key] v.toData

end Line

def Section.lines (s : Section) : List Line :=
  .header s.name :: s.pairs.map fun p => .pair p.1 p.2

def Document.lines (d : Document) : List Line := d.sections.flatMap Section.lines

/-- The text of a document. -/
def Document.text (d : Document) : String := String.ofList (d.lines.flatMap Line.spell)

/-! ## Lines -/

variable {cs rest : List Char}

theorem skipGaps_of_ne (space : ∀ r, cs ≠ ' ' :: r) (tab : ∀ r, cs ≠ '\t' :: r) :
    skipGaps cs = cs := by
  cases cs with
  | nil => rfl
  | cons c r =>
    have noSpace : c ≠ ' ' := fun same => space r (same ▸ rfl)
    have noTab : c ≠ '\t' := fun same => tab r (same ▸ rfl)
    simp [skipGaps, isGap, noSpace, noTab]

namespace BareKey

variable (key : BareKey)

theorem exists_cons : ∃ c cs, key.key.toList = c :: cs ∧ isBareKey c = true := by
  cases chars : key.key.toList with
  | nil => exact absurd (String.toList_eq_nil_iff.mp chars) key.nonempty
  | cons c cs => exact ⟨c, cs, rfl, List.all_eq_true.mp key.bare c (chars ▸ List.mem_cons_self)⟩

theorem append_ne_cons {mark : Char} (other : isBareKey mark = false) (r : List Char) :
    key.key.toList ++ rest ≠ mark :: r := by
  obtain ⟨c, cs, chars, bare⟩ := key.exists_cons
  rw [chars]
  intro same
  rw [(List.cons.inj same).1, other] at bare
  cases bare

theorem readKeyPart_append (ends : ∀ c ∈ rest.head?, isBareKey c = false) :
    readKeyPart (key.key.toList ++ rest) = some (key.key, rest) := by
  obtain ⟨taken, left⟩ := parted_at_boundary (List.all_eq_true.mp key.bare) ends
  unfold readKeyPart
  split
  · rename_i same
    exact absurd same (key.append_ne_cons (by decide) _)
  · rename_i same
    exact absurd same (key.append_ne_cons (by decide) _)
  · rw [taken, left]
    split
    · rename_i empty
      exact absurd (String.toList_eq_nil_iff.mp empty) key.nonempty
    · rw [String.ofList_toList]

/-- A key is read up to what is behind it and the blanks there. -/
theorem readKey_append (ends : ∀ c ∈ rest.head?, isBareKey c = false)
    (whole : ∀ r, skipGaps rest ≠ '.' :: r) :
    readKey (key.key.toList ++ rest) = some ([key.key], skipGaps rest) := by
  have front : skipGaps (key.key.toList ++ rest) = key.key.toList ++ rest :=
    skipGaps_of_ne (key.append_ne_cons (by decide)) (key.append_ne_cons (by decide))
  have parts (fuel : Nat) :
      readKeyParts (fuel + 1) (key.key.toList ++ rest) = some ([key.key], skipGaps rest) := by
    simp only [readKeyParts, front, key.readKeyPart_append ends, Option.bind_eq_bind,
      Option.bind_some]
    rfl
  simp [readKey, parts, levelLimit]

end BareKey

theorem endLine_newline (rest : List Char) : endLine ('\n' :: rest) = some rest := rfl

namespace Line

variable (line : Line)

theorem spell_ne_nil : line.spell ≠ [] := by
  cases line <;> simp [spell]

/-- A line opens with its header or its key. -/
theorem spell_ne_cons {mark : Char} (other : isBareKey mark = false) (free : mark ≠ '[')
    (r : List Char) : line.spell ++ rest ≠ mark :: r := by
  cases line with
  | header name => exact fun same => free (List.cons.inj same).1.symm
  | pair key v =>
    rw [spell, List.append_assoc, List.append_assoc]
    exact key.append_ne_cons other r

theorem readStatement_spell (rest : List Char) :
    readStatement (line.spell ++ rest) = some (line.statement, rest) := by
  cases line with
  | header name =>
    have inner : (Line.header name).spell ++ rest =
        '[' :: (name.key.toList ++ ']' :: '\n' :: rest) := by
      simp [spell]
    have read : readKey (name.key.toList ++ ']' :: '\n' :: rest) =
        some ([name.key], ']' :: '\n' :: rest) :=
      name.readKey_append (by simp [isBareKey]) fun r same => nomatch (List.cons.inj same).1
    rw [inner]
    unfold readStatement
    split
    · rename_i same
      exact absurd (List.cons.inj same).2 (name.append_ne_cons (by decide) _)
    · rename_i same
      rw [← (List.cons.inj same).2, read]
      rfl
    · rename_i other
      exact absurd rfl (other _)
  | pair key v =>
    have inner : (Line.pair key v).spell ++ rest =
        key.key.toList ++ ' ' :: '=' :: ' ' :: (v.spell ++ '\n' :: rest) := by
      simp [spell]
    have read : readKey (key.key.toList ++ ' ' :: '=' :: ' ' :: (v.spell ++ '\n' :: rest)) =
        some ([key.key], '=' :: ' ' :: (v.spell ++ '\n' :: rest)) :=
      key.readKey_append (by simp [isBareKey]) fun r same => nomatch (List.cons.inj same).1
    have value : skipGaps (' ' :: (v.spell ++ '\n' :: rest)) = v.spell ++ '\n' :: rest :=
      skipGaps_of_ne (v.spell_ne_cons (by decide)) (v.spell_ne_cons (by decide))
    rw [inner]
    unfold readStatement
    split
    · rename_i same
      exact absurd same (key.append_ne_cons (by decide) _)
    · rename_i same
      exact absurd same (key.append_ne_cons (by decide) _)
    · simp [readPair, read, value, readValue_spell, endLine_newline, statement]

/-- One line is one statement. -/
theorem readStatements_spell (fuel : Nat) (rest : List Char) :
    readStatements (fuel + 1) (line.spell ++ rest) =
      (readStatements fuel rest).map (line.statement :: ·) := by
  have front : skipGaps (line.spell ++ rest) = line.spell ++ rest :=
    skipGaps_of_ne (line.spell_ne_cons (by decide) (by decide))
      (line.spell_ne_cons (by decide) (by decide))
  rw [readStatements, front]
  cases text : line.spell ++ rest with
  | nil => exact absurd (List.append_eq_nil_iff.mp text).1 line.spell_ne_nil
  | cons c r =>
    have unlike {mark : Char} (other : isBareKey mark = false) (free : mark ≠ '[') : c ≠ mark :=
      fun same => line.spell_ne_cons other free r (same ▸ text)
    have gone : ¬(c = '#' ∨ c = '\n' ∨ c = '\r') := by
      rintro (same | same | same)
      · exact unlike (by decide) (by decide) same
      · exact unlike (by decide) (by decide) same
      · exact unlike (by decide) (by decide) same
    simp only [if_neg gone, ← text, line.readStatement_spell, Option.bind_eq_bind, Option.bind_some]
    cases readStatements fuel rest <;> rfl

end Line

/-- Lines are read one after the other. -/
theorem readStatements_lines (lines : List Line) {fuel : Nat} (enough : lines.length < fuel) :
    readStatements fuel (lines.flatMap Line.spell) = some (lines.map Line.statement) := by
  induction lines generalizing fuel with
  | nil =>
    obtain ⟨fuel, rfl⟩ := Nat.exists_eq_succ_of_ne_zero (Nat.ne_of_gt enough)
    rfl
  | cons line lines ih =>
    obtain ⟨fuel, rfl⟩ := Nat.exists_eq_succ_of_ne_zero (Nat.ne_of_gt (Nat.zero_lt_of_lt enough))
    rw [List.flatMap_cons, Line.readStatements_spell, ih (Nat.lt_of_succ_lt_succ enough)]
    rfl

/-! ## Tables -/

/-- The table of some pairs. -/
def pairTable (pairs : List (BareKey × Scalar)) : Table :=
  { entries := pairs.map fun p => (p.1.key, .value p.2.toData) }

/-- The table of some sections. -/
def sectionTable (sections : List Section) : Table :=
  { entries := sections.map fun s => (s.name.key, (pairTable s.pairs).toNode) }

/-- The last of some keys that are all different is not among the others. -/
theorem nodup_concat {α : Type} {before : List α} {a : α} {key : α → String} {node : α → Node}
    (distinct : ((before ++ [a]).map key).Nodup) :
    (before.map key).Nodup ∧
      ({ entries := before.map fun b => (key b, node b) } : Table).Lacks (key a) := by
  rw [List.map_append, List.nodup_append] at distinct
  obtain ⟨others, -, apart⟩ := distinct
  refine ⟨others, ?_⟩
  rintro e member same
  obtain ⟨b, earlier, rfl⟩ := List.mem_map.mp member
  exact apart (key b) (List.mem_map_of_mem earlier) (key a) (List.mem_singleton_self _) same

namespace Assembly

/-- Pairs fill the table that is open. -/
theorem foldlM_pairs {a : Assembly} (fresh : a.current = {}) {pairs : List (BareKey × Scalar)}
    (distinct : (pairs.map fun p => p.1.key).Nodup) :
    (pairs.map fun p => (Line.pair p.1 p.2).statement).foldlM step a =
      some { a with current := pairTable pairs } := by
  -- A table grows at its end, so the last pair is taken off.
  induction pairs using List.reverseRecOn with
  | nil =>
    rw [show pairTable [] = a.current from fresh.symm]
    rfl
  | append_singleton pairs p ih =>
    obtain ⟨before, (new : (pairTable pairs).Lacks p.1.key)⟩ := nodup_concat distinct
    have added : (pairTable pairs).insert [] p.1.key p.2.toData =
        some (pairTable (pairs ++ [p])) := by
      rw [Table.insert_of_lacks rfl new]
      simp [pairTable]
    rw [List.map_append, List.foldlM_append, ih before]
    simp [step, Line.statement, added]

/-- The header of a new section opens an empty table. -/
theorem openTable_of_lacks {root : Table} {name : String} (new : root.Lacks name) :
    openTable root [name] = some { root, path := [name] } := by
  simp [openTable, openTable.entriesAt, Table.update, Table.get?_of_lacks new,
    Table.erase_of_lacks new]

/-- A section is put behind the others once the next one begins. -/
theorem finish_of_lacks {a : Assembly} {name : String} (path : a.path = [name])
    (table : a.isElement = false) (new : a.root.Lacks name) :
    a.finish = some { a.root with entries := a.root.entries ++ [(name, a.current.toNode)] } := by
  simp [finish, path, table, Table.update, Table.get?_of_lacks new, Table.set_of_lacks new]

/-- Sections are put together one after the other. -/
theorem foldlM_sections {sections : List Section}
    (distinct : (sections.map fun s => s.name.key).Nodup) :
    ∃ a, ((sections.flatMap Section.lines).map Line.statement).foldlM step {} = some a ∧
      a.finish = some (sectionTable sections) := by
  induction sections using List.reverseRecOn with
  | nil => exact ⟨{}, rfl, rfl⟩
  | append_singleton sections s ih =>
    obtain ⟨before, (new : (sectionTable sections).Lacks s.name.key)⟩ := nodup_concat distinct
    obtain ⟨a, read, finished⟩ := ih before
    let opened : Assembly := { root := sectionTable sections, path := [s.name.key] }
    have header : step a (Line.header s.name).statement = some opened := by
      simp [step, Line.statement, finished, openTable_of_lacks new, opened]
    have filled := foldlM_pairs (rfl : opened.current = {}) s.distinct
    refine ⟨{ opened with current := pairTable s.pairs }, ?_, ?_⟩
    · rw [List.flatMap_append, List.map_append, List.foldlM_append, read]
      have whole : (s.lines.map Line.statement).foldlM step a =
          some { opened with current := pairTable s.pairs } := by
        rw [Section.lines, List.map_cons, List.map_map, List.foldlM_cons, header]
        exact filled
      simpa using whole
    · rw [finish_of_lacks rfl rfl new]
      simp [sectionTable, opened]

end Assembly

theorem toData_sectionTable (sections : List Section) :
    (sectionTable sections).toData = .fields (sections.map fun s => (s.name.key, s.toData)) := by
  simp [sectionTable, pairTable, Table.toData, Table.toNode, Node.toData, entriesData_eq_map,
    Section.toData, Function.comp_def]

/-- What is written as a document is read as its data. -/
theorem read_text (d : Document) : read d.text = some d.toData := by
  have unmarked : skipMark d.text.toList = d.lines.flatMap Line.spell := by
    rw [Document.text, String.toList_ofList]
    cases d.lines with
    | nil => rfl
    | cons line lines =>
      unfold skipMark
      split
      · rename_i same
        exact absurd same (line.spell_ne_cons (by decide) (by decide) _)
      · rfl
  have statements := readStatements_lines d.lines
    (Nat.lt_succ_of_le (length_le_flatMap Line.spell_ne_nil d.lines))
  obtain ⟨a, together, finished⟩ := Assembly.foldlM_sections d.distinct
  rw [← Document.lines] at together
  simp only [read, unmarked, statements, Option.bind_eq_bind, Option.bind_some, together, finished,
    toData_sectionTable]
  rfl

end SocketBridge.Toml
