import SocketBridge.Proofs.Toml.Table
import SocketBridge.Toml.Document

/-!
# What documents can hold

A document has integers of 64 bits and nothing that stands for nothing, except inside a date or a
time. Every reader keeps to that, and so does everything that puts tables together.
-/

namespace SocketBridge

/-- What a document can hold. -/
inductive Data.Readable : Data → Prop
  | bool (b : Bool) : Readable (.bool b)
  | int (n : Int) (held : Toml.int64? n = some n) : Readable (.int n)
  | real : Readable .real
  | text (s : String) : Readable (.text s)
  | moment : Readable Toml.momentData
  | list (items : List Data) (all : ∀ d ∈ items, Readable d) : Readable (.list items)
  | fields (items : List (String × Data)) (all : ∀ e ∈ items, Readable e.2) :
    Readable (.fields items)

namespace Toml

inductive Node.Readable : Node → Prop
  | value (d : Data) (own : d.Readable) : Readable (.value d)
  | table (implicit dotted : Bool) (entries : List (String × Node))
    (all : ∀ e ∈ entries, Readable e.2) : Readable (.table implicit dotted entries)
  | array (elements : List Node) (all : ∀ n ∈ elements, Readable n) : Readable (.array elements)

def Table.Readable (t : Table) : Prop := ∀ e ∈ t.entries, e.2.Readable

/-! ## Tables -/

theorem Node.Readable.toData {n : Node} (readable : n.Readable) : n.toData.Readable := by
  induction readable with
  | value d own => exact own
  | table implicit dotted entries all ih =>
    rw [Node.toData, entriesData_eq_map]
    exact .fields _ (List.forall_mem_map.mpr ih)
  | array elements all ih =>
    rw [Node.toData, elementsData_eq_map]
    exact .list _ (List.forall_mem_map.mpr ih)

namespace Table

variable {t t' : Table} {key : String} {n : Node}

theorem Readable.empty (implicit dotted : Bool) : Readable { implicit, dotted } := nofun

theorem Readable.toNode (readable : t.Readable) : t.toNode.Readable := .table _ _ _ readable

theorem Readable.get? (readable : t.Readable) (found : t.get? key = some n) : n.Readable :=
  readable (key, n) (mem_of_lookup found)

theorem Readable.set (readable : t.Readable) (own : n.Readable) : (t.set key n).Readable := by
  unfold Table.set
  split
  · refine List.forall_mem_map.mpr fun e member => ?_
    split
    · exact own
    · exact readable e member
  · exact List.forall_mem_append.mpr ⟨readable, fun e same => List.mem_singleton.mp same ▸ own⟩

theorem Readable.erase (readable : t.Readable) : (t.erase key).Readable := fun e member =>
  readable e (List.mem_filter.mp member).1

/-- A change somewhere below is harmless if it is harmless where it is made. -/
theorem Readable.update {dotted : Bool} {change : Table → Option Table}
    (harmless : ∀ t t', t.Readable → change t = some t' → t'.Readable) {path : List String}
    (readable : t.Readable) (changed : t.update dotted change path = some t') : t'.Readable := by
  induction path generalizing t t' with
  | nil => exact harmless t t' readable changed
  | cons key path ih =>
    unfold Table.update at changed
    split at changed
    · obtain ⟨child, below, same⟩ := Option.bind_eq_some_iff.mp changed
      cases same
      exact readable.set (ih (.empty true dotted) below).toNode
    · cases changed
    · rename_i elements found
      cases readable.get? found with
      | array _ all =>
        split at changed
        · rename_i i d es last
          cases all _ (List.mem_of_getLast? last) with
          | table _ _ _ entries =>
            have inside : Readable ⟨i, d, es⟩ := entries
            obtain ⟨child, below, same⟩ := Option.bind_eq_some_iff.mp changed
            cases same
            refine readable.set (.array _ (List.forall_mem_append.mpr ⟨fun n member => ?_, ?_⟩))
            · exact all n (List.dropLast_subset elements member)
            · exact List.forall_mem_singleton.mpr (ih inside below).toNode
        · cases changed
    · rename_i i d es found
      cases readable.get? found with
      | table _ _ _ entries =>
        have inside : Readable ⟨i, d, es⟩ := entries
        split at changed
        · cases changed
        · obtain ⟨child, below, same⟩ := Option.bind_eq_some_iff.mp changed
          cases same
          exact readable.set (ih inside below).toNode

theorem Readable.insert {path : List String} {d : Data} (readable : t.Readable) (own : d.Readable)
    (inserted : t.insert path key d = some t') : t'.Readable := by
  refine readable.update (fun u u' inside added => ?_) inserted
  split at added
  · cases added
  · cases added
    exact inside.set (.value d own)

end Table

/-! ## Values -/

variable {cs r : List Char}

theorem int64?_self {m n : Int} (held : int64? m = some n) : int64? n = some n := by
  obtain ⟨-, same⟩ := Option.ite_none_right_eq_some.mp held
  exact Option.some.inj same ▸ held

theorem readBased_held {base : Nat} {n : Int} (read : readBased base cs = some (n, r)) :
    int64? n = some n := by
  obtain ⟨⟨ds, r'⟩, -, read⟩ := Option.bind_eq_some_iff.mp read
  obtain ⟨m, held, same⟩ := Option.bind_eq_some_iff.mp read
  cases same
  exact int64?_self held

theorem readInteger_held {n : Int} (read : readInteger cs = some (n, r)) : int64? n = some n := by
  unfold readInteger at read
  split at read
  · exact readBased_held read
  · exact readBased_held read
  · exact readBased_held read
  · obtain ⟨⟨ds, r'⟩, -, read⟩ := Option.bind_eq_some_iff.mp read
    obtain ⟨m, held, same⟩ := Option.bind_eq_some_iff.mp read
    cases same
    exact int64?_self held

theorem readScalar_readable {d : Data} (read : readScalar cs = some (d, r)) : d.Readable := by
  unfold readScalar at read
  split at read
  · cases read
    exact .bool true
  · cases read
    exact .bool false
  · split at read
    · cases read
      exact .text _
    · split at read
      · cases read
        exact .moment
      · split at read
        · cases read
          exact .real
        · obtain ⟨⟨n, r'⟩, digits, same⟩ := Option.map_eq_some_iff.mp read
          cases same
          exact .int n (readInteger_held digits)

/-- Separated items are what the reader of items reads. -/
theorem readSeparated_forall {α : Type} {item : Reader α} {P : α → Prop}
    (own : ∀ cs a r, item cs = some (a, r) → P a) (fuel : Nat) (cs : List Char) :
    ∀ a ∈ (readSeparated item fuel cs).1, P a := by
  induction fuel generalizing cs with
  | zero => exact nofun
  | succ fuel ih =>
    unfold readSeparated
    split
    · exact nofun
    · rename_i a r read
      have first := own cs a r read
      split
      · rename_i r'
        have more := ih r'
        split
        · exact List.forall_mem_singleton.mpr first
        · rename_i taken
          rw [taken] at more
          exact List.forall_mem_cons.mpr ⟨first, more⟩
      · exact List.forall_mem_singleton.mpr first

/-- What a reader of values reads, if nothing else. -/
def ReadsReadable (value : Reader Data) : Prop :=
  ∀ cs d r, value cs = some (d, r) → d.Readable

theorem ReadsReadable.array {value : Reader Data} (inner : ReadsReadable value) :
    ReadsReadable (readArrayTail value) := by
  intro cs d r read
  unfold readArrayTail at read
  dsimp only at read
  split at read
  · cases read
    refine .list _ (readSeparated_forall (fun cs d r item => ?_) _ _)
    obtain ⟨⟨e, r'⟩, read, same⟩ := Option.map_eq_some_iff.mp item
    cases same
    exact inner _ _ _ read
  · cases read

theorem readPair_readable {value : Reader Data} (inner : ReadsReadable value)
    {p : List String × Data} (read : readPair value cs = some (p, r)) : p.2.Readable := by
  obtain ⟨⟨key, r'⟩, -, read⟩ := Option.bind_eq_some_iff.mp read
  dsimp only at read
  split at read
  · obtain ⟨⟨d, r''⟩, value, same⟩ := Option.bind_eq_some_iff.mp read
    cases same
    exact inner _ _ _ value
  · cases read

/-- What every step keeps, a run of steps keeps. -/
theorem foldlM_keeps {σ α : Type} {P : σ → Prop} {step : σ → α → Option σ} {l : List α}
    (keeps : ∀ a ∈ l, ∀ s s', P s → step s a = some s' → P s') {s s' : σ} (start : P s)
    (run : l.foldlM step s = some s') : P s' := by
  induction l generalizing s with
  | nil =>
    cases run
    exact start
  | cons a l ih =>
    obtain ⟨here, there⟩ := List.forall_mem_cons.mp keeps
    rw [List.foldlM_cons] at run
    obtain ⟨middle, first, run⟩ := Option.bind_eq_some_iff.mp run
    exact ih there (here s middle start first) run

theorem tableOfPairs_readable {pairs : List (List String × Data)} {t : Table}
    (all : ∀ p ∈ pairs, p.2.Readable) (made : tableOfPairs pairs = some t) : t.Readable := by
  refine foldlM_keeps (fun p member t t' readable inserted => ?_) (Table.Readable.empty _ _) made
  obtain ⟨key, -, inserted⟩ := Option.bind_eq_some_iff.mp inserted
  exact readable.insert (all p member) inserted

theorem ReadsReadable.inline {value : Reader Data} (inner : ReadsReadable value) :
    ReadsReadable (readInlineTail value) := by
  intro cs d r read
  unfold readInlineTail at read
  dsimp only at read
  split at read
  · obtain ⟨t, made, same⟩ := Option.bind_eq_some_iff.mp read
    cases same
    refine Table.Readable.toNode (tableOfPairs_readable ?_ made) |>.toData
    refine readSeparated_forall (fun cs p r item => ?_) _ _
    obtain ⟨⟨e, r'⟩, read, same⟩ := Option.map_eq_some_iff.mp item
    cases same
    exact readPair_readable inner read
  · cases read

theorem readValue_readable (levels : Nat) : ReadsReadable (readValue levels) := by
  induction levels with
  | zero => exact fun cs d r read => readScalar_readable read
  | succ levels ih =>
    intro cs d r read
    unfold readValue at read
    split at read
    · exact readScalar_readable read
    · rename_i same
      cases same
      exact ih.array _ _ _ read
    · rename_i same
      cases same
      exact ih.inline _ _ _ read
    · exact readScalar_readable read

/-! ## Documents -/

def Statement.Readable : Statement → Prop
  | .pair _ d => d.Readable
  | .header _ | .element _ => True

theorem readStatement_readable {s : Statement} (read : readStatement cs = some (s, r)) :
    s.Readable := by
  unfold readStatement at read
  split at read
  · obtain ⟨⟨path, r'⟩, -, read⟩ := Option.bind_eq_some_iff.mp read
    dsimp only at read
    split at read
    · obtain ⟨r'', -, same⟩ := Option.bind_eq_some_iff.mp read
      cases same
      trivial
    · cases read
  · obtain ⟨⟨path, r'⟩, -, read⟩ := Option.bind_eq_some_iff.mp read
    dsimp only at read
    split at read
    · obtain ⟨r'', -, same⟩ := Option.bind_eq_some_iff.mp read
      cases same
      trivial
    · cases read
  · obtain ⟨⟨p, r'⟩, pair, read⟩ := Option.bind_eq_some_iff.mp read
    obtain ⟨r'', -, same⟩ := Option.bind_eq_some_iff.mp read
    cases same
    exact readPair_readable (readValue_readable _) pair

theorem readStatements_readable {fuel : Nat} {statements : List Statement}
    (read : readStatements fuel cs = some statements) : ∀ s ∈ statements, s.Readable := by
  induction fuel generalizing cs statements with
  | zero => cases read
  | succ fuel ih =>
    unfold readStatements at read
    split at read
    · cases read
      exact nofun
    · split at read
      · obtain ⟨r, -, read⟩ := Option.bind_eq_some_iff.mp read
        exact ih read
      · obtain ⟨⟨s, r⟩, first, read⟩ := Option.bind_eq_some_iff.mp read
        obtain ⟨more, rest, same⟩ := Option.bind_eq_some_iff.mp read
        cases same
        exact List.forall_mem_cons.mpr ⟨readStatement_readable first, ih rest⟩

namespace Assembly

variable {a a' : Assembly}

structure Readable (a : Assembly) : Prop where
  root : a.root.Readable
  current : a.current.Readable

theorem Readable.finish {t : Table} (readable : a.Readable) (finished : a.finish = some t) :
    t.Readable := by
  have own := readable.current.toNode
  unfold Assembly.finish at finished
  split at finished
  · cases finished
    exact readable.current
  · refine readable.root.update (fun parent parent' inside placed => ?_) finished
    split at placed
    · split at placed
      · cases placed
        exact inside.set (.array _ (List.forall_mem_singleton.mpr own))
      · rename_i found
        have .array _ all := inside.get? found
        cases placed
        exact inside.set (.array _ (List.forall_mem_append.mpr
          ⟨all, List.forall_mem_singleton.mpr own⟩))
      · cases placed
    · split at placed
      · cases placed
        exact inside.set own
      · cases placed
        exact inside.set own
      · cases placed

theorem entriesAt_readable {t : Table} (readable : t.Readable) (path : List String) :
    ∀ e ∈ openTable.entriesAt t path, e.2.Readable := by
  induction path generalizing t with
  | nil => exact readable
  | cons key path ih =>
    unfold openTable.entriesAt
    split
    · rename_i found
      have .table _ _ _ entries := readable.get? found
      exact ih entries
    · rename_i found
      have .array _ all := readable.get? found
      split
      · rename_i last
        have .table _ _ _ entries := all _ (List.mem_of_getLast? last)
        exact ih entries
      · exact nofun
    · exact nofun

theorem openTable_readable {root : Table} {path : List String} (readable : root.Readable)
    (opened : openTable root path = some a) : a.Readable := by
  obtain ⟨key, -, opened⟩ := Option.bind_eq_some_iff.mp opened
  obtain ⟨checked, marked, opened⟩ := Option.bind_eq_some_iff.mp opened
  obtain ⟨erased, removed, same⟩ := Option.bind_eq_some_iff.mp opened
  cases same
  have kept : checked.Readable := by
    refine readable.update (fun parent parent' inside same => ?_) marked
    split at same <;> cases same <;> exact inside
  refine ⟨kept.update (fun parent parent' inside same => ?_) removed, entriesAt_readable kept path⟩
  cases same
  exact inside.erase

theorem openElement_readable {root : Table} {path : List String} (readable : root.Readable)
    (opened : openElement root path = some a) : a.Readable := by
  obtain ⟨key, -, opened⟩ := Option.bind_eq_some_iff.mp opened
  obtain ⟨checked, marked, same⟩ := Option.bind_eq_some_iff.mp opened
  cases same
  refine ⟨readable.update (fun parent parent' inside same => ?_) marked, .empty _ _⟩
  split at same <;> cases same <;> exact inside

theorem Readable.step {s : Statement} (own : s.Readable) (readable : a.Readable)
    (stepped : a.step s = some a') : a'.Readable := by
  cases s with
  | pair key d =>
    obtain ⟨last, -, stepped⟩ := Option.bind_eq_some_iff.mp stepped
    obtain ⟨current, inserted, same⟩ := Option.bind_eq_some_iff.mp stepped
    cases same
    exact ⟨readable.root, readable.current.insert own inserted⟩
  | header path =>
    obtain ⟨root, finished, opened⟩ := Option.bind_eq_some_iff.mp stepped
    exact openTable_readable (readable.finish finished) opened
  | element path =>
    obtain ⟨root, finished, opened⟩ := Option.bind_eq_some_iff.mp stepped
    exact openElement_readable (readable.finish finished) opened

end Assembly

/-- Whatever a text is read as, documents can hold it. -/
theorem read_readable {text : String} {d : Data} (given : read text = some d) : d.Readable := by
  obtain ⟨statements, listed, given⟩ := Option.bind_eq_some_iff.mp given
  obtain ⟨a, together, given⟩ := Option.bind_eq_some_iff.mp given
  obtain ⟨t, finished, same⟩ := Option.bind_eq_some_iff.mp given
  cases same
  have all := readStatements_readable listed
  have readable : a.Readable := foldlM_keeps (fun s member a a' => .step (all s member))
    ⟨.empty _ _, .empty _ _⟩ together
  exact (readable.finish finished).toNode.toData

end Toml

end SocketBridge
