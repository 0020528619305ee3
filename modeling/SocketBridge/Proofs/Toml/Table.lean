import SocketBridge.Toml.Table

/-!
# Tables entry by entry

The data of a finished table, and what becomes of a table that gets a new key.
-/

namespace SocketBridge.Toml

/-- What is found under a key is an entry. -/
theorem mem_of_lookup {α : Type} {entries : List (String × α)} {key : String} {a : α}
    (found : entries.lookup key = some a) : (key, a) ∈ entries := by
  obtain ⟨before, after, parted, -⟩ := List.lookup_eq_some_iff.mp found
  exact parted ▸ List.mem_append_right before List.mem_cons_self

theorem elementsData_eq_map (elements : List Node) :
    Node.elementsData elements = elements.map Node.toData := by
  induction elements with
  | nil => rfl
  | cons n elements ih => rw [Node.elementsData, ih, List.map_cons]

theorem entriesData_eq_map (entries : List (String × Node)) :
    Node.entriesData entries = entries.map fun e => (e.1, e.2.toData) := by
  induction entries with
  | nil => rfl
  | cons e entries ih => rw [Node.entriesData, ih, List.map_cons]

namespace Table

variable {t : Table} {key : String} {n : Node}

/-- No entry has this key. -/
def Lacks (t : Table) (key : String) : Prop := ∀ e ∈ t.entries, e.1 ≠ key

theorem get?_of_lacks (new : t.Lacks key) : t.get? key = none := by
  rw [get?, List.lookup_eq_none_iff]
  exact fun e member => by simpa using (new e member).symm

/-- A new key comes last. -/
theorem set_of_lacks (new : t.Lacks key) (n : Node) :
    t.set key n = { t with entries := t.entries ++ [(key, n)] } := by
  have none : t.entries.any (·.1 == key) = false := by
    rw [List.any_eq_false]
    exact fun e member => by simpa using new e member
  simp [set, none]

theorem erase_of_lacks (new : t.Lacks key) : t.erase key = t := by
  have all : t.entries.filter (·.1 != key) = t.entries := by
    rw [List.filter_eq_self]
    exact fun e member => by simpa using new e member
  rw [erase, all]

theorem insert_of_lacks (undotted : t.dotted = false) (new : t.Lacks key) (d : Data) :
    t.insert [] key d = some { t with entries := t.entries ++ [(key, .value d)] } := by
  simp [insert, update, undotted, get?_of_lacks new, set_of_lacks new]

end Table

end SocketBridge.Toml
