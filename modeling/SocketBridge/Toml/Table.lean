import SocketBridge.Data

/-!
# Tables under construction

A document builds its tables piece by piece. A table remembers whether it was named by a header of
its own or only on the way to another (`implicit`), and whether dotted keys made it (`dotted`),
since a table may be opened once only and never in both ways.
-/

namespace SocketBridge.Toml

inductive Node
  | value (d : Data)
  | table (implicit dotted : Bool) (entries : List (String × Node))
  | array (elements : List Node)

/-- The entries of a table, with its two marks. -/
structure Table where
  implicit : Bool := false
  dotted : Bool := false
  entries : List (String × Node) := []

namespace Table

def toNode (t : Table) : Node := .table t.implicit t.dotted t.entries

/-- Puts a node at a key, in place of one that is there. -/
def set (t : Table) (key : String) (n : Node) : Table :=
  if t.entries.any (·.1 == key) then
    { t with entries := t.entries.map fun e => if e.1 == key then (key, n) else e }
  else { t with entries := t.entries ++ [(key, n)] }

def get? (t : Table) (key : String) : Option Node := t.entries.lookup key

def erase (t : Table) (key : String) : Table :=
  { t with entries := t.entries.filter (·.1 != key) }

/-- Goes down a path of keys, changes the table at its end and comes back. Tables that are not
there are made on the way; an array is entered at its last element. With `dotted` the path comes
from a dotted key, which may not enter a table that has a header of its own. -/
def update (dotted : Bool) (change : Table → Option Table) :
    (path : List String) → Table → Option Table
  | [], t => change t
  | key :: path, t =>
    match t.get? key with
    | none => do
      let child ← update dotted change path { implicit := true, dotted }
      return t.set key child.toNode
    | some (.value _) => none
    | some (.array elements) => do
      match elements.getLast? with
      | some (.table i d es) =>
        let child ← update dotted change path ⟨i, d, es⟩
        return t.set key (.array (elements.dropLast ++ [child.toNode]))
      | _ => none
    | some (.table i d es) =>
      if dotted && !i then none
      else do
        let child ← update dotted change path ⟨i, d, es⟩
        return t.set key child.toNode

/-- Adds one pair under a dotted key. Its last table has to be of the right kind, and the key has
to be new. -/
def insert (t : Table) (path : List String) (key : String) (d : Data) : Option Table :=
  t.update true
    (fun t =>
      if t.dotted == path.isEmpty || (t.get? key).isSome then none else some (t.set key (.value d)))
    path

end Table

mutual

/-- The data that a finished node holds. -/
def Node.toData : Node → Data
  | .value d => d
  | .table _ _ entries => .fields (Node.entriesData entries)
  | .array elements => .list (Node.elementsData elements)

def Node.entriesData : List (String × Node) → List (String × Data)
  | [] => []
  | (k, n) :: es => (k, n.toData) :: Node.entriesData es

def Node.elementsData : List Node → List Data
  | [] => []
  | n :: ns => n.toData :: Node.elementsData ns

end

def Table.toData (t : Table) : Data := t.toNode.toData

end SocketBridge.Toml
