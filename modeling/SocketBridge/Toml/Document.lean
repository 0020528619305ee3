import SocketBridge.Toml.Value

/-!
# TOML documents

A document is a list of statements: pairs, headers that open a table, and headers that add an
element to an array of tables. The statements are read first and then put together.
-/

namespace SocketBridge.Toml

inductive Statement
  | pair (key : List String) (value : Data)
  | header (path : List String)
  | element (path : List String)

/-- A statement at the start of a line, up to the line end. -/
def readStatement : Reader Statement := fun cs =>
  match cs with
  | '[' :: '[' :: r => do
    let (path, r) ← readKey r
    match r with
    | ']' :: ']' :: r => return (.element path, ← endLine r)
    | _ => none
  | '[' :: r => do
    let (path, r) ← readKey r
    match r with
    | ']' :: r => return (.header path, ← endLine r)
    | _ => none
  | cs => do
    let ((key, d), r) ← readPair (readValue (levelLimit - 1)) cs
    return (.pair key d, ← endLine r)

/-- All statements; lines may be empty or hold a comment only. -/
def readStatements : (fuel : Nat) → List Char → Option (List Statement)
  | 0, _ => none
  | fuel + 1, cs =>
    match skipGaps cs with
    | [] => some []
    | c :: r =>
      if c = '#' ∨ c = '\n' ∨ c = '\r' then do
        let r ← endLine (c :: r)
        readStatements fuel r
      else do
        let (s, r) ← readStatement (c :: r)
        let more ← readStatements fuel r
        return s :: more

/-- What is put together so far: the finished tables, and the one that pairs now go to. -/
structure Assembly where
  root : Table := {}
  current : Table := {}
  path : List String := []
  isElement : Bool := false

namespace Assembly

/-- Puts the current table where its header said. -/
def finish (a : Assembly) : Option Table :=
  match a.path.getLast? with
  | none => some a.current
  | some key =>
    let place (parent : Table) : Option Table :=
      if a.isElement then
        match parent.get? key with
        | none => some (parent.set key (.array [a.current.toNode]))
        | some (.array es) => some (parent.set key (.array (es ++ [a.current.toNode])))
        | some _ => none
      else
        match parent.get? key with
        | none => some (parent.set key a.current.toNode)
        | some (.table true _ _) => some (parent.set key a.current.toNode)
        | some _ => none
    a.root.update false place a.path.dropLast

/-- Opens the table of a header. A table named on the way before keeps what it has; any other may
not be opened again. -/
def openTable (root : Table) (path : List String) : Option Assembly := do
  let key ← path.getLast?
  let mark (parent : Table) : Option Table :=
    match parent.get? key with
    | none => some parent
    | some (.table true false _) => some parent
    | some _ => none
  let checked ← root.update false mark path.dropLast
  let kept := entriesAt checked path
  let root ← checked.update false (fun parent => some (parent.erase key)) path.dropLast
  return { root, current := { entries := kept }, path, isElement := false }
where
  /-- What a table at a path holds already. -/
  entriesAt (t : Table) : List String → List (String × Node)
    | [] => t.entries
    | key :: path =>
      match t.get? key with
      | some (.table i d es) => entriesAt ⟨i, d, es⟩ path
      | some (.array es) =>
        match es.getLast? with
        | some (.table i d es) => entriesAt ⟨i, d, es⟩ path
        | _ => []
      | _ => []

/-- Opens a new element of the array of tables at a path. -/
def openElement (root : Table) (path : List String) : Option Assembly := do
  let key ← path.getLast?
  let mark (parent : Table) : Option Table :=
    match parent.get? key with
    | none => some parent
    | some (.array _) => some parent
    | some _ => none
  let root ← root.update false mark path.dropLast
  return { root, current := {}, path, isElement := true }

def step (a : Assembly) : Statement → Option Assembly
  | .pair key d => do
    let current ← a.current.insert key.dropLast (← key.getLast?) d
    return { a with current }
  | .header path => do openTable (← a.finish) path
  | .element path => do openElement (← a.finish) path

end Assembly

/-- Drops a byte-order mark. -/
def skipMark : List Char → List Char
  | '\ufeff' :: r => r
  | cs => cs

/-- The data of a document, or nothing if the text is not one. -/
def read (text : String) : Option Data := do
  let cs := skipMark text.toList
  let statements ← readStatements (cs.length + 1) cs
  let a ← statements.foldlM Assembly.step {}
  return (← a.finish).toData

end SocketBridge.Toml
