import SocketBridge.Toml.Number
import SocketBridge.Toml.Table

/-!
# Keys and values of TOML

Arrays and inline tables may be nested, but not without limit.
-/

namespace SocketBridge.Toml

def isBareKey (c : Char) : Bool :=
  ('a' ≤ c && c ≤ 'z') || ('A' ≤ c && c ≤ 'Z') || ('0' ≤ c && c ≤ '9') || c == '_' || c == '-'

/-- Neither a dotted key nor a nest of values may have this many levels. -/
def levelLimit : Nat := 80

/-- One part of a key: bare, or quoted on one line. -/
def readKeyPart : Reader String
  | '"' :: r => (readBasicTail (r.length + 1) r).map fun (cs, r) => (String.ofList cs, r)
  | '\'' :: r => (readLiteralTail r).map fun (cs, r) => (String.ofList cs, r)
  | cs =>
    match cs.takeWhile isBareKey with
    | [] => none
    | key => some (String.ofList key, cs.dropWhile isBareKey)

/-- Parts with points between them, and blanks around each. -/
def readKeyParts : (fuel : Nat) → Reader (List String)
  | 0, _ => none
  | fuel + 1, cs => do
    let (part, r) ← readKeyPart (skipGaps cs)
    match skipGaps r with
    | '.' :: r' => do
      let (more, r) ← readKeyParts fuel r'
      return (part :: more, r)
    | r => return ([part], r)

def readKey : Reader (List String) := fun cs => do
  let (parts, r) ← readKeyParts (cs.length + 1) cs
  if parts.length < levelLimit then some (parts, r) else none

/-- Items with commas between them, as many as there are. A comma without an item behind it is
left. -/
def readSeparated {α : Type} (item : Reader α) : (fuel : Nat) → List Char → List α × List Char
  | 0, cs => ([], cs)
  | fuel + 1, cs =>
    match item cs with
    | none => ([], cs)
    | some (a, r) =>
      match r with
      | ',' :: r' =>
        match readSeparated item fuel r' with
        | ([], _) => ([a], r)
        | (more, rest) => (a :: more, rest)
      | _ => ([a], r)

/-- An array behind its bracket. -/
def readArrayTail (value : Reader Data) : Reader Data := fun cs =>
  let lines (cs : List Char) := skipLines (cs.length + 1) cs
  let item : Reader Data := fun cs => (value (lines cs)).map fun (d, r) => (d, lines r)
  let (items, r) := readSeparated item cs.length cs
  let r := match items, r with
    | _ :: _, ',' :: r => r
    | _, r => r
  match lines r with
  | ']' :: r => some (.list items, r)
  | _ => none

/-- A key and its value. -/
def readPair (value : Reader Data) : Reader (List String × Data) := fun cs => do
  let (key, r) ← readKey cs
  let (d, r) ← match r with
    | '=' :: r => value (skipGaps r)
    | _ => none
  return ((key, d), r)

/-- A table of the pairs of an inline table. -/
def tableOfPairs (pairs : List (List String × Data)) : Option Table :=
  pairs.foldlM (fun t p => do t.insert p.1.dropLast (← p.1.getLast?) p.2) {}

/-- An inline table behind its brace. -/
def readInlineTail (value : Reader Data) : Reader Data := fun cs => do
  let item : Reader (List String × Data) := fun cs =>
    (readPair value cs).map fun (p, r) => (p, skipGaps r)
  let (pairs, r) := readSeparated item cs.length cs
  match skipGaps r with
  | '}' :: r => return ((← tableOfPairs pairs).toData, r)
  | _ => none

/-- A date or time as data: a record that no section knows the field of. -/
def momentData : Data := .fields [("", .null)]

def readScalar : Reader Data
  | 't' :: 'r' :: 'u' :: 'e' :: r => some (.bool true, r)
  | 'f' :: 'a' :: 'l' :: 's' :: 'e' :: r => some (.bool false, r)
  | cs =>
    match readText cs with
    | some (s, r) => some (.text (String.ofList s), r)
    | none =>
      match readMoment cs with
      | some (_, r) => some (momentData, r)
      | none =>
        match readFloat cs with
        | some (_, r) => some (.real, r)
        | none => (readInteger cs).map fun (n, r) => (.int n, r)

/-- A value in which arrays and inline tables are nested at most `levels` deep. -/
def readValue : (levels : Nat) → Reader Data
  | 0, cs => readScalar cs
  | levels + 1, '[' :: r => readArrayTail (readValue levels) r
  | levels + 1, '\x7b' :: r => readInlineTail (readValue levels) r
  | _ + 1, cs => readScalar cs

end SocketBridge.Toml
