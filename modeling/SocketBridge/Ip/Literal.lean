import SocketBridge.Ip
import SocketBridge.Text.Digits

/-!
# IP literals

Dotted-quad and colon-hex texts, read and written. Reading takes a literal at the front of a text
and leaves the rest. Writing compresses the first longest run of at least two zero groups and keeps
the dotted form of an IPv4-mapped address.
-/

namespace SocketBridge.Ip

open Text

/-- A decimal byte: one to three digits, no zero in front of others. -/
def octetForm : NumberForm :=
  { base := 10, maxDigits := some 3, leadingZeros := false, bound := 256 }

/-- A hexadecimal group: one to four digits. -/
def groupForm : NumberForm := { base := 16, maxDigits := some 4, bound := 65536 }

def portForm : NumberForm := { base := 10, bound := 65536 }

def scopeForm : NumberForm := { base := 10, bound := 4294967296 }

/-- Passes over one given character. -/
def expect (c : Char) : List Char → Option (List Char)
  | [] => none
  | d :: r => if d = c then some r else none

def readOctet (cs : List Char) : Option (UInt8 × List Char) :=
  (octetForm.read? cs).map fun (n, r) => (UInt8.ofNat n, r)

/-- Four decimal bytes with points between them. -/
def readV4 (cs : List Char) : Option (Octets 4 × List Char) := do
  let (a, r) ← readOctet cs
  let (b, r) ← (expect '.' r).bind readOctet
  let (c, r) ← (expect '.' r).bind readOctet
  let (d, r) ← (expect '.' r).bind readOctet
  return (⟨[a, b, c, d], rfl⟩, r)

/-- Groups of an IPv6 literal, whether the last two came from a dotted quad, and the rest. -/
structure Groups where
  groups : List UInt16
  quad : Bool
  rest : List Char

/-- Reads at most `limit` groups with colons between them. A dotted quad takes two groups and is
the last; a colon with no group behind it is left. -/
def readGroups : (limit : Nat) → (first : Bool) → List Char → Groups
  | 0, _, cs => ⟨[], false, cs⟩
  | limit + 1, first, cs =>
    match if first then some cs else expect ':' cs with
    | none => ⟨[], false, cs⟩
    | some r =>
      match if 0 < limit then readV4 r else none with
      | some (o, r) =>
        ⟨(Bytes.groups 2 o.toList).map fun g => UInt16.ofNat (Bytes.toNat g), true, r⟩
      | none =>
        match groupForm.read? r with
        | none => ⟨[], false, cs⟩
        | some (g, r) =>
          let more := readGroups limit false r
          ⟨UInt16.ofNat g :: more.groups, more.quad, more.rest⟩

/-- Eight groups, or fewer with a double colon that stands for one zero group or more. -/
def readV6 (cs : List Char) : Option (Octets 16 × List Char) :=
  let head := readGroups 8 true cs
  if head.groups.length = 8 then (Octets.ofGroups? head.groups).map (·, head.rest)
  else if head.quad then none
  else do
    let r ← (expect ':' head.rest).bind (expect ':')
    let back := readGroups (7 - head.groups.length) true r
    let zeros := List.replicate (8 - head.groups.length - back.groups.length) 0
    let o ← Octets.ofGroups? (head.groups ++ zeros ++ back.groups)
    return (o, back.rest)

/-- What `read` finds when it takes the whole text. -/
def whole {α : Type} (read : List Char → Option (α × List Char)) (cs : List Char) : Option α :=
  match read cs with
  | some (a, []) => some a
  | _ => none

def ofV4Literal? (cs : List Char) : Option (Octets 4) := whole readV4 cs

def ofV6Literal? (cs : List Char) : Option (Octets 16) := whole readV6 cs

/-- Either version. -/
def ofLiteral? (cs : List Char) : Option Ip :=
  ((ofV4Literal? cs).map v4).orElse fun _ => (ofV6Literal? cs).map v6

/-- Parts with a separator between them. -/
def joined (sep : Char) : List (List Char) → List Char
  | [] => []
  | [p] => p
  | p :: ps => p ++ sep :: joined sep ps

def v4Text (o : Octets 4) : List Char := joined '.' (o.toList.map fun b => decimal b.toNat)

/-- A run of groups: where it starts and how many it has. -/
structure Run where
  start : Nat
  length : Nat
deriving DecidableEq

/-- The first longest run of zero groups, as groups are passed one by one: `current` is the run
that ends here, `best` the best so far. -/
def longestZeros : (index : Nat) → (current best : Run) → List UInt16 → Run
  | _, _, best, [] => best
  | i, current, best, g :: gs =>
    if g = 0 then
      let current := if current.length = 0 then ⟨i, 1⟩ else ⟨current.start, current.length + 1⟩
      longestZeros (i + 1) current (if best.length < current.length then current else best) gs
    else longestZeros (i + 1) ⟨0, 0⟩ best gs

def groupsText (gs : List UInt16) : List Char := joined ':' (gs.map fun g => hexadecimal g.toNat)

/-- The IPv4 address that an IPv6 address is the mapped form of. -/
def mapped? (o : Octets 16) : Option (Octets 4) :=
  if h : o.toList.take 12 = List.replicate 10 0 ++ [0xFF, 0xFF] then
    some ⟨o.toList.drop 12, by simp [o.length_toList]⟩
  else none

def v6Text (o : Octets 16) : List Char :=
  match mapped? o with
  | some quad => "::ffff:".toList ++ v4Text quad
  | none =>
    let gs := o.groups
    let zeros := longestZeros 0 ⟨0, 0⟩ ⟨0, 0⟩ gs
    if 1 < zeros.length then
      groupsText (gs.take zeros.start) ++ "::".toList ++
        groupsText (gs.drop (zeros.start + zeros.length))
    else groupsText gs

/-- The canonical literal. -/
def text : Ip → List Char
  | v4 o => v4Text o
  | v6 o => v6Text o

end SocketBridge.Ip
