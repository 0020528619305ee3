import SocketBridge.Ip.Literal

/-!
# IPv4 addresses in short

One to four numbers with points between them, each decimal, octal behind a zero, or hexadecimal
behind a zero and an x. All but the last are one byte; the last fills the bytes that are left.
-/

namespace SocketBridge.Ip

open Text

/-- A number of at most four bytes in some base. -/
def wordForm (base : Nat) : NumberForm := { base, bound := 4294967296 }

/-- Takes a number whose first characters tell its base. -/
def readWord : List Char → Option (Nat × List Char)
  | '0' :: 'x' :: r | '0' :: 'X' :: r => (wordForm 16).read? r
  | '0' :: r => (wordForm 8).read? ('0' :: r)
  | cs => (wordForm 10).read? cs

/-- The number that a short form for `room` bytes stands for. -/
def readShorthand : (room : Nat) → List Char → Option Nat
  | 0, _ => none
  | room + 1, cs => do
    let (n, r) ← readWord cs
    match r with
    | [] => if n < 256 ^ (room + 1) then some n else none
    | c :: r =>
      if c = '.' ∧ n < 256 then (readShorthand room r).map (n * 256 ^ room + ·) else none

/-- The address that a whole short form stands for. Every dotted quad is one, but a zero in front
makes its number octal. -/
def ofShorthand? (cs : List Char) : Option (Octets 4) :=
  (readShorthand 4 cs).map fun n => ⟨Bytes.ofNat 4 n, rfl⟩

end SocketBridge.Ip
