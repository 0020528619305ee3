/-!
# Numbers as bytes

Big-endian and little-endian groups of bytes, and byte strings cut into groups of one length.
-/

namespace SocketBridge.Bytes

/-- The number that bytes stand for, most significant byte first. -/
def toNat (bs : List UInt8) : Nat := bs.foldl (fun n b => 256 * n + b.toNat) 0

/-- The last `width` base-256 digits of `n`, most significant first. -/
def ofNat : (width n : Nat) → List UInt8
  | 0, _ => []
  | width + 1, n => ofNat width (n / 256) ++ [UInt8.ofNat n]

/-- Cuts off groups of `width` bytes; a last group that is too short is left out. -/
def groups (width : Nat) (bs : List UInt8) : List (List UInt8) :=
  if 0 < width ∧ width ≤ bs.length then bs.take width :: groups width (bs.drop width) else []
termination_by bs.length
decreasing_by simp only [List.length_drop]; omega

/-- A 32-bit number, least significant byte first. -/
def ofInt32 (n : Int32) : List UInt8 := (ofNat 4 n.toUInt32.toNat).reverse

/-- The 32-bit number of four bytes, least significant first. -/
def toInt32 (bs : List UInt8) : Int32 := (UInt32.ofNat (toNat bs.reverse)).toInt32

end SocketBridge.Bytes
