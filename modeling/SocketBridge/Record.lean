import SocketBridge.Address

/-!
# Address records

A record is the family code, the name (empty for none), the raw bytes, the port and, for IPv6
only, the bits of the zone. How integers, texts and blocks are laid out is left to the
primitives; `SocketBridge.Record.Layout` has one layout.
-/

namespace SocketBridge

/-- Why a record cannot be written or read. -/
inductive RecordError
  | unsupportedFamily (code : Int32)
  | truncated (needed remaining : Nat)
  | invalidUtf8
  | negativeLength (length : Int32)
  | oversized (bytes : Nat)
  | rawLength (family : Family) (expected actual : Nat)
  | portOutOfRange (port : Int32)
  | address (error : AddressError)
deriving DecidableEq

def RecordError.message : RecordError → String
  | unsupportedFamily code => s!"unsupported address family: {code.toInt}"
  | truncated needed remaining =>
    s!"record truncated: needed {needed} more bytes, {remaining} left"
  | invalidUtf8 => "record string is not valid UTF-8"
  | negativeLength n => s!"negative length prefix: {n.toInt}"
  | oversized bytes => s!"block of {bytes} bytes exceeds the length prefix range"
  | rawLength family expected actual =>
    s!"{family.name} record carries {actual} address bytes, expected {expected}"
  | portOutOfRange port => s!"port out of range: {port.toInt}"
  | address error => error.message

/-- Where records are written: each primitive may fail and leave something behind. -/
structure RecordWriter (σ : Type) where
  putInt : Int32 → EStateM RecordError σ Unit
  putText : String → EStateM RecordError σ Unit
  putBlock : List UInt8 → EStateM RecordError σ Unit

/-- Where records are read from. -/
structure RecordReader (σ : Type) where
  getInt : EStateM RecordError σ Int32
  getText : EStateM RecordError σ String
  getBlock : EStateM RecordError σ (List UInt8)

namespace Address

/-- Writes one record; the first failure ends it. -/
def write {σ : Type} (w : RecordWriter σ) (a : Address) : EStateM RecordError σ Unit := do
  w.putInt a.family.code
  w.putText (a.hostname.getD "")
  w.putBlock a.octets
  w.putInt (Int32.ofNat a.port.toNat)
  if a.family = .inet6 then w.putInt (a.scope.getD 0).toInt32

/-- The family of a record, by its code: the two that have raw addresses. -/
def storedFamily? (code : Int32) : Option (Family × Nat) :=
  match Enumeration.ofCode Family code with
  | .ok family => family.layout?.map fun l => (family, l.octets)
  | .error _ => none

def port? (n : Int32) : Option UInt16 :=
  if 0 ≤ n ∧ n ≤ 65535 then some (UInt16.ofNat n.toInt.toNat) else none

end Address

/-- Reads one record and makes of it what its fields say; the name is attached last. The first
failed read or rejected field ends it. -/
def AddressMaker.read {α σ : Type} (make : AddressMaker α) (attach : α → String → α)
    (r : RecordReader σ) : EStateM RecordError σ α := do
  let code ← r.getInt
  let some (family, expected) := Address.storedFamily? code | throw (.unsupportedFamily code)
  let hostname ← r.getText
  let raw ← r.getBlock
  if raw.length ≠ expected then throw (.rawLength family expected raw.length)
  let n ← r.getInt
  let some port := Address.port? n | throw (.portOutOfRange n)
  let scope ← if family = .inet6 then some <$> r.getInt else pure none
  match make family raw port (scope.map Int32.toUInt32) with
  | .ok a => return attach a hostname
  | .error e => throw (.address e)

def Address.read {σ : Type} : RecordReader σ → EStateM RecordError σ Address :=
  AddressMaker.read ofOctets withHostname

end SocketBridge
