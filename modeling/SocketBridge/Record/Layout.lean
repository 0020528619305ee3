import SocketBridge.Record
import SocketBridge.Text.Utf8

/-!
# The byte layout of records

Integers take four bytes, least significant first. Texts (as UTF-8) and blocks have their length in
front of them as such an integer. Reading moves a cursor, which is what is left to read: a failed
integer leaves it, a length with no body behind it is passed over, and so is a body that is no text.
-/

namespace SocketBridge.Record

/-- The first length that does not fit a length in front of a block. -/
def maxLength : Nat := 2147483648

def putInt (n : Int32) : EStateM RecordError (List UInt8) Unit :=
  modify (· ++ Bytes.ofInt32 n)

def putBlock (bs : List UInt8) : EStateM RecordError (List UInt8) Unit := do
  if maxLength ≤ bs.length then throw (.oversized bs.length)
  putInt (Int32.ofNat bs.length)
  modify (· ++ bs)

def putText (s : String) : EStateM RecordError (List UInt8) Unit :=
  putBlock (Utf8.encode s.toList)

def writer : RecordWriter (List UInt8) := ⟨putInt, putText, putBlock⟩

/-- Reads values where bytes can be taken. -/
def readerOver {σ : Type} (take : Nat → EStateM RecordError σ (List UInt8)) : RecordReader σ :=
  let getInt := Bytes.toInt32 <$> take 4
  let getBlock := do
    let n ← getInt
    if n < 0 then throw (.negativeLength n)
    take n.toInt.toNat
  let getText := do
    match Utf8.decode? (← getBlock) with
    | some cs => return String.ofList cs
    | none => throw .invalidUtf8
  ⟨getInt, getText, getBlock⟩

/-- Takes `n` bytes, or none when there are fewer. -/
def take (n : Nat) : EStateM RecordError (List UInt8) (List UInt8) := do
  let bs ← get
  if bs.length < n then throw (.truncated n bs.length)
  set (bs.drop n)
  return bs.take n

def reader : RecordReader (List UInt8) := readerOver take

def getInt : EStateM RecordError (List UInt8) Int32 := reader.getInt

def getBlock : EStateM RecordError (List UInt8) (List UInt8) := reader.getBlock

def getText : EStateM RecordError (List UInt8) String := reader.getText

end SocketBridge.Record
