import SocketBridge.Record.Layout

/-!
# Cursors

The bytes of some records and how far they have been read. A cursor stands inside its bytes or at
their end, and what it cuts out lies inside them.
-/

namespace SocketBridge.Record

structure Cursor (bytes : List UInt8) where
  pos : Nat
  pos_le : pos ≤ bytes.length
deriving DecidableEq

namespace Cursor

variable {bytes : List UInt8}

def start : Cursor bytes := ⟨0, Nat.zero_le _⟩

def remaining (c : Cursor bytes) : Nat := bytes.length - c.pos

/-- The next `n` bytes, one by one. -/
def slice (c : Cursor bytes) (n : Nat) (enough : n ≤ c.remaining) : List UInt8 :=
  List.ofFn fun i : Fin n =>
    bytes.get ⟨c.pos + i, by have := i.isLt; have := c.pos_le; unfold remaining at enough; omega⟩

def skip (c : Cursor bytes) (n : Nat) (enough : n ≤ c.remaining) : Cursor bytes where
  pos := c.pos + n
  pos_le := by have := c.pos_le; unfold remaining at enough; omega

/-- Takes `n` bytes, or none when there are fewer. -/
def take (n : Nat) : EStateM RecordError (Cursor bytes) (List UInt8) := do
  let c ← get
  if short : c.remaining < n then
    throw (.truncated n c.remaining)
  else
    set (c.skip n (Nat.le_of_not_lt short))
    return c.slice n (Nat.le_of_not_lt short)

end Cursor

def Cursor.reader {bytes : List UInt8} : RecordReader (Cursor bytes) := readerOver Cursor.take

end SocketBridge.Record
