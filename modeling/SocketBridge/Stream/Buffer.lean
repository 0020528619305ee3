/-!
# Read buffers

A buffer of fixed size whose first cells are filled. The host writes behind them, at most as many
bytes as there is room for; when the first bytes are used up, the others are moved to the front in
place. Only the cells that were ever written are kept: the others hold zero and are never shown.
-/

namespace SocketBridge

/-- Writes bytes over the cells from a place on. -/
def overwrite (cells : List UInt8) (place : Nat) (bytes : List UInt8) : List UInt8 :=
  cells.take place ++ bytes ++ cells.drop (place + bytes.length)

theorem length_overwrite {cells : List UInt8} {place : Nat} (bytes : List UInt8)
    (inside : place ≤ cells.length) :
    (overwrite cells place bytes).length = max cells.length (place + bytes.length) := by
  simp only [overwrite, List.length_append, List.length_take, List.length_drop]
  omega

structure ReadBuffer where
  size : Nat
  cells : List UInt8
  filled : Nat
  filled_le : filled ≤ cells.length
  cells_le : cells.length ≤ size

namespace ReadBuffer

def empty (size : Nat) : ReadBuffer := ⟨size, [], 0, Nat.le_refl 0, Nat.zero_le size⟩

/-- The bytes in the filled cells. -/
def held (b : ReadBuffer) : List UInt8 := b.cells.take b.filled

/-- The room that the host is offered. -/
def free (b : ReadBuffer) : Nat := b.size - b.filled

/-- Puts bytes behind the filled cells, as many as there is room for. -/
def put (b : ReadBuffer) (bytes : List UInt8) : ReadBuffer where
  size := b.size
  cells := overwrite b.cells b.filled (bytes.take b.free)
  filled := b.filled + (bytes.take b.free).length
  filled_le := by
    rw [length_overwrite _ b.filled_le]
    omega
  cells_le := by
    have fits := b.cells_le
    have inside := b.filled_le
    rw [length_overwrite _ b.filled_le, List.length_take, free]
    omega

/-- Gives up the first bytes and moves the others to the front. -/
def consume (b : ReadBuffer) (n : Nat) : ReadBuffer where
  size := b.size
  cells := overwrite b.cells 0 (b.held.drop n)
  filled := b.filled - n
  filled_le := by
    have inside := b.filled_le
    rw [length_overwrite _ (Nat.zero_le _), held, List.length_drop, List.length_take]
    omega
  cells_le := by
    have fits := b.cells_le
    rw [length_overwrite _ (Nat.zero_le _), held, List.length_drop, List.length_take]
    omega

end ReadBuffer

end SocketBridge
