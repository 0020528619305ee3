import SocketBridge.Stream.Buffer

/-!
# Laws of a read buffer

A buffer is a queue of its held bytes: what is put comes behind them, what is consumed goes from the
front, whatever the cells behind the filled ones hold.
-/

namespace SocketBridge.ReadBuffer

theorem filled_le_size (b : ReadBuffer) : b.filled ≤ b.size :=
  Nat.le_trans b.filled_le b.cells_le

@[simp] theorem length_held (b : ReadBuffer) : b.held.length = b.filled := by
  rw [held, List.length_take, Nat.min_eq_left b.filled_le]

@[simp] theorem size_put (b : ReadBuffer) (bytes : List UInt8) : (b.put bytes).size = b.size := rfl

@[simp] theorem size_consume (b : ReadBuffer) (n : Nat) : (b.consume n).size = b.size := rfl

@[simp] theorem filled_consume (b : ReadBuffer) (n : Nat) :
    (b.consume n).filled = b.filled - n := rfl

/-- What lay behind the filled cells is written over, as far as the new bytes go. -/
theorem held_put (b : ReadBuffer) (bytes : List UInt8) :
    (b.put bytes).held = b.held ++ bytes.take b.free := by
  have front : (b.cells.take b.filled).length = b.filled := by
    rw [List.length_take, Nat.min_eq_left b.filled_le]
  have whole : (b.cells.take b.filled ++ bytes.take b.free).length
      = b.filled + (bytes.take b.free).length := by
    rw [List.length_append, front]
  exact List.take_left' whole

/-- The move to the front keeps the bytes that were not consumed, in order. -/
theorem held_consume (b : ReadBuffer) (n : Nat) : (b.consume n).held = b.held.drop n := by
  have rest : (b.held.drop n).length = b.filled - n := by
    rw [List.length_drop, length_held]
  exact List.take_left' rest

theorem put_fits {b : ReadBuffer} {bytes : List UInt8} (fits : bytes.length ≤ b.free) :
    (b.put bytes).held = b.held ++ bytes ∧ (b.put bytes).filled = b.filled + bytes.length := by
  have whole : bytes.take b.free = bytes := List.take_of_length_le fits
  refine ⟨by rw [held_put, whole], ?_⟩
  rw [← length_held, held_put, whole, List.length_append, length_held]

end SocketBridge.ReadBuffer
