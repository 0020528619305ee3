/-!
# Handles

Every bridge counts the handles that live on it, by a tracker named by a number; copies of a tracker
show the same count. Handles bear numbers that are never given twice.
-/

namespace SocketBridge

/-- A live handle. -/
structure Guard where
  tracker : Nat
  id : Nat
deriving DecidableEq

def Guard.text (g : Guard) : String := s!"sock-{g.id}"

structure Handles where
  active : Nat → Nat := fun _ => 0
  /-- How many numbers have been given. They are kept in 64 bits: a run opens fewer than 2^64
  handles. -/
  issued : Nat := 0

namespace Handles

/-- Counts a new handle. -/
def track (h : Handles) (tracker : Nat) : Handles × Guard :=
  ({ active t := if t = tracker then h.active t + 1 else h.active t, issued := h.issued + 1 },
    ⟨tracker, h.issued + 1⟩)

/-- Counts a handle no longer. -/
def release (h : Handles) (g : Guard) : Handles :=
  { h with active t := if t = g.tracker then h.active t - 1 else h.active t }

/-- Whether nothing is left to wait for. -/
def idle (h : Handles) (tracker : Nat) : Bool := h.active tracker == 0

end Handles

end SocketBridge
