/-!
# Broadcast channels

One sender reaches every receiver that is there. A channel keeps only so many signals: a receiver
that was overrun is told how many it missed and goes on with the oldest one that is left. What was
sent before the sender went can still be taken.
-/

namespace SocketBridge

/-- What a receiver gets that does not wait. -/
inductive Reception
  | signal
  | lagged (missed : Nat)
  | empty
  | closed
deriving DecidableEq

structure Broadcast where
  capacity : Nat
  /-- How many signals were ever sent; they are numbered from zero. -/
  sent : Nat := 0
  receivers : Nat := 0
  closed : Bool := false
deriving DecidableEq

namespace Broadcast

/-- Adds a receiver, which is told where it starts: behind all that was sent. -/
def subscribe (b : Broadcast) : Broadcast × Nat := ({ b with receivers := b.receivers + 1 }, b.sent)

/-- Takes a receiver away. -/
def leave (b : Broadcast) : Broadcast := { b with receivers := b.receivers - 1 }

/-- Sends a signal and tells how many receivers there are; without one nothing is sent. -/
def send (b : Broadcast) : Broadcast × Option Nat :=
  if b.receivers = 0 then (b, none) else ({ b with sent := b.sent + 1 }, some b.receivers)

/-- The sender is gone. -/
def close (b : Broadcast) : Broadcast := { b with closed := true }

/-- The number of the oldest signal that is left. -/
def oldest (b : Broadcast) : Nat := b.sent - b.capacity

/-- What a receiver gets that has come to signal `next`, and where it is then. -/
def receive (b : Broadcast) (next : Nat) : Reception × Nat :=
  if next < b.oldest then (.lagged (b.oldest - next), b.oldest)
  else if next < b.sent then (.signal, next + 1)
  else (if b.closed then .closed else .empty, next)

end Broadcast

end SocketBridge
