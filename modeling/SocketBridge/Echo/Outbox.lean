/-!
# Outbox

What waits to be echoed on one connection. At most one write is out. The part of a write that was
not taken goes back to the front, so the next write resumes there.
-/

namespace SocketBridge

structure Outbox where
  inFlight : Option (List UInt8) := none
  backlog : List (List UInt8) := []
deriving DecidableEq

namespace Outbox

/-- What to write now, unless a write is out. -/
def next (o : Outbox) : Option (List UInt8) × Outbox :=
  match o.inFlight, o.backlog with
  | none, data :: rest => (some data, ⟨some data, rest⟩)
  | _, _ => (none, o)

/-- Queues data, of which there may be none. -/
def push (o : Outbox) (data : List UInt8) : Option (List UInt8) × Outbox :=
  next (if data.isEmpty then o else { o with backlog := o.backlog ++ [data] })

/-- Accounts for a write of which so many bytes were taken. -/
def complete (o : Outbox) (written : Nat) : Option (List UInt8) × Outbox :=
  next (match o.inFlight with
    | some data =>
      ⟨none, if written < data.length then data.drop written :: o.backlog else o.backlog⟩
    | none => o)

def drained (o : Outbox) : Bool := o.inFlight.isNone && o.backlog.isEmpty

end Outbox

end SocketBridge
