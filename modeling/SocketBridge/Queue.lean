/-!
# Queues and tasks

Completed operations leave records on queues. A queue is named by a number, so copies of a handle
show the same records. All records ever pushed are kept, beside those not taken yet.
-/

namespace SocketBridge

/-- All queues at once: every record is kept with the number of its queue, oldest first. -/
structure Queues (α : Type) where
  pushed : List (Nat × α) := []
  waiting : List (Nat × α) := []

namespace Queues

variable {α : Type}

def push (q : Queues α) (queue : Nat) (a : α) : Queues α :=
  ⟨q.pushed ++ [(queue, a)], q.waiting ++ [(queue, a)]⟩

/-- The records of one queue that wait. -/
def contents (q : Queues α) (queue : Nat) : List α :=
  (q.waiting.filter (·.1 == queue)).map Prod.snd

def length (q : Queues α) (queue : Nat) : Nat := (q.contents queue).length

/-- Takes the oldest record of a queue. -/
def pop? (q : Queues α) (queue : Nat) : Option α × Queues α :=
  ((q.contents queue).head?, { q with waiting := q.waiting.eraseP (·.1 == queue) })

end Queues

/-- A queue as text. -/
def queueText (length : Nat) : String :=
  "ResultQueue \x7b len: " ++ toString length ++ " \x7d"

/-- One outstanding operation: whom to resume, where its records go, and the number that its next
numbered record will bear. -/
structure Task where
  schedulee : Nat
  queue : Nat := 0
  /-- It is kept in 64 bits: a read has fewer than 2^64 records. -/
  sequence : Nat := 0
deriving DecidableEq

namespace Task

def scheduleeText (t : Task) : String := s!"sched-{t.schedulee}"

/-- Uses up a sequence number. -/
def advance (t : Task) : Task := { t with sequence := t.sequence + 1 }

end Task

end SocketBridge
