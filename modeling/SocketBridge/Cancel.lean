/-!
# Cancellation

A token is a flag that all its clones share; it is set once and never reset. Work is raced against a
token: the token is looked at before each poll of the work, so a cancelled race ends without polling
it, and a failure of work that found its token cancelled meanwhile is no failure.
-/

namespace SocketBridge

/-- How a race ended. -/
inductive Outcome (α ε : Type)
  | succeeded (value : α)
  | failed (error : ε)
  | cancelled
deriving DecidableEq

def Outcome.ofResult {α ε : Type} : Except ε α → Outcome α ε
  | .ok a => .succeeded a
  | .error e => .failed e

/-- What one poll of some work does: the token may be cancelled during it, and it may be ready. -/
structure Poll (α ε : Type) where
  cancels : Bool := false
  ready : Option (Except ε α) := none

/-- One poll of a race that finds its token cancelled or not; nothing while it is pending. -/
def race {α ε : Type} (cancelled : Bool) (poll : Poll α ε) : Option (Outcome α ε) :=
  if cancelled then some .cancelled
  else poll.ready.map fun
    | .ok a => .succeeded a
    | .error e => if poll.cancels then .cancelled else .failed e

/-- A race over any number of polls. The work is given by what each of its polls does. -/
structure Race (α ε : Type) where
  work : Nat → Poll α ε
  cancelled : Bool := false
  polls : Nat := 0
  outcome : Option (Outcome α ε) := none

/-- What may happen to a race from outside. -/
inductive RaceEvent
  | cancel
  | poll
deriving DecidableEq

namespace Race

variable {α ε : Type}

def step (r : Race α ε) : RaceEvent → Race α ε
  | .cancel => { r with cancelled := true }
  | .poll =>
    if r.outcome.isSome then r
    else if r.cancelled then { r with outcome := race true {} }
    else
      let poll := r.work r.polls
      { r with cancelled := poll.cancels, polls := r.polls + 1, outcome := race false poll }

def run (r : Race α ε) (events : List RaceEvent) : Race α ε := events.foldl step r

end Race

end SocketBridge
