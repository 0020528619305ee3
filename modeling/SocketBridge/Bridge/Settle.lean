import SocketBridge.Bridge.Want
import SocketBridge.Host.Network

/-!
# Settling

Runs a bridge on a host from which nothing arrives: what was started is polled in order until
nothing is left to do. Lookups take a while, so their answers come when all else is done.
-/

namespace SocketBridge.World

variable {α : Type}

/-- The next turn of something started, if the host has an answer for it now. -/
def nextTurn (n : Network) (lookups : Bool) (w : World α) (s : Spawned) : Option (Step α) :=
  match s, w.want s with
  | _, .turn step => some step
  | .connect c, .lookup host =>
    if lookups then some (.pollConnect c (.found (n.lookup host))) else none
  | .connect c, .connect a => some (.pollConnect c (.attempted (n.attempt a)))
  | .write socket, .send data => some (.pollWrite socket { ready := some (.ok data.length) })
  | .write socket, .halfClose => some (.pollWrite socket { ready := some (.ok 0) })
  | _, _ => none

/-- How many turns are surely enough until something started waits or ends. -/
def turnsLeft (n : Network) (w : World α) : Spawned → Nat
  | .connect c =>
    match (w.connects[c]?).bind ConnectSlot.running with
    | none => 0
    | some c => match c.stage with
      | .attempts left _ => left.length + 1
      | .lookup host _ => match n.lookup host with
        | .ok found => found.length + 2
        | .error _ => 1
  | .write s => ((w.sockets[s]?).map fun s => s.writer.commands.length + 1).getD 0
  | _ => 1

/-- Polls one thing until it waits or ends. -/
def pollOne (n : Network) (lookups : Bool) (s : Spawned) : (turns : Nat) → World α → World α
  | 0, w => w
  | turns + 1, w =>
    match w.nextTurn n lookups s with
    | none => w
    | some step => pollOne n lookups s turns (w.step step)

/-- Polls everything that was started, in order. -/
def pollAll (n : Network) (lookups : Bool) (w : World α) : World α :=
  w.spawned.foldl (fun w s => pollOne n lookups s (w.turnsLeft n s) w) w

def settle (n : Network) (w : World α) : World α := (w.pollAll n false).pollAll n true

/-- Settles if there is any time for it. -/
def settleWithin (n : Network) (time : Nat) (w : World α) : World α :=
  if time = 0 then w else w.settle n

end SocketBridge.World
