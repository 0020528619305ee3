import SocketBridge.Bridge.Step

/-!
# What a bridge waits for

Of everything that was started: what its next turn needs from the host, if it needs anything.
-/

namespace SocketBridge

inductive Want (α : Type)
  /-- There is nothing to do. -/
  | nothing
  /-- The next turn needs no answer. -/
  | turn (step : Step α)
  | lookup (host : String)
  | connect (address : SocketAddr)
  | client
  | receive (size : Nat)
  | send (data : List UInt8)
  | halfClose

namespace World

variable {α : Type}

def wantOfConnect (connect : Nat) (slot : ConnectSlot) : Want α :=
  match slot.running with
  | none => .nothing
  | some c =>
    if slot.cancelled then .turn (.pollConnect connect (.attempted {}))
    else match c.stage with
      | .lookup host _ => .lookup host
      | .attempts [] _ => .turn (.pollConnect connect (.attempted {}))
      | .attempts (a :: _) _ => .connect a

def wantOfLoop (listener loop : Nat) (l : Listener) : Want α :=
  match l.loops[loop]? with
  | some (some _) => if l.cancelled then .turn (.pollAccept listener loop {}) else .client
  | _ => .nothing

def wantOfRead (socket : Nat) (s : Socket α) : Want α :=
  match s.reading with
  | none => .nothing
  | some r => if s.cancelled then .turn (.pollRead socket {}) else .receive r.buffer.free

/-- A writer without commands ends with the last handle. -/
def wantOfWriter (socket : Nat) (handles : Nat) (s : Socket α) : Want α :=
  if !s.writer.running then .nothing
  else if s.cancelled then .turn (.pollWrite socket {})
  else match s.writer.commands with
    | [] => if handles = 0 then .turn (.pollWrite socket {}) else .nothing
    | .write data _ :: _ => .send data
    | .shutdown :: _ => .halfClose

def want (w : World α) : Spawned → Want α
  | .connect c => (w.connects[c]?).elim .nothing (wantOfConnect c)
  | .accept l i => (w.listeners[l]?).elim .nothing (wantOfLoop l i)
  | .read s => (w.sockets[s]?).elim .nothing (wantOfRead s)
  | .write s => (w.sockets[s]?).elim .nothing (wantOfWriter s (w.socketHandles s))

end World

end SocketBridge
