import SocketBridge.Bridge.Settle
import SocketBridge.Echo.Scheduler

/-!
# Echo daemon

The scheduler on a bridge, with one listener and one queue. The accept loop has token zero.
-/

namespace SocketBridge

/-- The token of the accept loop, which no connection has. -/
def acceptToken : Nat := 0

structure Daemon where
  world : World (List UInt8)
  listener : Nat
  scheduler : Scheduler := {}

namespace Daemon

/-- Does what the scheduler asks for. -/
def obey (w : World (List UInt8)) : EchoCommand → World (List UInt8)
  | .read socket token => (w.read socket .bytes { schedulee := token }).1
  | .write socket data token => w.write socket data { schedulee := token }
  | .shutdownWrite socket => (w.shutdownWrite socket).1
  | .cancel socket => w.cancelSocket socket
  | .drop socket => w.dropSocket socket
  | .dropListener listener => w.dropListener listener

/-- Whether a read starts on the connection in a record. -/
def starts (w : World (List UInt8)) (c : Completion (List UInt8)) : Bool :=
  match c.connection with
  | some socket => (w.read socket .bytes { schedulee := 0 }).2.isOk
  | none => false

/-- Handles a record, whose handles the scheduler holds from now on. -/
def handle (d : Daemon) (c : Completion (List UInt8)) : Daemon :=
  let (scheduler, commands) := d.scheduler.handle (starts d.world c) c
  { d with scheduler, world := commands.foldl obey d.world }

/-- Takes one record and handles it. -/
def next (d : Daemon) : Daemon × Option (Completion (List UInt8)) :=
  match d.world.take 0 with
  | (_, none) => (d, none)
  | (world, some c) => ({ d with world }.handle c, some c)

/-- Starts accepting on a bridge's listener. -/
def start (w : World (List UInt8)) (listener : Nat) : Daemon :=
  { world := w.accept listener { schedulee := acceptToken }, listener }

def closeAll (d : Daemon) : Daemon :=
  let (scheduler, commands) := d.scheduler.closeAll
  { d with scheduler, world := commands.foldl obey d.world }

/-- Stops accepting, closes all connections and gives up all records that wait. -/
def teardown (d : Daemon) : Daemon :=
  let world := (d.world.cancelListener d.listener).dropListener d.listener
  let d := { d with world }.closeAll
  { d with world := (d.world.drain 0 d.world.queues.waiting.length).1 }

/-- Handles records and lets the bridge run until all is quiet, for at most so many rounds; tells
the records in the order in which they were taken. -/
def quiesce (n : Network) : Nat → Daemon → Daemon × List (Completion (List UInt8))
  | 0, d => (d, [])
  | rounds + 1, d =>
    let d := { d with world := d.world.settle n }
    match d.next with
    | (d, none) => (d, [])
    | (d, some c) =>
      let (d, rest) := quiesce n rounds d
      (d, c :: rest)

end Daemon

end SocketBridge
