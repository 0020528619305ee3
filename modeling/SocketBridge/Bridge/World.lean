import SocketBridge.Accept
import SocketBridge.Bridge.Error
import SocketBridge.Completion
import SocketBridge.Connect
import SocketBridge.Handles

/-!
# Bridges

Everything that several bridges share or own: sockets, listeners, connects, queues, counts and
metrics. Objects are named by their numbers and never forgotten. A socket or listener is alive
while somebody holds a handle onto it or a waiting record does.
-/

namespace SocketBridge

structure Socket (α : Type) where
  guard : Guard
  link : Link
  /-- How many handles the program holds. -/
  held : Nat := 0
  cancelled : Bool := false
  /-- Whether the reading half was not given to a read yet. -/
  readable : Bool := true
  reading : Option (ReadLoop α) := none
  writer : Writer := {}

/-- A cancelled socket gives no read any more. -/
def Socket.cancel {α : Type} (s : Socket α) : Socket α :=
  { s with cancelled := true, readable := false }

structure Listener where
  guard : Guard
  near : SocketAddr
  held : Nat := 0
  cancelled : Bool := false
  /-- The accept loops that were started; a loop that has ended leaves nothing. -/
  loops : List (Option Task) := []

/-- A connect with the bridge it runs on; one that has ended leaves nothing. -/
structure ConnectSlot where
  bridge : Nat
  cancelled : Bool := false
  running : Option Connect

/-- What was started, in order: each entry is polled when it is ready. -/
inductive Spawned
  | connect (connect : Nat)
  | accept (listener loop : Nat)
  | read (socket : Nat)
  | write (socket : Nat)
deriving DecidableEq

structure World (α : Type) where
  /-- The read buffer size of each bridge. -/
  buffers : List Nat := []
  handles : Handles := {}
  metrics : Metrics := {}
  queues : Queues (Completion α) := {}
  sockets : List (Socket α) := []
  listeners : List Listener := []
  connects : List ConnectSlot := []
  spawned : List Spawned := []

namespace World

variable {α : Type}

/-- How many handles onto a socket there are. -/
def socketHandles (w : World α) (socket : Nat) : Nat :=
  ((w.sockets[socket]?).map Socket.held).getD 0 +
    w.queues.waiting.countP fun r => r.2.connection == some socket

/-- How many handles onto a listener there are. -/
def listenerHandles (w : World α) (listener : Nat) : Nat :=
  ((w.listeners[listener]?).map Listener.held).getD 0 +
    w.queues.waiting.countP fun r => r.2.listener == some listener

/-- How many sockets and listeners of a bridge are alive, by its count. -/
def activeHandles (w : World α) (bridge : Nat) : Nat := w.handles.active bridge

def modifySocket (w : World α) (socket : Nat) (f : Socket α → Socket α) : World α :=
  { w with sockets := w.sockets.modify socket f }

def modifyListener (w : World α) (listener : Nat) (f : Listener → Listener) : World α :=
  { w with listeners := w.listeners.modify listener f }

def modifyConnect (w : World α) (connect : Nat) (f : ConnectSlot → ConnectSlot) : World α :=
  { w with connects := w.connects.modify connect f }

def spawn (w : World α) (s : Spawned) : World α := { w with spawned := w.spawned ++ [s] }

/-- Counts a new handle and shows the count. -/
def track (w : World α) (tracker : Nat) : World α × Guard :=
  let (handles, guard) := w.handles.track tracker
  ({ w with handles, metrics := w.metrics.opened }, guard)

/-- Counts a handle no longer and shows the count. -/
def release (w : World α) (guard : Guard) : World α :=
  { w with handles := w.handles.release guard, metrics := w.metrics.closed }

/-- Counts what is marked at one place. -/
def mark (w : World α) (marks : List Mark) : World α :=
  { w with metrics := marks.foldl Metrics.mark w.metrics }

/-- Puts a record on a queue. -/
def emit (w : World α) (queue : Nat) (c : Completion α) : World α :=
  { w with queues := w.queues.push queue c }

/-- Adds a connected socket; the record that tells of it will hold its first handle. -/
def openSocket (w : World α) (bridge : Nat) (link : Link) : World α × Nat :=
  let (w, guard) := w.track bridge
  let socket := w.sockets.length
  let opened : Socket α := { guard, link }
  ({ w with sockets := w.sockets ++ [opened] }.spawn (.write socket), socket)

end World

end SocketBridge
