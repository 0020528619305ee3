import SocketBridge.Bridge.World

/-!
# Operations on a bridge

What a program may ask for. All of it returns at once; what comes of it is told by records. An
operation on a handle that the program does not hold does nothing.
-/

namespace SocketBridge.World

variable {α : Type}

/-- Adds a bridge unless its settings break a rule. -/
def addBridge (w : World α) (c : IoConfig) : Except ChannelError (World α × Nat) :=
  match c.violations with
  | [] => .ok ({ w with buffers := w.buffers ++ [c.readBufferSize.toNat] }, w.buffers.length)
  | vs => .error (.invalidConfig vs)

/-- Binds and listens. The host gives the listener its address or fails one of the calls. -/
def listen (w : World α) (bridge : Nat) (address : SocketAddr) (backlog : UInt32)
    (answer : Except (ListenCall × OsError) SocketAddr) : Except ChannelError (World α × Nat) :=
  if backlog = 0 then .error (.backlog address)
  else match answer with
    | .error (call, e) => .error (.ofListenCall address call e)
    | .ok near =>
      let (w, guard) := w.track bridge
      let bound : Listener := { guard, near, held := 1 }
      .ok ({ w with listeners := w.listeners ++ [bound] }, w.listeners.length)

/-- Starts a connect. -/
def connect (w : World α) (bridge : Nat) (c : Connect) : World α × Nat :=
  let connect := w.connects.length
  let slot : ConnectSlot := { bridge, running := some c }
  ({ w with connects := w.connects ++ [slot] }.spawn (.connect connect), connect)

def cancelConnect (w : World α) (connect : Nat) : World α :=
  w.modifyConnect connect fun c => { c with cancelled := true }

/-- Starts an accept loop; its first record is there at once, and is all there will be if the
listener is cancelled. That record is not counted. -/
def accept (w : World α) (listener : Nat) (task : Task) : World α :=
  match w.listeners[listener]? with
  | none => w
  | some l =>
    if l.held = 0 then w
    else
      let w := w.emit task.queue
        (.accept { schedulee := task.schedulee, listener := some listener })
      if l.cancelled then w
      else (w.modifyListener listener fun l => { l with loops := l.loops ++ [some task] }).spawn
        (.accept listener l.loops.length)

def cancelListener (w : World α) (listener : Nat) : World α :=
  w.modifyListener listener fun l => if l.held = 0 then l else { l with cancelled := true }

/-- Starts a read, of which a socket has only one. -/
def read (w : World α) (socket : Nat) (decoder : Decoder α) (task : Task) :
    World α × Except ChannelError Unit :=
  match w.sockets[socket]? with
  | none => (w, .error .closed)
  | some s =>
    if s.held = 0 ∨ s.cancelled then (w, .error .closed)
    else if !s.readable then (w, .error .alreadyReading)
    else
      let r : ReadLoop α := .start task decoder (w.buffers.getD s.guard.tracker 0)
      ((w.modifySocket socket fun s =>
        { s with readable := false, reading := some r }).spawn (.read socket), .ok ())

/-- Puts a write in line. Once the line is closed a write is dropped, and recorded as a failure only
if the socket was not cancelled. -/
def write (w : World α) (socket : Nat) (data : List UInt8) (task : Task) : World α :=
  match w.sockets[socket]? with
  | none => w
  | some s =>
    if s.held = 0 then w
    else if s.writer.running then
      w.modifySocket socket fun s => { s with writer := s.writer.push (.write data task) }
    else if s.cancelled then w
    else (w.mark [.completion .write false]).emit task.queue
      (.write { schedulee := task.schedulee, error := some ChannelError.closed.message })

/-- Puts a half-close in line. -/
def shutdownWrite (w : World α) (socket : Nat) : World α × Except ChannelError Unit :=
  match w.sockets[socket]? with
  | none => (w, .error .closed)
  | some s =>
    if s.held = 0 ∨ !s.writer.running then (w, .error .closed)
    else (w.modifySocket socket fun s => { s with writer := s.writer.push .shutdown }, .ok ())

def cancelSocket (w : World α) (socket : Nat) : World α :=
  w.modifySocket socket fun s => if s.held = 0 then s else s.cancel

def cloneSocket (w : World α) (socket : Nat) : World α :=
  w.modifySocket socket fun s => if s.held = 0 then s else { s with held := s.held + 1 }

def cloneListener (w : World α) (listener : Nat) : World α :=
  w.modifyListener listener fun l => if l.held = 0 then l else { l with held := l.held + 1 }

/-- Gives up one handle; with the last one the socket is no longer counted. -/
def dropSocket (w : World α) (socket : Nat) : World α :=
  match w.sockets[socket]? with
  | none => w
  | some s =>
    if s.held = 0 then w
    else
      let w := w.modifySocket socket fun s => { s with held := s.held - 1 }
      if w.socketHandles socket = 0 then w.release s.guard else w

def dropListener (w : World α) (listener : Nat) : World α :=
  match w.listeners[listener]? with
  | none => w
  | some l =>
    if l.held = 0 then w
    else
      let w := w.modifyListener listener fun l => { l with held := l.held - 1 }
      if w.listenerHandles listener = 0 then w.release l.guard else w

/-- Takes the oldest record of a queue; the program now holds the handles in it. -/
def take (w : World α) (queue : Nat) : World α × Option (Completion α) :=
  match w.queues.pop? queue with
  | (none, _) => (w, none)
  | (some c, queues) =>
    let w := { w with queues }
    let w := match c.connection with
      | some socket => w.modifySocket socket fun s => { s with held := s.held + 1 }
      | none => w
    let w := match c.listener with
      | some listener => w.modifyListener listener fun l => { l with held := l.held + 1 }
      | none => w
    (w, some c)

/-- Gives up the handles in a record that was taken. -/
def discard (w : World α) (c : Completion α) : World α :=
  let w := c.connection.elim w w.dropSocket
  c.listener.elim w w.dropListener

/-- Takes up to so many records of a queue, gives up what is in them and tells them. -/
def drain (w : World α) (queue : Nat) : Nat → World α × List (Completion α)
  | 0 => (w, [])
  | n + 1 =>
    match w.take queue with
    | (_, none) => (w, [])
    | (w, some c) =>
      let (w, rest) := drain (w.discard c) queue n
      (w, c :: rest)

end SocketBridge.World
