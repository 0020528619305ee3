import SocketBridge.Bridge.Operation

/-!
# Steps of a bridge

A run is a list of steps: operations of the program, and turns of what was started, each with what
the host answers. Steps may be interleaved in any way.
-/

namespace SocketBridge

namespace World

variable {α : Type}

/-- The record of a connect, which is counted by its error. -/
def tellConnect (w : World α) (task : Task) (record : ConnectRecord) : World α :=
  (w.mark [.completion .connect record.error.isNone]).emit task.queue (.connect record)

/-- One turn of a connect. -/
def pollConnect (w : World α) (connect : Nat) (answer : ConnectAnswer) : World α :=
  match w.connects[connect]? with
  | some { bridge, cancelled, running := some c } =>
    let turn := c.turn cancelled answer
    let w := w.modifyConnect connect fun slot =>
      { slot with running := turn.next, cancelled := slot.cancelled || answer.cancels }
    let schedulee := c.task.schedulee
    match turn.result with
    | none => w
    | some (.error text) => w.tellConnect c.task { schedulee, error := some text }
    | some (.ok link) =>
      let (w, socket) := w.openSocket bridge link
      w.tellConnect c.task { schedulee, connection := some socket }
  | _ => w

/-- One turn of an accept loop. -/
def pollAccept (w : World α) (listener loop : Nat) (answer : Poll (Except String Link) String) :
    World α :=
  match w.listeners[listener]? with
  | none => w
  | some l =>
    match l.loops[loop]? with
    | some (some task) =>
      let turn := acceptTurn l.cancelled answer
      let w := w.modifyListener listener fun l =>
        { l with cancelled := l.cancelled || answer.cancels
                 loops := if turn.continues then l.loops else l.loops.set loop none }
      let schedulee := task.schedulee
      match turn.result with
      | none => w
      | some (.error text) =>
        (w.mark [.completion .accept false]).emit task.queue
          (.accept { schedulee, error := some text })
      | some (.ok link) =>
        let (w, socket) := w.openSocket l.guard.tracker link
        (w.mark [.completion .accept true]).emit task.queue
          (.accept { schedulee, connection := some socket })
    | _ => w

/-- One turn of a read. -/
def pollRead (w : World α) (socket : Nat) (answer : Poll (List UInt8) String) : World α :=
  match w.sockets[socket]? with
  | some { cancelled, reading := some r, .. } =>
    let turn := r.turn cancelled answer
    let w := (w.modifySocket socket fun s =>
      let s := { s with reading := turn.next }
      if answer.cancels then s.cancel else s).mark turn.marks
    match turn.record with
    | none => w
    | some record => w.emit r.task.queue (.read record)
  | _ => w

/-- One turn of a writer. -/
def pollWrite (w : World α) (socket : Nat) (answer : Poll Nat String) : World α :=
  match w.sockets[socket]? with
  | none => w
  | some s =>
    if s.writer.running then
      let turn := s.writer.turn s.cancelled (w.socketHandles socket == 0) answer
      let w := (w.modifySocket socket fun s =>
        let s := { s with writer := turn.next }
        if answer.cancels then s.cancel else s).mark turn.marks
      match turn.record with
      | none => w
      | some (task, record) => w.emit task.queue (.write record)
    else w

end World

/-- What may happen next. -/
inductive Step (α : Type)
  | addBridge (config : IoConfig)
  | listen (bridge : Nat) (address : SocketAddr) (backlog : UInt32)
      (answer : Except (ListenCall × OsError) SocketAddr)
  | connect (bridge : Nat) (connect : Connect)
  | cancelConnect (connect : Nat)
  | accept (listener : Nat) (task : Task)
  | cancelListener (listener : Nat)
  | cloneListener (listener : Nat)
  | dropListener (listener : Nat)
  | read (socket : Nat) (decoder : Decoder α) (task : Task)
  | write (socket : Nat) (data : List UInt8) (task : Task)
  | shutdownWrite (socket : Nat)
  | cancelSocket (socket : Nat)
  | cloneSocket (socket : Nat)
  | dropSocket (socket : Nat)
  | take (queue : Nat)
  | pollConnect (connect : Nat) (answer : ConnectAnswer)
  | pollAccept (listener loop : Nat) (answer : Poll (Except String Link) String)
  | pollRead (socket : Nat) (answer : Poll (List UInt8) String)
  | pollWrite (socket : Nat) (answer : Poll Nat String)

namespace World

variable {α : Type}

/-- The world that a result leaves: the same one after an error. -/
def orSame {β : Type} (w : World α) : Except ChannelError (World α × β) → World α
  | .ok (w, _) => w
  | .error _ => w

def step (w : World α) : Step α → World α
  | .addBridge c => w.orSame (w.addBridge c)
  | .listen b a n answer => w.orSame (w.listen b a n answer)
  | .connect b c => (w.connect b c).1
  | .cancelConnect c => w.cancelConnect c
  | .accept l t => w.accept l t
  | .cancelListener l => w.cancelListener l
  | .cloneListener l => w.cloneListener l
  | .dropListener l => w.dropListener l
  | .read s d t => (w.read s d t).1
  | .write s data t => w.write s data t
  | .shutdownWrite s => (w.shutdownWrite s).1
  | .cancelSocket s => w.cancelSocket s
  | .cloneSocket s => w.cloneSocket s
  | .dropSocket s => w.dropSocket s
  | .take q => (w.take q).1
  | .pollConnect c answer => w.pollConnect c answer
  | .pollAccept l i answer => w.pollAccept l i answer
  | .pollRead s answer => w.pollRead s answer
  | .pollWrite s answer => w.pollWrite s answer

def run (w : World α) (steps : List (Step α)) : World α := steps.foldl step w

end World

end SocketBridge
