import SocketBridge.Completion
import SocketBridge.Echo.Outbox

/-!
# Echo scheduler

Writes back what every connection sends. Connections are named by tokens, which are given once and
in order; what comes for a token that is not open is ignored. What the scheduler wants done it
says in commands.
-/

namespace SocketBridge

/-- What is asked of a socket or listener, by number. -/
inductive EchoCommand
  | read (socket token : Nat)
  | write (socket : Nat) (data : List UInt8) (token : Nat)
  | shutdownWrite (socket : Nat)
  | cancel (socket : Nat)
  /-- Gives up the scheduler's handle. -/
  | drop (socket : Nat)
  | dropListener (listener : Nat)
deriving DecidableEq

structure EchoConnection where
  socket : Nat
  outbox : Outbox := {}
  /-- Whether the client has sent all it will. -/
  finished : Bool := false
deriving DecidableEq

/-- A connection that has nothing left to do. -/
def EchoConnection.done (c : EchoConnection) : Bool := c.finished && c.outbox.drained

structure Scheduler where
  /-- The token that was given last. Tokens are kept in 64 bits: a run accepts fewer than 2^64
  clients. -/
  lastToken : Nat := 0
  connections : List (Nat × EchoConnection) := []
deriving DecidableEq

namespace Scheduler

def find? (s : Scheduler) (token : Nat) : Option EchoConnection := s.connections.lookup token

def put (s : Scheduler) (token : Nat) (c : EchoConnection) : Scheduler :=
  { s with connections := s.connections.map fun e => if e.1 == token then (token, c) else e }

def remove (s : Scheduler) (token : Nat) : Scheduler :=
  { s with connections := s.connections.filter (·.1 != token) }

/-- Closes a connection at once. -/
def abandon (s : Scheduler) (token : Nat) (c : EchoConnection) : Scheduler × List EchoCommand :=
  (s.remove token, [.cancel c.socket, .drop c.socket])

/-- Half-closes a connection whose client is done and has all its bytes back. -/
def keep (s : Scheduler) (token : Nat) (c : EchoConnection) : Scheduler × List EchoCommand :=
  if c.done then (s.remove token, [.shutdownWrite c.socket, .drop c.socket])
  else (s.put token c, [])

/-- The write that an outbox asks for. -/
def writeCommand (c : EchoConnection) (token : Nat) (data : Option (List UInt8)) :
    List EchoCommand :=
  data.toList.map fun data => .write c.socket data token

/-- A client has connected; `starts` says whether a read starts on its socket. -/
def onConnection (s : Scheduler) (starts : Bool) (socket : Nat) : Scheduler × List EchoCommand :=
  let token := s.lastToken + 1
  if starts then
    (⟨token, s.connections ++ [(token, { socket := socket })]⟩, [.read socket token])
  else ({ s with lastToken := token }, [.read socket token, .drop socket])

def onAccept (s : Scheduler) (starts : Bool) (r : AcceptRecord) : Scheduler × List EchoCommand :=
  match r.connection with
  | some socket => s.onConnection starts socket
  | none => (s, r.listener.toList.map .dropListener)

def onRead (s : Scheduler) (r : ReadRecord (List UInt8)) : Scheduler × List EchoCommand :=
  let token := r.schedulee
  match s.find? token with
  | none => (s, [])
  | some c =>
    match r.error, r.payload with
    | some _, _ => s.abandon token c
    | none, some payload =>
      let (data, outbox) := c.outbox.push payload
      (s.put token { c with outbox }, writeCommand c token data)
    | none, none => s.keep token { c with finished := true }

def onWrite (s : Scheduler) (r : WriteRecord) : Scheduler × List EchoCommand :=
  let token := r.schedulee
  match s.find? token with
  | none => (s, [])
  | some c =>
    if r.error.isSome then s.abandon token c
    else
      let (data, outbox) := c.outbox.complete r.bytesWritten
      let (s, commands) := s.keep token { c with outbox }
      (s, writeCommand c token data ++ commands)

/-- Handles one record; `starts` says whether a read would start on a connection in it. -/
def handle (s : Scheduler) (starts : Bool) : Completion (List UInt8) → Scheduler × List EchoCommand
  | .accept r => s.onAccept starts r
  | .read r => s.onRead r
  | .write r => s.onWrite r
  | .connect _ => (s, [])

/-- Closes every connection. -/
def closeAll (s : Scheduler) : Scheduler × List EchoCommand :=
  ({ s with connections := [] },
    s.connections.flatMap fun e => [.cancel e.2.socket, .drop e.2.socket])

end Scheduler

end SocketBridge
