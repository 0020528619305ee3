import SocketBridge.Cancel
import SocketBridge.Host
import SocketBridge.Queue

/-!
# Connects

A connect looks a host up, unless it was given an address, and tries the addresses one after another
up to the first that answers.
-/

namespace SocketBridge

/-- Said when a name has no address. -/
def unresolvedHost : String := "failed to resolve host name"

inductive ConnectStage
  | lookup (host : String) (port : UInt16)
  | attempts (left : List SocketAddr) (lastError : String)
deriving DecidableEq

/-- A connect that runs, with the addresses whose attempts have ended. -/
structure Connect where
  task : Task
  stage : ConnectStage
  tried : List SocketAddr := []
deriving DecidableEq

/-- What the host answers. A stream whose ends cannot be told is a failure after the attempt. -/
inductive ConnectAnswer
  | found (addresses : Except LookupFailure (List SocketAddr))
  | attempted (poll : Poll (Except String Link) String)

def ConnectAnswer.cancels : ConnectAnswer → Bool
  | found _ => false
  | attempted poll => poll.cancels

/-- What comes of one turn: the connect that goes on, or its result; neither if it was cancelled. -/
structure ConnectTurn where
  next : Option Connect := none
  result : Option (Except String Link) := none

namespace Connect

def toAddress (task : Task) (address : SocketAddr) : Connect :=
  ⟨task, .attempts [address] unresolvedHost, []⟩

/-- A host that is an address needs no lookup. -/
def toHost (task : Task) (host : String) (port : UInt16) : Connect :=
  match Ip.ofLiteral? host.toList with
  | some ip => toAddress task (.ofIp ip port)
  | none => ⟨task, .lookup host port, []⟩

def fail (text : String) : ConnectTurn := { result := some (.error text) }

/-- One turn, given whether the connect is cancelled and what the host answers. -/
def turn (c : Connect) (cancelled : Bool) (answer : ConnectAnswer) : ConnectTurn :=
  if cancelled then {}
  else match c.stage, answer with
    | .lookup _ port, .found (.ok (a :: as)) =>
      let stage := .attempts ((a :: as).map (·.withPort port)) unresolvedHost
      { next := some { c with stage } }
    | .lookup .., .found _ => fail unresolvedHost
    | .attempts [] text, _ => fail text
    | .attempts (a :: left) _, .attempted poll =>
      let tried := c.tried ++ [a]
      match race cancelled poll with
      | none => { next := some c }
      | some .cancelled => {}
      | some (.succeeded link) => { result := some link }
      | some (.failed text) =>
        if left.isEmpty then fail text
        else { next := some { c with stage := .attempts left text, tried } }
    | _, _ => { next := some c }

end Connect

end SocketBridge
