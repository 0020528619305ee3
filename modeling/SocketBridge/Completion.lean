import SocketBridge.Metrics
import SocketBridge.Stream.Read
import SocketBridge.Stream.Write

/-!
# Completions

The records of a bridge. Each starts with the schedulee and a slot for an error; sockets and
listeners are named by their numbers in the bridge. A record that holds one keeps it alive.
-/

namespace SocketBridge

structure ConnectRecord where
  schedulee : Nat
  error : Option String := none
  connection : Option Nat := none
deriving DecidableEq

/-- The first record of an accept loop holds the listener, each later one a connection or an
error. -/
structure AcceptRecord where
  schedulee : Nat
  error : Option String := none
  listener : Option Nat := none
  connection : Option Nat := none
deriving DecidableEq

inductive Completion (α : Type)
  | connect (record : ConnectRecord)
  | accept (record : AcceptRecord)
  | write (record : WriteRecord)
  | read (record : ReadRecord α)
deriving DecidableEq

namespace Completion

variable {α : Type}

def schedulee : Completion α → Nat
  | connect r => r.schedulee
  | accept r => r.schedulee
  | write r => r.schedulee
  | read r => r.schedulee

def error : Completion α → Option String
  | connect r => r.error
  | accept r => r.error
  | write r => r.error
  | read r => r.error

def connection : Completion α → Option Nat
  | connect r => r.connection
  | accept r => r.connection
  | _ => none

def listener : Completion α → Option Nat
  | accept r => r.listener
  | _ => none

end Completion

end SocketBridge
