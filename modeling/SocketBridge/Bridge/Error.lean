import SocketBridge.Config.Rules
import SocketBridge.Host

/-!
# Setup errors

Failures told to the caller at once, rather than by a record.
-/

namespace SocketBridge

/-- The calls that open a listener, in their order: for a socket, for leave to use an address again,
to bind it, to listen, and for the address that came of it. -/
inductive ListenCall
  | socket | reuse | bind | listen | address
deriving DecidableEq

inductive ChannelError
  | bind (address : SocketAddr) (error : OsError)
  | backlog (address : SocketAddr)
  | listen (address : SocketAddr) (error : OsError)
  | alreadyReading
  | closed
  | noPeer
  | invalidConfig (violations : List Violation)
  | noRuntime
  | io (error : OsError)
deriving DecidableEq

namespace ChannelError

def message : ChannelError → String
  | bind address e => s!"failed to bind {String.ofList address.text}: {e.message}"
  | backlog address =>
    s!"failed to listen on {String.ofList address.text}: backlog must be positive"
  | listen address e => s!"failed to listen on {String.ofList address.text}: {e.message}"
  | alreadyReading => "a streaming read is already active on this socket"
  | closed => "socket is closed"
  | noPeer => "listening sockets have no peer address"
  | invalidConfig violations =>
    "invalid I/O configuration: " ++ String.intercalate "; " (violations.map Violation.text)
  | noRuntime => "failed to start I/O runtime: there is none around the caller"
  | io e => e.message

/-- How a call that fails while a listener is opened is told. -/
def ofListenCall (address : SocketAddr) : ListenCall → OsError → ChannelError
  | .bind, e => bind address e
  | .listen, e => listen address e
  | .socket, e | .reuse, e | .address, e => io e

end ChannelError

end SocketBridge
