import SocketBridge.Cancel
import SocketBridge.Host

/-!
# Networks

What becomes of calls on the host's network, where nothing arrives from outside.
-/

namespace SocketBridge

/-- A host that allows or refuses to bind and to connect. A bound address has its port. -/
structure Network where
  bind : SocketAddr → Except OsError SocketAddr
  connect : SocketAddr → Except OsError Link
  lookup : String → Except LookupFailure (List SocketAddr)

/-- The answer to an attempt to connect. -/
def Network.attempt (n : Network) (address : SocketAddr) : Poll (Except String Link) String :=
  { ready := some (match n.connect address with
      | .ok link => .ok (.ok link)
      | .error e => .error e.message) }

end SocketBridge
