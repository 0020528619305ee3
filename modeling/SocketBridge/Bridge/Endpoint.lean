import SocketBridge.Bridge.World
import SocketBridge.Resolve.Solution

/-!
# Endpoints

What a socket and a listener tell about themselves, and which requests they satisfy.
-/

namespace SocketBridge

/-- The solution that a stream endpoint is an instance of. -/
def streamSolution (near : SocketAddr) : Solution := ⟨near.family, .stream, .tcp⟩

/-- Whether a stream endpoint satisfies three requested codes. -/
def endpointAccepts (near : SocketAddr) (family type protocol : Int32) : Bool :=
  let s := streamSolution near
  Enumeration.satisfies Family (Enumeration.code s.family) family &&
    Enumeration.satisfies SocketType (Enumeration.code s.type) type &&
    Enumeration.satisfies Protocol (Enumeration.code s.protocol) protocol

def Listener.localAddress (l : Listener) : Address := .ofSocketAddr l.near

def Listener.peerAddress (_ : Listener) : Except ChannelError Address := .error .noPeer

def Socket.localAddress {α : Type} (s : Socket α) : Address := .ofSocketAddr s.link.near

def Socket.peerAddress {α : Type} (s : Socket α) : Except ChannelError Address :=
  .ok (.ofSocketAddr s.link.far)

end SocketBridge
