import SocketBridge.Host

/-!
# Name services

Where a resolver gets addresses and local families from. The host's own service answers literals
itself and hands only other names to the host.
-/

namespace SocketBridge

/-- Answers about names and interfaces; failures come with their text. -/
structure NameService where
  /-- All socket addresses of a name, in the service's order. Their ports mean nothing. -/
  lookup : String → Except String (List SocketAddr)
  localFamilies : Except String LocalFamilies

/-- The one socket address that a name denotes by itself, if it is a literal. -/
def literalAnswer? (t : Interfaces) (name : String) : Option SocketAddr :=
  match Ip.ofLiteral? name.toList with
  | some ip => some (SocketAddr.ofIp ip 0)
  | none =>
    match Address.ofLiteral t name 0 with
    | .ok a => some a.toSocketAddr
    | .error _ => none

/-- A lookup through the host: whether the host was asked, and the answer. -/
structure HostLookup where
  asked : Bool
  found : Except LookupFailure (List SocketAddr)

namespace Host

def lookup (h : Host) (name : String) : HostLookup :=
  match literalAnswer? h.interfaces name with
  | some a => ⟨false, .ok [a]⟩
  | none => ⟨true, h.lookupName name⟩

/-- The host as a name service. -/
def service (h : Host) : NameService where
  lookup name := (h.lookup name).found.mapError LookupFailure.message
  localFamilies := match h.localFamilies? with
    | some l => .ok l
    | none => .error "interface scan failed"

end Host

end SocketBridge
