import SocketBridge.Host.DomainName
import SocketBridge.Host.Network
import SocketBridge.Ip.Shorthand

/-!
# A host without a network

No interface is up, so nothing can be reached and nobody can be asked for names. Any IPv4 address
can be bound; of the IPv6 addresses only those that no interface has to bear.
-/

namespace SocketBridge

namespace Ip

def isMulticast : Octets 16 → Bool
  | ⟨a :: _, _⟩ => a == 0xFF
  | _ => false

def isLinkLocal : Octets 16 → Bool
  | ⟨a :: b :: _, _⟩ => a == 0xFE && b.toNat / 64 == 2
  | _ => false

/-- Whether an address means something on one link or one host only. -/
def isNear : Octets 16 → Bool
  | ⟨a :: b :: r, h⟩ =>
    isLinkLocal ⟨a :: b :: r, h⟩ || a == 0xFF && (b.toNat % 16 == 1 || b.toNat % 16 == 2)
  | _ => false

def isUnspecified (o : Octets 16) : Bool := o.toList.all (· == 0)

end Ip

/-! ## Names -/

/-- The scope that a zone stands for in a lookup: its interface, where the address is a near one, or
its number. -/
def zoneScope? (t : Interfaces) (o : Octets 16) (zone : List Char) : Option UInt32 :=
  (if Ip.isNear o then t.indexOf? (String.ofList zone) else none).orElse fun _ =>
    (Ip.whole Ip.scopeForm.read? zone).map UInt32.ofNat

/-- What a host says that can ask nobody. It knows itself by one name and reads addresses in every
form; only what could be a name is worth another try. -/
def Interfaces.lookupAlone (t : Interfaces) (name : String) :
    Except LookupFailure (List SocketAddr) :=
  match Ip.ofShorthand? name.toList with
  | some o => .ok [.v4 o 0]
  | none =>
    match Address.cutZone name.toList with
    | (ip, some zone) =>
      match (Ip.ofV6Literal? ip).bind fun o => (zoneScope? t o zone).map (SocketAddr.v6 o 0 0) with
      | some a => .ok [a]
      | none => .error .unknown
    | (ip, none) =>
      match Ip.ofV6Literal? ip with
      | some o => .ok [.v6 o 0 0 0]
      | none =>
        if name.map Char.toLower = "localhost" then .ok [.v4 ⟨[127, 0, 0, 1], rfl⟩ 0]
        else .error (if isDomainName name then .again else .unknown)

/-- The one interface that every host has. -/
def Interfaces.loopback : Interfaces := ⟨[("lo", 1)]⟩

/-- Its only interface has no address. -/
def Host.offline : Host where
  interfaces := .loopback
  otherNames := Interfaces.loopback.lookupAlone

/-! ## Calls -/

namespace Network

/-- The first port that is given to whoever asks for any. -/
def anyPort : UInt16 := 32768

/-- Why an address cannot be bound. -/
def bindError? : SocketAddr → Option OsError
  | .v4 .. => none
  | .v6 o _ _ scope =>
    if Ip.isMulticast o then some .invalidArgument
    else if Ip.isLinkLocal o && scope == 0 then some .invalidArgument
    else if Ip.isLinkLocal o && scope != 1 then some .noDevice
    else if Ip.isUnspecified o || (Ip.mapped? o).isSome then none
    else some .addressNotAvailable

/-- Why an address cannot be reached. Without any IPv6 address there is none to connect from. -/
def connectError : SocketAddr → OsError
  | .v4 .. => .networkUnreachable
  | .v6 o _ _ scope =>
    if Ip.isMulticast o || (Ip.mapped? o).isSome then .networkUnreachable
    else if Ip.isLinkLocal o && scope == 0 then .invalidArgument
    else .addressNotAvailable

def offline (h : Host) : Network where
  bind address :=
    match bindError? address with
    | some e => .error e
    | none => .ok (if address.port = 0 then address.withPort anyPort else address)
  connect address := .error (connectError address)
  lookup := h.lookupName

end Network

end SocketBridge
