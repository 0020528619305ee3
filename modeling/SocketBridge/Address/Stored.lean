import SocketBridge.Address.Elements
import SocketBridge.Record

/-!
# Addresses as they are stored

In memory an address of either family takes sixteen cells: the raw address stands at their front and
the rest holds zero. Nothing in this form promises that. Each builder sees to it by itself, or hands
over to the one that takes raw bytes.
-/

namespace SocketBridge

/-- Sixteen zero cells with bytes copied over their front. -/
def Octets.pad (bytes : List UInt8) : Octets 16 where
  toList := (bytes ++ List.replicate 16 0).take 16
  length_toList := by simp

structure StoredAddress where
  family : Family
  cells : Octets 16
  port : UInt16
  scope : Option UInt32
  hostname : Option String
deriving DecidableEq

namespace StoredAddress

/-- How many cells the raw address takes. -/
def used (a : StoredAddress) : Nat :=
  match a.family with
  | .inet6 => 16
  | _ => 4

/-- The raw address. -/
def octets (a : StoredAddress) : List UInt8 := a.cells.toList.take a.used

def toSocketAddr (a : StoredAddress) : SocketAddr :=
  match a.family with
  | .inet6 => .v6 a.cells a.port 0 (a.scope.getD 0)
  | _ => .v4 ⟨a.cells.toList.take 4, by simp [a.cells.length_toList]⟩ a.port

def ofBytes : AddressMaker StoredAddress := fun family raw port scope =>
  match family.layout? with
  | none => .error (.unsupportedFamily family)
  | some layout =>
    if raw.length ≠ layout.octets then
      .error (.length family .u8 layout.octets raw.length)
    else if family = .inet ∧ scope.any (· != 0) then .error .scopeOnInet
    else .ok ⟨family, .pad raw, port, scope.filter (· != 0), none⟩

def ofSocketAddr : SocketAddr → StoredAddress
  | .v4 o port => ⟨.inet, .pad o.toList, port, none, none⟩
  | .v6 o port _ scope => ⟨.inet6, o, port, (some scope).filter (· != 0), none⟩

def withPort (a : StoredAddress) (port : UInt16) : StoredAddress := { a with port }

def withHostname (a : StoredAddress) (name : String) : StoredAddress :=
  { a with hostname := if name = "" then none else some name }

def ofLiteral : Interfaces → String → UInt16 → Except AddressError StoredAddress :=
  AddressMaker.ofLiteral ofBytes

def ofElements : Family → Elements → UInt16 → Option UInt32 → Except AddressError StoredAddress :=
  AddressMaker.ofElements ofBytes

def read {σ : Type} : RecordReader σ → EStateM RecordError σ StoredAddress :=
  AddressMaker.read ofBytes withHostname

end StoredAddress

/-- How an address is stored. -/
def Address.store (a : Address) : StoredAddress :=
  ⟨a.family, .pad a.octets, a.port, a.scope, a.hostname⟩

end SocketBridge
