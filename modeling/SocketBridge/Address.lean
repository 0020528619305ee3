import SocketBridge.Ip.Literal
import SocketBridge.Interface

/-!
# Addresses

An endpoint: an IP address, a port, for IPv6 perhaps a zone, and perhaps the name it was looked up
by. The type keeps what every builder promises: PF_INET has no zone, a zone is never zero and a
name is never empty.
-/

namespace SocketBridge

/-- The width of an element of an address buffer. -/
inductive ElementWidth
  | u8 | u16 | u32 | u64
deriving DecidableEq, Repr

def ElementWidth.bytes : ElementWidth → Nat
  | u8 => 1
  | u16 => 2
  | u32 => 4
  | u64 => 8

def ElementWidth.bits (w : ElementWidth) : Nat := 8 * w.bytes

def ElementWidth.name (w : ElementWidth) : String := s!"uint{w.bits}"

def ElementWidth.ofBits? : Nat → Option ElementWidth
  | 8 => some u8
  | 16 => some u16
  | 32 => some u32
  | 64 => some u64
  | _ => none

/-- Why an address cannot be built or converted. -/
inductive AddressError
  | format (literal : String)
  | length (family : Family) (width : ElementWidth) (expected actual : Nat)
  | width (family : Family) (width : ElementWidth)
  | scopeOnInet
  | unknownInterface (name : String)
  | unsupportedFamily (family : Family)
deriving DecidableEq

def AddressError.message : AddressError → String
  | format literal => s!"invalid address literal: {literal}"
  | length family w expected actual =>
    s!"{family.name} address {w.name} buffer must have {expected} elements, got {actual}"
  | width family w => s!"{family.name} addresses cannot be packed into {w.name} elements"
  | scopeOnInet => "a scope id cannot be attached to an IPv4 address"
  | unknownInterface name => s!"unknown network interface: {name}"
  | unsupportedFamily family => s!"unsupported address family: {family.name}"

structure Address where
  ip : Ip
  port : UInt16
  scope : Option UInt32
  hostname : Option String
  scope_ne_zero : scope ≠ some 0
  scope_eq_none : ip.family = .inet → scope = none
  hostname_ne_empty : hostname ≠ some ""
deriving DecidableEq

/-- A socket address as the host takes and gives it. -/
inductive SocketAddr
  | v4 (octets : Octets 4) (port : UInt16)
  | v6 (octets : Octets 16) (port : UInt16) (flow scope : UInt32)
deriving DecidableEq

namespace SocketAddr

def ip : SocketAddr → Ip
  | v4 o _ => .v4 o
  | v6 o _ _ _ => .v6 o

def port : SocketAddr → UInt16
  | v4 _ p => p
  | v6 _ p _ _ => p

def family (a : SocketAddr) : Family := a.ip.family

def withPort (p : UInt16) : SocketAddr → SocketAddr
  | v4 o _ => v4 o p
  | v6 o _ f s => v6 o p f s

def ofIp (ip : Ip) (port : UInt16) : SocketAddr :=
  match ip with
  | .v4 o => v4 o port
  | .v6 o => v6 o port 0 0

open Text in
/-- The scope stands in the text only when it is not zero. -/
def text : SocketAddr → List Char
  | v4 o p => Ip.v4Text o ++ ':' :: decimal p.toNat
  | v6 o p _ s =>
    let zone := if s = 0 then [] else '%' :: decimal s.toNat
    '[' :: Ip.v6Text o ++ zone ++ ']' :: ':' :: decimal p.toNat

open Ip in
def readPort (cs : List Char) : Option (UInt16 × List Char) := do
  let (n, r) ← (expect ':' cs).bind portForm.read?
  return (UInt16.ofNat n, r)

open Ip in
/-- A zone number behind a percent sign, or zero when there is none. -/
def readScope (cs : List Char) : UInt32 × List Char :=
  match (expect '%' cs).bind scopeForm.read? with
  | some (n, r) => (UInt32.ofNat n, r)
  | none => (0, cs)

def readV4 (cs : List Char) : Option (SocketAddr × List Char) := do
  let (o, r) ← Ip.readV4 cs
  let (p, r) ← readPort r
  return (v4 o p, r)

open Ip in
def readV6 (cs : List Char) : Option (SocketAddr × List Char) := do
  let (o, r) ← (expect '[' cs).bind Ip.readV6
  let (s, r) := readScope r
  let (p, r) ← (expect ']' r).bind readPort
  return (v6 o p 0 s, r)

def read (cs : List Char) : Option (SocketAddr × List Char) := (readV4 cs).orElse fun _ => readV6 cs

/-- The socket address that a whole text denotes. -/
def ofText? (cs : List Char) : Option SocketAddr := Ip.whole read cs

end SocketAddr

namespace Address

def family (a : Address) : Family := a.ip.family

/-- The raw address, in network order. -/
def octets (a : Address) : List UInt8 := a.ip.octets

/-- Builds an address without a name from its raw bytes. A zone of zero is no zone. -/
def ofOctets (family : Family) (raw : List UInt8) (port : UInt16) (scope : Option UInt32) :
    Except AddressError Address :=
  match family with
  | .inet =>
    if h : raw.length = 4 then
      if scope.all (· == 0) then
        .ok { ip := .v4 ⟨raw, h⟩, port, scope := none, hostname := none
              scope_ne_zero := nofun, scope_eq_none := fun _ => rfl, hostname_ne_empty := nofun }
      else .error .scopeOnInet
    else .error (.length .inet .u8 4 raw.length)
  | .inet6 =>
    if h : raw.length = 16 then
      .ok { ip := .v6 ⟨raw, h⟩, port, scope := scope.filter (· != 0), hostname := none
            scope_ne_zero := fun zero => by simpa using (Option.filter_eq_some_iff.mp zero).2
            scope_eq_none := nofun, hostname_ne_empty := nofun }
    else .error (.length .inet6 .u8 16 raw.length)
  | .unspec | .unix => .error (.unsupportedFamily family)

def withPort (a : Address) (port : UInt16) : Address := { a with port }

/-- Attaches the name the address was looked up by; an empty name takes it away. -/
def withHostname (a : Address) (name : String) : Address :=
  { a with
    hostname := if name = "" then none else some name
    hostname_ne_empty := by split <;> simp_all }

/-- The host's form of an address, without its name. -/
def toSocketAddr (a : Address) : SocketAddr :=
  match a.ip with
  | .v4 o => .v4 o a.port
  | .v6 o => .v6 o a.port 0 (a.scope.getD 0)

/-- An address from the host's form. -/
def ofSocketAddr : SocketAddr → Address
  | .v4 o port =>
    { ip := .v4 o, port, scope := none, hostname := none
      scope_ne_zero := nofun, scope_eq_none := fun _ => rfl, hostname_ne_empty := nofun }
  | .v6 o port _ scope =>
    { ip := .v6 o, port, scope := if scope = 0 then none else some scope, hostname := none
      scope_ne_zero := by split <;> simp_all
      scope_eq_none := nofun, hostname_ne_empty := nofun }

open Text in
/-- The canonical literal. A zone is shown by the name of its interface where there is one. -/
def text (a : Address) (t : Interfaces) : String :=
  match a.scope with
  | none => String.ofList a.ip.text
  | some index =>
    let zone := match t.nameOf? index with
      | some name => name.toList
      | none => decimal index.toNat
    String.ofList (a.ip.text ++ '%' :: zone)

/-- Parts a text at the first percent sign. -/
def cutZone (cs : List Char) : List Char × Option (List Char) :=
  match cs.dropWhile (· != '%') with
  | [] => (cs, none)
  | _ :: zone => (cs.takeWhile (· != '%'), some zone)

/-- The scope that a zone names: a number when it has digits only, else an interface. -/
def readZone (t : Interfaces) (literal : String) (zone : List Char) :
    Except AddressError UInt32 :=
  if zone.isEmpty then .error (.format literal)
  else if zone.all (Text.isDigitOf 10) then
    match Ip.whole Ip.scopeForm.read? zone with
    | some n => .ok (UInt32.ofNat n)
    | none => .error (.format literal)
  else
    match t.indexOf? (String.ofList zone) with
    | some index => .ok index
    | none => .error (.unknownInterface (String.ofList zone))

end Address

/-- What makes something of a family, raw bytes, a port and perhaps a zone. -/
abbrev AddressMaker (α : Type) : Type :=
  Family → List UInt8 → UInt16 → Option UInt32 → Except AddressError α

open Address in
/-- Makes of a literal what it is read as: without a colon a dotted quad, with one an IPv6 address
and perhaps a zone. -/
def AddressMaker.ofLiteral {α : Type} (make : AddressMaker α) (t : Interfaces) (literal : String)
    (port : UInt16) : Except AddressError α :=
  let cs := literal.toList
  if ':' ∈ cs then
    let (ip, zone) := cutZone cs
    match Ip.ofV6Literal? ip with
    | none => .error (.format literal)
    | some o =>
      match zone with
      | none => make .inet6 o.toList port none
      | some zone => do
        let scope ← readZone t literal zone
        make .inet6 o.toList port (some scope)
  else
    match Ip.ofV4Literal? cs with
    | none => .error (.format literal)
    | some o => make .inet o.toList port none

def Address.ofLiteral : Interfaces → String → UInt16 → Except AddressError Address :=
  AddressMaker.ofLiteral ofOctets

end SocketBridge
