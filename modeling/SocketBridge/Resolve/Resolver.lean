import SocketBridge.Metrics
import SocketBridge.Resolve.Hints
import SocketBridge.Resolve.Service
import SocketBridge.Resolve.Solution

/-!
# Resolution

A host and a port become candidates: addresses in the order of lookup, and for each the solutions of
its own family that the hints accept, in table order. A resolution also tells which calls it made.
-/

namespace SocketBridge

/-- Hints that no resolution can serve. -/
inductive HintsError
  | family
  | type
  | rawPort
deriving DecidableEq

def HintsError.message : HintsError → String
  | family => "resolve socket family must be PF_UNSPEC, PF_INET, or PF_INET6"
  | type => "resolve socket type must be SOCK_ANY, SOCK_DGRAM, SOCK_STREAM, or SOCK_RAW"
  | rawPort => "resolve cannot accept a port when resolving addresses for raw sockets"

inductive ResolveError
  | code (error : UnknownCode)
  | hints (error : HintsError)
  | lookup (text : String)
deriving DecidableEq

def ResolveError.message : ResolveError → String
  | code e => e.message
  | hints e => e.message
  | lookup text => "Error resolving hostname: " ++ text

/-- One candidate. -/
structure Resolved where
  family : Family
  address : Address
  solution : Solution
deriving DecidableEq

/-- A call on the name service. -/
inductive ServiceCall
  | localFamilies
  | lookup (name : String)
deriving DecidableEq

structure Resolution where
  calls : List ServiceCall
  result : Except ResolveError (List Resolved)

/-- Which hints cannot be served at a port; the family is looked at first. -/
def Hints.error? (h : Hints) (port : UInt16) : Option HintsError :=
  if h.family = .unix then some .family
  else if h.type = .rdm ∨ h.type = .seqpacket then some .type
  else if h.type = .raw ∧ port ≠ 0 then some .rawPort
  else none

/-- The scan that comes first, if interfaces count. -/
def Hints.scan (h : Hints) : List ServiceCall := if h.flags.addrconfig then [.localFamilies] else []

/-- A name service with a memory: what it answers after the calls that were made on it. -/
abbrev LiveService := List ServiceCall → NameService

/-- Looks names up one by one up to the first failure; tells all calls made so far. -/
def LiveService.lookupAll (s : LiveService) : (past : List ServiceCall) → List String →
    List ServiceCall × Except String (List SocketAddr)
  | past, [] => (past, .ok [])
  | past, name :: names =>
    match (s past).lookup name with
    | .error text => (past ++ [.lookup name], .error text)
    | .ok found =>
      let (calls, rest) := lookupAll s (past ++ [.lookup name]) names
      (calls, rest.map (found ++ ·))

structure Resolver where
  table : SolutionTable
  service : NameService

namespace Resolver

/-- The families that a resolution takes for configured. A scan that fails finds none. -/
def configured (r : Resolver) (h : Hints) : LocalFamilies :=
  if h.flags.addrconfig then
    match r.service.localFamilies with
    | .ok l => l
    | .error _ => .none
  else .all

/-- The names to look up: the host, or a literal for each family that comes into question. -/
def names (r : Resolver) (host : Option String) (h : Hints) (configured : LocalFamilies) :
    List String :=
  match host with
  | some name => [name]
  | none =>
    let families :=
      if h.family.isUnspec then r.table.families.filter configured.has else [h.family]
    families.filterMap (·.localLiteral? h.flags.passive)

/-- The candidates of one socket address. -/
def block (r : Resolver) (port : UInt16) (hostname : Option String) (h : Hints)
    (configured : LocalFamilies) (found : SocketAddr) : List Resolved :=
  let family := found.family
  if (h.family.isUnspec || h.family == family) && configured.has family then
    let address := (Address.ofSocketAddr found).withPort port
    let address := match hostname with
      | some name => address.withHostname name
      | none => address
    ((r.table.findAll h.family h.type h.protocol).filter (·.family == family)).map
      fun s => ⟨family, address, s⟩
  else []

/-- A literal host is not kept as a name. -/
def keptName (t : Interfaces) (host : Option String) : Option String :=
  host.filter fun name => match Address.ofLiteral t name 0 with
    | .ok _ => false
    | .error _ => true

end Resolver

/-- Resolves with a service that remembers. The interfaces only decide which hosts are literals with
a zone. -/
def LiveService.resolve (s : LiveService) (table : SolutionTable) (t : Interfaces)
    (host : Option String) (port : UInt16) (h : Hints) : Resolution :=
  match h.error? port with
  | some e => ⟨[], .error (.hints e)⟩
  | none =>
    let r : Resolver := ⟨table, s []⟩
    let (calls, found) := s.lookupAll h.scan (r.names host h (r.configured h))
    let blocks := found.map
      (·.flatMap (r.block port (Resolver.keptName t host) h (r.configured h)))
    ⟨calls, blocks.mapError .lookup⟩

/-- A resolver's own service answers as if nothing had been asked before. -/
def Resolver.resolve (r : Resolver) (t : Interfaces) (host : Option String) (port : UInt16)
    (h : Hints) : Resolution :=
  LiveService.resolve (fun _ => r.service) r.table t host port h

/-- Counts one resolution by its outcome. -/
def Metrics.countResolution (m : Metrics) (r : Resolution) : Metrics := m.resolved r.result.isOk

/-- One call of a resolver: it resolves, and what came of it is counted. -/
def Resolver.call (r : Resolver) (m : Metrics) (t : Interfaces) (host : Option String)
    (port : UInt16) (h : Hints) : Metrics × Resolution :=
  let resolution := r.resolve t host port h
  (m.countResolution resolution, resolution)

end SocketBridge
