import SocketBridge.Kind

/-!
# The solution table

The combinations of family, type and protocol that can be opened. A wildcard type never selects raw
sockets.
-/

namespace SocketBridge

structure Solution where
  family : Family
  type : SocketType
  protocol : Protocol
deriving DecidableEq

namespace Solution

/-- Whether a solution satisfies a request. -/
def accepts (s : Solution) (family : Family) (type : SocketType) (protocol : Protocol) : Bool :=
  (family == .unspec || family == s.family) &&
    ((type == .any && s.type != .raw) || type == s.type) &&
    (protocol == .any || protocol == s.protocol)

/-- What a family offers: datagrams, streams and raw sockets, in this order. -/
def ofFamily (f : Family) : List Solution :=
  [⟨f, .dgram, .udp⟩, ⟨f, .stream, .tcp⟩, ⟨f, .raw, .any⟩]

end Solution

/-- The ordered table; the preference decides which family comes first. -/
structure SolutionTable where
  preferIpv4 : Bool
deriving DecidableEq

namespace SolutionTable

/-- IP families, the preferred one first. -/
def families (t : SolutionTable) : List Family :=
  if t.preferIpv4 then [.inet, .inet6] else [.inet6, .inet]

def solutions (t : SolutionTable) : List Solution := t.families.flatMap Solution.ofFamily

/-- The solutions that accept a request, in table order. -/
def findAll (t : SolutionTable) (family : Family) (type : SocketType) (protocol : Protocol) :
    List Solution :=
  t.solutions.filter (·.accepts family type protocol)

end SolutionTable

end SocketBridge
