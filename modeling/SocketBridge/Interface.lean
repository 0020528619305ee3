import SocketBridge.Kind

/-!
# Local network interfaces

The host's table of interface names and indexes, and the families configured on its interfaces.
-/

namespace SocketBridge

/-- Interface names with their indexes; the first match answers, both ways. -/
structure Interfaces where
  entries : List (String × UInt32) := []
deriving DecidableEq

namespace Interfaces

/-- The longest name of an interface, in bytes. -/
def maxNameBytes : Nat := 15

/-- The index of a name. No name holds a NUL, and no interface has the index zero. -/
def indexOf? (t : Interfaces) (name : String) : Option UInt32 :=
  if '\x00' ∈ name.toList then none
  else ((t.entries.find? fun e => e.1 == name).map (·.2)).filter (· != 0)

/-- The name of the interface that has an index now. -/
def nameOf? (t : Interfaces) (index : UInt32) : Option String :=
  ((t.entries.find? fun e => e.2 == index).map (·.1)).filter (·.utf8ByteSize ≤ maxNameBytes)

end Interfaces

/-- Which IP families are configured on some local interface. -/
structure LocalFamilies where
  inet : Bool
  inet6 : Bool
deriving DecidableEq

namespace LocalFamilies

def all : LocalFamilies := ⟨true, true⟩

def none : LocalFamilies := ⟨false, false⟩

/-- The families among the interface addresses of one scan; an entry may have no address. -/
def ofScan (addresses : List (Option Family)) : LocalFamilies :=
  ⟨addresses.contains (some .inet), addresses.contains (some .inet6)⟩

def has (l : LocalFamilies) : Family → Bool
  | .inet => l.inet
  | .inet6 => l.inet6
  | .unspec | .unix => false

end LocalFamilies

end SocketBridge
