import SocketBridge.Address

/-!
# The host

What the operating system answers: its interfaces, its name lookup, and what becomes of attempts to
bind and to connect.
-/

namespace SocketBridge

/-- A failed lookup, in the words of the host. -/
structure LookupFailure where
  message : String
deriving DecidableEq

namespace LookupFailure

def again : LookupFailure :=
  ⟨"failed to lookup address information: Temporary failure in name resolution"⟩
def unknown : LookupFailure := ⟨"failed to lookup address information: Name or service not known"⟩
def nul : LookupFailure := ⟨"file name contained an unexpected NUL byte"⟩

end LookupFailure

/-- An error of the operating system. -/
structure OsError where
  code : Nat
  text : String
deriving DecidableEq

namespace OsError

def message (e : OsError) : String := s!"{e.text} (os error {e.code})"

def notFound : OsError := ⟨2, "No such file or directory"⟩
def noDevice : OsError := ⟨19, "No such device"⟩
def invalidArgument : OsError := ⟨22, "Invalid argument"⟩
def brokenPipe : OsError := ⟨32, "Broken pipe"⟩
def addressInUse : OsError := ⟨98, "Address already in use"⟩
def addressNotAvailable : OsError := ⟨99, "Cannot assign requested address"⟩
def networkUnreachable : OsError := ⟨101, "Network is unreachable"⟩
def connectionReset : OsError := ⟨104, "Connection reset by peer"⟩
def connectionRefused : OsError := ⟨111, "Connection refused"⟩

end OsError

/-- The two ends of a connected stream. -/
structure Link where
  near : SocketAddr
  far : SocketAddr
deriving DecidableEq

structure Host where
  interfaces : Interfaces := {}
  /-- The families of the interface addresses, or nothing when the scan fails. -/
  addresses : Option (List (Option Family)) := some []
  names : List (String × Except LookupFailure (List SocketAddr)) := []
  /-- What becomes of a lookup of any other name. -/
  otherNames : String → Except LookupFailure (List SocketAddr) := fun _ => .error .unknown

namespace Host

/-- Asks the host's name lookup. -/
def lookupName (h : Host) (name : String) : Except LookupFailure (List SocketAddr) :=
  if '\x00' ∈ name.toList then .error .nul
  else (h.names.lookup name).getD (h.otherNames name)

/-- Scans the interfaces once. -/
def localFamilies? (h : Host) : Option LocalFamilies := h.addresses.map LocalFamilies.ofScan

end Host

end SocketBridge
