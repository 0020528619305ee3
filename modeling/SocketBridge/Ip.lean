import SocketBridge.Kind
import SocketBridge.Bytes

/-!
# IP addresses

A raw address holds exactly as many bytes as its version demands. `Layout` collects what is fixed
for each family that has such addresses.
-/

namespace SocketBridge

/-- Exactly `n` bytes, in network order. -/
structure Octets (n : Nat) where
  toList : List UInt8
  length_toList : toList.length = n
deriving DecidableEq

inductive Ip
  | v4 (octets : Octets 4)
  | v6 (octets : Octets 16)
deriving DecidableEq

namespace Ip

def family : Ip → Family
  | v4 _ => .inet
  | v6 _ => .inet6

def octets : Ip → List UInt8
  | v4 o => o.toList
  | v6 o => o.toList

end Ip

/-- The eight 16-bit groups of an IPv6 address. -/
def Octets.groups (o : Octets 16) : List UInt16 :=
  (Bytes.groups 2 o.toList).map fun g => UInt16.ofNat (Bytes.toNat g)

/-- The IPv6 address of eight 16-bit groups. -/
def Octets.ofGroups? (gs : List UInt16) : Option (Octets 16) :=
  let bs := gs.flatMap fun g => Bytes.ofNat 2 g.toNat
  if h : bs.length = 16 then some ⟨bs, h⟩ else none

/-- What is fixed for a family that has addresses: how many bytes a raw address takes, and the
literals that stand for any local address and for loopback. -/
structure Layout where
  octets : Nat
  any : String
  loopback : String
deriving DecidableEq

namespace Family

/-- Only PF_INET and PF_INET6 addresses are stored. -/
def layout? : Family → Option Layout
  | inet => some ⟨4, "0.0.0.0", "127.0.0.1"⟩
  | inet6 => some ⟨16, "::", "::1"⟩
  | unspec | unix => none

/-- The literal that stands in for a missing host. -/
def localLiteral? (f : Family) (passive : Bool) : Option String :=
  f.layout?.map fun l => if passive then l.any else l.loopback

def isUnspec (f : Family) : Bool := f == unspec

end Family

end SocketBridge
