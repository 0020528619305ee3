import SocketBridge.Kind

/-!
# Hints

What a resolution is narrowed to, and the two flags that change how it is done.
-/

namespace SocketBridge

structure ResolveFlags where
  /-- Only families configured on a local interface. -/
  addrconfig : Bool := false
  /-- A missing host means any local address rather than loopback. -/
  passive : Bool := false
deriving DecidableEq

namespace ResolveFlags

/-- Bits other than the two known ones are dropped. -/
def ofBits (bits : UInt32) : ResolveFlags :=
  ⟨bits.toNat % 2 == 1, bits.toNat / 2 % 2 == 1⟩

def bits (f : ResolveFlags) : UInt32 :=
  (if f.addrconfig then 1 else 0) + (if f.passive then 2 else 0)

def contains (f g : ResolveFlags) : Bool :=
  (f.addrconfig || !g.addrconfig) && (f.passive || !g.passive)

def union (f g : ResolveFlags) : ResolveFlags :=
  ⟨f.addrconfig || g.addrconfig, f.passive || g.passive⟩

end ResolveFlags

structure Hints where
  family : Family := .unspec
  type : SocketType := .any
  protocol : Protocol := .any
  flags : ResolveFlags := {}
deriving DecidableEq

/-- Hints from numeric codes; the first code that is no member's is reported. -/
def Hints.ofCodes (family type protocol : Int32) (flags : UInt32) : Except UnknownCode Hints := do
  return {
    family := ← Enumeration.ofCode Family family
    type := ← Enumeration.ofCode SocketType type
    protocol := ← Enumeration.ofCode Protocol protocol
    flags := .ofBits flags }

end SocketBridge
