import SocketBridge.Address

/-!
# Element buffers

A raw address as unsigned elements of one width, each the big-endian number of its bytes.
-/

namespace SocketBridge

/-- Unsigned elements that fit their width. -/
structure Elements where
  width : ElementWidth
  values : List Nat
  values_lt : ∀ n ∈ values, n < Nat.pow 2 width.bits
deriving DecidableEq

namespace Elements

/-- Elements of a width, each reduced to it. -/
def ofValues (width : ElementWidth) (values : List Nat) : Elements where
  width
  values := values.map (· % Nat.pow 2 width.bits)
  values_lt := by
    simp only [List.mem_map, forall_exists_index, and_imp, forall_apply_eq_imp_iff₂]
    exact fun n _ => Nat.mod_lt _ (Nat.two_pow_pos _)

/-- Groups bytes into elements. -/
def pack (width : ElementWidth) (bs : List UInt8) : Elements :=
  ofValues width ((Bytes.groups width.bytes bs).map Bytes.toNat)

/-- The bytes of all elements. -/
def unpack (e : Elements) : List UInt8 := e.values.flatMap (Bytes.ofNat e.width.bytes)

end Elements

/-- How many elements of a width make up an address of a family that takes `octets` bytes. -/
def elementCount (family : Family) (octets : Nat) (width : ElementWidth) :
    Except AddressError Nat :=
  if octets % width.bytes = 0 then .ok (octets / width.bytes) else .error (.width family width)

namespace Address

def toElements (a : Address) (width : ElementWidth) : Except AddressError Elements := do
  let _ ← elementCount a.family a.octets.length width
  return Elements.pack width a.octets

end Address

/-- Makes of elements what their bytes stand for. -/
def AddressMaker.ofElements {α : Type} (make : AddressMaker α) (family : Family) (e : Elements)
    (port : UInt16) (scope : Option UInt32) : Except AddressError α := do
  match family.layout? with
  | none => .error (.unsupportedFamily family)
  | some layout =>
    let expected ← elementCount family layout.octets e.width
    if e.values.length = expected then make family e.unpack port scope
    else .error (.length family e.width expected e.values.length)

def Address.ofElements : Family → Elements → UInt16 → Option UInt32 → Except AddressError Address :=
  AddressMaker.ofElements ofOctets

end SocketBridge
