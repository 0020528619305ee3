import SocketBridge.Address.Stored
import SocketBridge.Proofs.Address

/-!
# The one stored form of an address

Every builder stores exactly the form of the address that it stands for, so whatever chain of
builders an address comes from, it is stored in one way. Equality of the stored forms is then
equality of what they show, and an address survives being taken apart or being handed to the host.
-/

namespace SocketBridge

/-- The socket address that bears no flow. -/
def SocketAddr.withoutFlow : SocketAddr → SocketAddr
  | v4 o port => v4 o port
  | v6 o port _ scope => v6 o port 0 scope

namespace StoredAddress

/-- What any chain of builders ends in. Interfaces and readers may differ from step to step. -/
inductive Built : StoredAddress → Prop
  | literal {t : Interfaces} {literal : String} {port : UInt16} {a : StoredAddress}
    (made : ofLiteral t literal port = .ok a) : Built a
  | bytes {family : Family} {raw : List UInt8} {port : UInt16} {scope : Option UInt32}
    {a : StoredAddress} (made : ofBytes family raw port scope = .ok a) : Built a
  | elements {family : Family} {e : Elements} {port : UInt16} {scope : Option UInt32}
    {a : StoredAddress} (made : ofElements family e port scope = .ok a) : Built a
  | native (s : SocketAddr) : Built (ofSocketAddr s)
  | record {σ : Type} {r : RecordReader σ} {before after : σ} {a : StoredAddress}
    (made : read r before = .ok a after) : Built a
  | withPort {a : StoredAddress} (port : UInt16) (built : Built a) : Built (a.withPort port)
  | withHostname {a : StoredAddress} (name : String) (built : Built a) :
    Built (a.withHostname name)

/-- What holds of every address that is built: a family that has addresses, zeros behind the raw
address, no zone for PF_INET, no zone zero and no empty name. -/
structure Canonical (a : StoredAddress) : Prop where
  family : a.family = .inet ∨ a.family = .inet6
  padding : ∀ cell ∈ a.cells.toList.drop a.used, cell = 0
  zoneless : a.family = .inet → a.scope = none
  zone : a.scope ≠ some 0
  name : a.hostname ≠ some ""

end StoredAddress

namespace AddressMaker

variable {α : Type} (f : Address → α)

/-- What a maker makes that stands for addresses: `f` of the address. -/
def image : AddressMaker α := fun family raw port scope =>
  (Address.ofOctets family raw port scope).map f

theorem ofLiteral_image (t : Interfaces) (literal : String) (port : UInt16) :
    ofLiteral (image f) t literal port = (Address.ofLiteral t literal port).map f := by
  unfold Address.ofLiteral ofLiteral image
  by_cases colon : ':' ∈ literal.toList
  · simp only [colon, if_true]
    cases Ip.ofV6Literal? (Address.cutZone literal.toList).1 with
    | none => rfl
    | some o =>
      cases (Address.cutZone literal.toList).2 with
      | none => rfl
      | some zone => cases read : Address.readZone t literal zone <;> simp [read] <;> rfl
  · simp only [colon, if_false]
    cases Ip.ofV4Literal? literal.toList with
    | none => rfl
    | some o => rfl

theorem ofElements_image (family : Family) (e : Elements) (port : UInt16)
    (scope : Option UInt32) :
    ofElements (image f) family e port scope =
      (Address.ofElements family e port scope).map f := by
  unfold Address.ofElements ofElements image
  cases family.layout? with
  | none => rfl
  | some layout =>
    cases counted : elementCount family layout.octets e.width with
    | error error => simp only [counted]; rfl
    | ok expected =>
      simp only [counted, bind, Except.bind]
      by_cases fits : e.values.length = expected
      · rw [if_pos fits, if_pos fits]
      · rw [if_neg fits, if_neg fits]
        rfl

theorem read_image {attach : α → String → α}
    (attached : ∀ a name, attach (f a) name = f (a.withHostname name)) {σ : Type}
    (r : RecordReader σ) : read (image f) attach r = f <$> Address.read r := by
  unfold Address.read read
  rw [map_bind]
  refine bind_congr fun code => ?_
  cases Address.storedFamily? code with
  | none => rfl
  | some stored =>
    obtain ⟨family, expected⟩ := stored
    rw [map_bind]
    refine bind_congr fun hostname => ?_
    rw [map_bind]
    refine bind_congr fun raw => ?_
    by_cases wrong : raw.length ≠ expected
    · rw [if_pos wrong, if_pos wrong]
      rfl
    · rw [if_neg wrong, if_neg wrong, map_bind]
      refine bind_congr fun n => ?_
      cases Address.port? n with
      | none => rfl
      | some port =>
        -- with or without a zone, the rest of the record is read in the same way
        by_cases zoned : family = .inet6 <;>
          simp only [zoned, if_true, if_false, map_bind, image] <;>
          refine bind_congr fun scope => ?_
        all_goals
          cases Address.ofOctets _ raw port (scope.map Int32.toUInt32) with
          | error e => rfl
          | ok a =>
            rw [map_pure, ← attached]
            rfl

end AddressMaker

namespace Octets

theorem take_pad {bytes : List UInt8} (fits : bytes.length ≤ 16) :
    (pad bytes).toList.take bytes.length = bytes := by
  rw [pad, List.take_take, Nat.min_eq_left fits, List.take_left]

theorem drop_pad {bytes : List UInt8} :
    (pad bytes).toList.drop bytes.length = List.replicate (16 - bytes.length) 0 := by
  rw [pad, List.drop_take, List.drop_left, List.take_replicate, Nat.min_eq_left (Nat.sub_le ..)]

theorem pad_toList (o : Octets 16) : pad o.toList = o := by
  obtain ⟨bytes, length⟩ := o
  rw [mk.injEq]
  exact List.take_left' length

end Octets

namespace Address

/-- Bytes are stored as the address that they are read as. -/
theorem ofBytes_eq_image : StoredAddress.ofBytes = AddressMaker.image store := by
  funext family raw port scope
  cases family with
  | inet =>
    by_cases fits : raw.length = 4
    · cases scope with
      | none =>
        simp [StoredAddress.ofBytes, AddressMaker.image, ofOctets, Family.layout?, fits,
          Except.map, store, family, octets, Ip.family, Ip.octets]
      | some zone =>
        by_cases zero : zone = 0 <;>
          simp [StoredAddress.ofBytes, AddressMaker.image, ofOctets, Family.layout?, fits, zero,
            Except.map, store, family, octets, Ip.family, Ip.octets]
    · simp [StoredAddress.ofBytes, AddressMaker.image, ofOctets, Family.layout?, fits, Except.map]
  | inet6 =>
    by_cases fits : raw.length = 16
    · simp [StoredAddress.ofBytes, AddressMaker.image, ofOctets, Family.layout?, fits, Except.map,
        store, family, octets, Ip.family, Ip.octets]
    · simp [StoredAddress.ofBytes, AddressMaker.image, ofOctets, Family.layout?, fits, Except.map]
  | unspec | unix => rfl

theorem store_ofLiteral (t : Interfaces) (literal : String) (port : UInt16) :
    StoredAddress.ofLiteral t literal port = (ofLiteral t literal port).map store := by
  rw [StoredAddress.ofLiteral, ofBytes_eq_image, AddressMaker.ofLiteral_image]

theorem store_ofElements (family : Family) (e : Elements) (port : UInt16)
    (scope : Option UInt32) :
    StoredAddress.ofElements family e port scope =
      (ofElements family e port scope).map store := by
  rw [StoredAddress.ofElements, ofBytes_eq_image, AddressMaker.ofElements_image]

theorem store_read {σ : Type} (r : RecordReader σ) :
    StoredAddress.read r = store <$> read r := by
  rw [StoredAddress.read, ofBytes_eq_image]
  exact AddressMaker.read_image store (fun _ _ => rfl) r

theorem store_ofSocketAddr (s : SocketAddr) :
    StoredAddress.ofSocketAddr s = (ofSocketAddr s).store := by
  cases s with
  | v4 o port => rfl
  | v6 o port flow scope =>
    by_cases zero : scope = 0 <;>
      simp [StoredAddress.ofSocketAddr, ofSocketAddr, store, family, octets, Ip.family, Ip.octets,
        Octets.pad_toList, zero]

theorem used_store (a : Address) : a.store.used = a.octets.length := by
  rw [length_octets]
  rcases a.family_cases with family | family <;> simp [store, StoredAddress.used, family]

theorem length_octets_le (a : Address) : a.octets.length ≤ 16 := by
  rw [length_octets]
  split <;> omega

theorem octets_store (a : Address) : a.store.octets = a.octets := by
  rw [StoredAddress.octets, used_store]
  exact Octets.take_pad a.length_octets_le

theorem toSocketAddr_store (a : Address) : a.store.toSocketAddr = a.toSocketAddr := by
  obtain ⟨ip, port, scope, hostname, nonzero, zoneless, named⟩ := a
  cases ip with
  | v4 o =>
    obtain ⟨bytes, length⟩ := o
    have fits : bytes.length ≤ 16 := by omega
    have front := Octets.take_pad fits
    rw [length] at front
    simp [store, StoredAddress.toSocketAddr, toSocketAddr, family, Ip.family, octets, Ip.octets,
      front]
  | v6 o =>
    simp [store, StoredAddress.toSocketAddr, toSocketAddr, family, Ip.family, octets, Ip.octets,
      Octets.pad_toList]

/-- An address shows what it is built from. -/
theorem ofOctets_shown (a : Address) :
    ofOctets a.family a.octets a.port a.scope = .ok (a.withHostname "") := by
  rw [← ofOctets_self]
  rcases a.family_cases with inet | inet6
  · rw [inet, a.scope_eq_none inet]
    rfl
  · rw [inet6, if_pos rfl]
    cases a.scope <;> rfl

theorem ofSocketAddr_toSocketAddr (a : Address) :
    ofSocketAddr a.toSocketAddr = a.withHostname "" := by
  obtain ⟨ip, port, scope, hostname, nonzero, zoneless, named⟩ := a
  cases ip with
  | v4 o =>
    obtain rfl : scope = none := zoneless rfl
    rfl
  | v6 o =>
    cases scope with
    | none => rfl
    | some zone =>
      have zone_ne : zone ≠ 0 := fun zero => nonzero (congrArg some zero)
      simp [toSocketAddr, ofSocketAddr, withHostname, zone_ne]

theorem toSocketAddr_ofSocketAddr (s : SocketAddr) :
    (ofSocketAddr s).toSocketAddr = s.withoutFlow := by
  cases s with
  | v4 o port => rfl
  | v6 o port flow scope =>
    by_cases zero : scope = 0 <;>
      simp [toSocketAddr, ofSocketAddr, SocketAddr.withoutFlow, zero]

theorem canonical_store (a : Address) : a.store.Canonical where
  family := a.family_cases
  padding cell behind := by
    rw [used_store] at behind
    exact List.eq_of_mem_replicate (Octets.drop_pad ▸ behind)
  zoneless := a.scope_eq_none
  zone := a.scope_ne_zero
  name := a.hostname_ne_empty

end Address

namespace StoredAddress

open Address

/-- What is built is the stored form of an address. -/
theorem Built.exists_store {a : StoredAddress} (built : a.Built) : ∃ b : Address, b.store = a := by
  have stored : ∀ {made : Except AddressError Address} {a : StoredAddress},
      made.map store = .ok a → ∃ b : Address, b.store = a := by
    intro made a ok
    cases made with
    | error e => cases ok
    | ok b => exact ⟨b, Except.ok.inj ok⟩
  induction built with
  | literal made => exact stored (store_ofLiteral .. ▸ made)
  | bytes made => exact stored (ofBytes_eq_image ▸ made)
  | elements made => exact stored (store_ofElements .. ▸ made)
  | native s => exact ⟨_, (store_ofSocketAddr s).symm⟩
  | @record σ r before after a made =>
    rw [store_read] at made
    simp only [Functor.map, EStateM.map] at made
    cases taken : Address.read r before with
    | error e rest =>
      rw [taken] at made
      cases made
    | ok b rest =>
      rw [taken] at made
      cases made
      exact ⟨b, rfl⟩
  | withPort port _ ih =>
    obtain ⟨b, rfl⟩ := ih
    exact ⟨b.withPort port, rfl⟩
  | withHostname name _ ih =>
    obtain ⟨b, rfl⟩ := ih
    exact ⟨b.withHostname name, rfl⟩

/-- Taken apart, a stored address is built again from its bytes and its name. -/
theorem rebuilt_store (b : Address) :
    ofBytes b.store.family b.store.octets b.store.port b.store.scope =
      .ok (b.withHostname "").store := by
  rw [ofBytes_eq_image, octets_store]
  exact congrArg (Except.map store) b.ofOctets_shown

/-- What a stored address shows leaves nothing open. -/
theorem store_eq_iff (b c : Address) :
    b.store = c.store ↔ b.store.family = c.store.family ∧ b.store.octets = c.store.octets ∧
      b.store.port = c.store.port ∧ b.store.scope = c.store.scope ∧
      b.store.hostname = c.store.hostname := by
  refine ⟨fun same => same ▸ ⟨rfl, rfl, rfl, rfl, rfl⟩,
    fun ⟨family, octets, port, scope, name⟩ => ?_⟩
  rw [octets_store, octets_store] at octets
  rw [StoredAddress.mk.injEq]
  exact ⟨family, congrArg Octets.pad octets, port, scope, name⟩

end StoredAddress

/-- Whatever chain of builders an address comes from, it is stored in canonical form. So two
addresses are equal exactly if they show the same family, bytes, port, zone and name. An address
that is taken apart is built again from its bytes, port and zone, with its name attached anew, and
one that is handed to the host comes back without its name; what the host gives goes back to it
without its flow. The addresses that are built are the stored forms of those that everything else
works with. -/
theorem built_address_is_canonical (a b : StoredAddress) (built : a.Built) (other : b.Built)
    (s : SocketAddr) :
    a.Canonical ∧
    (a = b ↔ a.family = b.family ∧ a.octets = b.octets ∧ a.port = b.port ∧ a.scope = b.scope ∧
      a.hostname = b.hostname) ∧
    (∃ bare, StoredAddress.ofBytes a.family a.octets a.port a.scope = .ok bare ∧
      a.hostname.elim bare bare.withHostname = a) ∧
    StoredAddress.ofSocketAddr a.toSocketAddr = { a with hostname := none } ∧
    (StoredAddress.ofSocketAddr s).toSocketAddr = s.withoutFlow ∧
    ∃ shown : Address, shown.store = a := by
  obtain ⟨a, rfl⟩ := built.exists_store
  obtain ⟨b, rfl⟩ := other.exists_store
  refine ⟨a.canonical_store, StoredAddress.store_eq_iff a b,
    ⟨_, StoredAddress.rebuilt_store a, ?_⟩, ?_, ?_, a, rfl⟩
  · have named := congrArg Address.store (a.withHostname_getD "")
    change a.hostname.elim _ _ = _
    cases hostname : a.hostname with
    | none =>
      rw [hostname] at named
      exact named
    | some name =>
      rw [hostname] at named
      exact named
  · rw [a.toSocketAddr_store, Address.store_ofSocketAddr, Address.ofSocketAddr_toSocketAddr]
    rfl
  · rw [Address.store_ofSocketAddr, Address.toSocketAddr_store, Address.toSocketAddr_ofSocketAddr]

/-- An address on a link, taken from the host and then given a port and a name, equals the one that
is read from a literal and given the name. -/
theorem built_address_is_canonical_on_link :
    let s : SocketAddr := .v6 ⟨[0xFE, 0x80, 0, 0, 0, 0, 0, 0, 0, 0, 0, 0, 0, 0, 0, 1], rfl⟩ 7 9 3
    let a := ((StoredAddress.ofSocketAddr s).withPort 80).withHostname "a.test"
    ∃ b, StoredAddress.ofLiteral {} "fe80::1%3" 80 = .ok b ∧
      (a.Built ∧ (b.withHostname "a.test").Built) ∧ a.Canonical ∧ a = b.withHostname "a.test" := by
  intro s a
  have made : StoredAddress.ofLiteral {} "fe80::1%3" 80 =
      .ok ⟨.inet6, ⟨[0xFE, 0x80, 0, 0, 0, 0, 0, 0, 0, 0, 0, 0, 0, 0, 0, 1], rfl⟩, 80, some 3,
        none⟩ := by
    rfl
  have built : a.Built := .withHostname "a.test" (.withPort 80 (.native s))
  have other := StoredAddress.Built.withHostname "a.test" (.literal made)
  obtain ⟨canonical, equal, -⟩ := built_address_is_canonical a _ built other s
  exact ⟨_, made, ⟨built, other⟩, canonical, equal.mpr ⟨rfl, rfl, rfl, rfl, rfl⟩⟩

end SocketBridge
