import SocketBridge.Address

/-!
# Taking addresses apart

An address is rebuilt from its raw bytes, port and zone, and from its name, and what it was built
from can be read off it.
-/

namespace SocketBridge.Address

/-- How many bytes the raw address has, by its family. -/
theorem length_octets (a : Address) :
    a.octets.length = if a.family = .inet6 then 16 else 4 := by
  unfold octets family
  cases a.ip with
  | v4 o => exact o.length_toList
  | v6 o => exact o.length_toList

theorem family_cases (a : Address) : a.family = .inet ∨ a.family = .inet6 := by
  unfold family
  cases a.ip with
  | v4 o => exact Or.inl rfl
  | v6 o => exact Or.inr rfl

/-- What an address gives for its zone, zero standing for none, builds the same address but for the
name. -/
theorem ofOctets_self (a : Address) :
    ofOctets a.family a.octets a.port
      (if a.family = .inet6 then some (a.scope.getD 0) else none) = .ok (a.withHostname "") := by
  obtain ⟨ip, port, scope, hostname, nonzero, zoneless, named⟩ := a
  cases ip with
  | v4 o =>
    obtain rfl : scope = none := zoneless rfl
    simp [ofOctets, family, octets, Ip.family, Ip.octets, o.length_toList, withHostname]
  | v6 o =>
    have kept : Option.filter (· != 0) (some (scope.getD 0)) = scope := by
      cases scope with
      | none => rfl
      | some zone =>
        have zone_ne : zone ≠ 0 := fun zero => nonzero (congrArg some zero)
        simp [zone_ne]
    simp [ofOctets, family, octets, Ip.family, Ip.octets, o.length_toList, withHostname, kept]

/-- An address shows what it was built from; a zone of zero is none. -/
theorem ofOctets_eq_ok {family : Family} {raw : List UInt8} {port : UInt16}
    {scope : Option UInt32} {a : Address} (built : ofOctets family raw port scope = .ok a) :
    a.family = family ∧ a.octets = raw ∧ a.port = port ∧ a.scope = scope.filter (· != 0) ∧
      a.hostname = none := by
  cases family with
  | inet =>
    simp only [ofOctets] at built
    split at built
    · split at built
      · rename_i zoneless
        obtain rfl := Except.ok.inj built
        have unzoned : scope.filter (· != 0) = none := by
          cases scope with
          | none => rfl
          | some zone => simpa using zoneless
        exact ⟨rfl, rfl, rfl, unzoned.symm, rfl⟩
      · cases built
    · cases built
  | inet6 =>
    simp only [ofOctets] at built
    split at built
    · obtain rfl := Except.ok.inj built
      exact ⟨rfl, rfl, rfl, rfl, rfl⟩
    · cases built
  | unspec | unix => cases built

/-- What an address can be built from. -/
theorem exists_ofOctets_iff {family : Family} {raw : List UInt8} {port : UInt16}
    {scope : Option UInt32} :
    (∃ a, ofOctets family raw port scope = .ok a) ↔
      (family = .inet ∨ family = .inet6) ∧ raw.length = (if family = .inet6 then 16 else 4) ∧
        (family = .inet → scope = none ∨ scope = some 0) := by
  cases family with
  | inet =>
    have zoneless : scope.all (· == 0) = true ↔ scope = none ∨ scope = some 0 := by
      cases scope <;> simp
    by_cases fits : raw.length = 4
    · by_cases unzoned : scope = none ∨ scope = some 0
      · simp [ofOctets, fits, zoneless.mpr unzoned, unzoned]
      · simp [ofOctets, fits, mt zoneless.mp unzoned, unzoned]
    · simp [ofOctets, fits]
  | inet6 => by_cases fits : raw.length = 16 <;> simp [ofOctets, fits]
  | unspec | unix => simp [ofOctets]

theorem hostname_withHostname (a : Address) (name : String) :
    (a.withHostname name).hostname.getD "" = name := by
  by_cases empty : name = "" <;> simp [withHostname, empty]

/-- An empty text stands for no name. -/
theorem withHostname_getD (a : Address) (name : String) :
    (a.withHostname name).withHostname (a.hostname.getD "") = a := by
  obtain ⟨ip, port, scope, hostname, nonzero, zoneless, named⟩ := a
  cases hostname with
  | none => rfl
  | some own =>
    have own_ne : own ≠ "" := fun empty => named (congrArg some empty)
    simp [withHostname, own_ne]

end SocketBridge.Address
