import SocketBridge.Proofs.Resolve.Literal
import SocketBridge.Proofs.Resolve.Preference

/-!
# Missing hosts

Where no host is given, each family that can be used stands for itself with one literal. The host
reads these without asking anybody, so the resolution cannot fail, and a family that is missing
leaves its place to the other.
-/

namespace SocketBridge

/-- What stands for a missing host: any local address where something is to be bound, else
loopback. -/
def ownIp (passive : Bool) : Family → Ip
  | .inet6 => .v6 ⟨List.replicate 15 0 ++ [if passive then 0 else 1], rfl⟩
  | _ => .v4 <|
    if passive then ⟨List.replicate 4 0, rfl⟩ else ⟨127 :: List.replicate 2 0 ++ [1], rfl⟩

def ownAddress (passive : Bool) (family : Family) (port : UInt16) : Address :=
  .ofSocketAddr (.ofIp (ownIp passive family) port)

/-- It has no zone and no name. -/
theorem ownAddress_fields (passive : Bool) (family : Family) (port : UInt16) :
    (ownAddress passive family port).ip = ownIp passive family ∧
      (ownAddress passive family port).port = port ∧
      (ownAddress passive family port).scope = none ∧
      (ownAddress passive family port).hostname = none := by
  cases family <;> exact ⟨rfl, rfl, rfl, rfl⟩

theorem ofLiteral_ownLiteral (t : Interfaces) (passive : Bool) (family : Family) (port : UInt16) :
    Address.ofLiteral t (Resolver.ownLiteral passive family) port =
      .ok (ownAddress passive family port) := by
  cases passive <;> cases family <;> rfl

theorem ownAddress_withPort (passive : Bool) (family : Family) (port port' : UInt16) :
    (ownAddress passive family port).withPort port' = ownAddress passive family port' := by
  cases family <;> rfl

theorem family_ownAddress {passive : Bool} {family : Family} {port : UInt16}
    (ip : family = .inet ∨ family = .inet6) :
    (ownAddress passive family port).toSocketAddr.family = family := by
  rcases ip with rfl | rfl <;> rfl

/-- What a table has of a family that accepts the hints is what that family offers. -/
theorem SolutionTable.filter_accepting (table : SolutionTable) (hints : Hints) {family : Family}
    (ip : family = .inet ∨ family = .inet6) (admitted : hints.Admits family) :
    table.solutions.filter (fun s =>
      s.family = family ∧ s.accepts hints.family hints.type hints.protocol = true) =
        hints.offers family := by
  rw [← table.filter_findAll hints ip admitted, findAll, List.filter_filter]
  exact List.filter_congr fun s _ => by simp [Bool.decide_and, beq_eq_decide]

theorem SolutionTable.mem_families {table : SolutionTable} {family : Family} :
    family ∈ table.families ↔ family = .inet ∨ family = .inet6 := by
  unfold families
  cases table.preferIpv4 <;> simp [or_comm]

namespace Host

/-- Whether some local interface has an address of a family; a failed scan finds none. -/
def HasFamily (h : Host) (family : Family) : Prop := some family ∈ h.addresses.getD []

instance (h : Host) (family : Family) : Decidable (h.HasFamily family) :=
  inferInstanceAs (Decidable (_ ∈ _))

/-- Whether a missing host stands for a family: the hints leave it in and, if interfaces count, one
of them has it. -/
def Stands (h : Host) (hints : Hints) (family : Family) : Prop :=
  hints.Admits family ∧ (hints.flags.addrconfig = true → h.HasFamily family)

instance (h : Host) (hints : Hints) (family : Family) : Decidable (h.Stands hints family) :=
  inferInstanceAs (Decidable (_ ∧ _))

variable (h : Host) (table : SolutionTable) {port : UInt16} {hints : Hints} {family : Family}

theorem usable_service (ip : family = .inet ∨ family = .inet6) :
    Resolver.usable ⟨table, h.service⟩ hints family =
      decide (hints.flags.addrconfig = true → h.HasFamily family) := by
  obtain ⟨_, addresses, _, _⟩ := h
  cases addresses with
  | none =>
    cases counts : hints.flags.addrconfig <;>
      simp [Resolver.usable, service, localFamilies?, HasFamily, counts]
  | some entries =>
    rcases ip with rfl | rfl <;> cases counts : hints.flags.addrconfig <;>
      simp [Resolver.usable, service, localFamilies?, HasFamily, LocalFamilies.ofScan,
        LocalFamilies.has, counts]

theorem stands_iff_usable (ip : family = .inet ∨ family = .inet6) :
    h.Stands hints family ↔
      hints.Admits family ∧ Resolver.usable ⟨table, h.service⟩ hints family = true := by
  rw [h.usable_service table ip, decide_eq_true_iff, Stands]

theorem lookup_ownLiteral (passive : Bool) (family : Family) :
    h.lookup (Resolver.ownLiteral passive family) =
      ⟨false, .ok [(ownAddress passive family 0).toSocketAddr]⟩ :=
  h.lookup_of_literal (ofLiteral_ownLiteral h.interfaces passive family 0)

/-- Literals of its own never make a resolution ask. -/
theorem askedFor_ownLiterals (passive : Bool) (families : List Family) :
    h.askedFor (families.map fun family => .lookup (Resolver.ownLiteral passive family)) = [] := by
  rw [askedFor, List.filterMap_eq_nil_iff]
  intro call member
  obtain ⟨family, -, rfl⟩ := List.mem_map.mp member
  simp only [lookup_ownLiteral]
  rfl

/-- The candidates of a family that a missing host stands for. -/
def ownEntries (port : UInt16) (hints : Hints) (family : Family) : List Resolved :=
  (hints.offers family).map fun s => ⟨family, ownAddress hints.flags.passive family port, s⟩

/-- The literal of a family gives its candidates, if a missing host stands for it. -/
theorem share_ownAddress (ip : family = .inet ∨ family = .inet6) :
    LiveService.share (fun _ => h.service) port hints
        [(ownAddress hints.flags.passive family 0).toSocketAddr] =
      if h.Stands hints family then ownEntries port hints family else [] := by
  have address := Address.entryAddress_of_literal
    (ofLiteral_ownLiteral h.interfaces hints.flags.passive family port)
  rw [ownAddress_withPort] at address
  simp only [LiveService.share, List.flatMap_singleton, Resolver.block_eq, family_ownAddress ip,
    ← h.stands_iff_usable _ ip, address]
  rfl

/-- The families whose literals are looked up. One that the hints give is looked up even where no
interface has it. -/
def lookedUp (hints : Hints) : List Family :=
  table.families.filter fun family =>
    if hints.family = .unspec then Resolver.usable ⟨table, h.service⟩ hints family
    else hints.family = family

/-- No family is left out that a missing host stands for. -/
theorem lookedUp_of_stands (ip : family = .inet ∨ family = .inet6)
    (stands : h.Stands hints family) : family ∈ h.lookedUp table hints := by
  obtain ⟨admitted, usable⟩ := (h.stands_iff_usable table ip).mp stands
  refine List.mem_filter.mpr ⟨SolutionTable.mem_families.mpr ip, ?_⟩
  by_cases opened : hints.family = .unspec
  · rw [if_pos opened, usable]
  · rw [if_neg opened]
    exact decide_eq_true (admitted.resolve_left opened)

/-- A missing host stands for its families with one literal each. -/
theorem resolve_none (valid : hints.error? port = none) :
    Resolver.resolve ⟨table, h.service⟩ h.interfaces none port hints =
      ⟨hints.scan ++ (h.lookedUp table hints).map fun family =>
          .lookup (Resolver.ownLiteral hints.flags.passive family),
        .ok ((table.families.filter fun family => h.Stands hints family).flatMap
          (ownEntries port hints))⟩ := by
  let s : LiveService := fun _ => h.service
  have answered : ∀ family ∈ h.lookedUp table hints, ∀ past,
      (s past).lookup (Resolver.ownLiteral hints.flags.passive family) =
        .ok [(ownAddress hints.flags.passive family 0).toSocketAddr] := by
    intro family _ _
    simp only [s, service, lookup_ownLiteral]
    rfl
  have names : Resolver.candidates ⟨table, s []⟩ none hints =
      (h.lookedUp table hints).map (Resolver.ownLiteral hints.flags.passive) := rfl
  have found := LiveService.resolve_literals valid
    (rfl : Resolver.keptName h.interfaces none = none) names answered
  refine found.trans (congrArg _ (congrArg Except.ok ?_))
  -- What is looked up in vain has no candidates, and nothing else is left out.
  rw [lookedUp, flatMap_filter, flatMap_filter]
  refine List.flatMap_congr fun family among => ?_
  have ip := SolutionTable.mem_families.mp among
  rw [h.share_ownAddress ip]
  by_cases stands : h.Stands hints family
  · have looked := List.of_mem_filter (h.lookedUp_of_stands table ip stands)
    rw [if_pos looked, decide_eq_true stands, if_pos stands, if_pos rfl]
  · rw [if_neg stands, decide_eq_false stands, ite_self]
    rfl

end Host

/-- Whatever interfaces there are, and if they cannot be scanned. A missing host is resolved without
a look at the host's own lookup, always, into one address for each family that the hints leave in
and, if interfaces count, some interface has, the preferred family first. It is any local address or
loopback, on the port, without a zone and without a name, and stands there once for each solution of
its family that accepts the hints, in the order of the table. If the hints leave type and protocol
open, every such family has a candidate, and all are of the other family where the preferred one
cannot be used. -/
theorem missing_host_covers_usable_families (h : Host) (preferIpv4 : Bool) (port : UInt16)
    (hints : Hints) (valid : hints.error? port = none) :
    let table : SolutionTable := ⟨preferIpv4⟩
    let resolution := Resolver.resolve ⟨table, h.service⟩ h.interfaces none port hints
    let order := if preferIpv4 then [Family.inet, .inet6] else [.inet6, .inet]
    let chosen := order.filter fun family =>
      hints.Admits family ∧ (hints.flags.addrconfig = true → h.HasFamily family)
    let accepting (family : Family) := table.solutions.filter fun s =>
      s.family = family ∧ s.accepts hints.family hints.type hints.protocol = true
    let entries : List Resolved := chosen.flatMap fun family => (accepting family).map fun s =>
      ⟨family, ownAddress hints.flags.passive family port, s⟩
    resolution.result = .ok entries ∧ h.askedFor resolution.calls = [] ∧
    (∀ e ∈ entries, e.address.ip = ownIp hints.flags.passive e.family ∧ e.address.port = port ∧
      e.address.scope = none ∧ e.address.hostname = none) ∧
    (hints.type = .any → hints.protocol = .any →
      (∀ family ∈ chosen, ∃ e ∈ entries, e.family = family) ∧
      ∀ preferred other, order = [preferred, other] → preferred ∉ chosen → other ∈ chosen →
        entries ≠ [] ∧ ∀ e ∈ entries, e.family = other) := by
  intro table resolution order chosen accepting entries
  have accepted {family : Family} (member : family ∈ chosen) :
      accepting family = hints.offers family := by
    obtain ⟨ordered, stands⟩ := List.mem_filter.mp member
    have ip := SolutionTable.mem_families.mp (show family ∈ table.families from ordered)
    exact table.filter_accepting hints ip (of_decide_eq_true stands).1
  have found : resolution = _ := h.resolve_none table valid
  rw [found, h.askedFor_append, h.askedFor_scan, h.askedFor_ownLiterals]
  refine ⟨congrArg Except.ok (List.flatMap_congr fun family member => ?_), rfl, fun e member => ?_,
    fun anyType anyProtocol => ?_⟩
  · rw [accepted member]
    rfl
  · obtain ⟨family, -, member⟩ := List.mem_flatMap.mp member
    obtain ⟨s, -, rfl⟩ := List.mem_map.mp member
    exact ownAddress_fields ..
  · have covered (family : Family) (member : family ∈ chosen) :
        ∃ e ∈ entries, e.family = family := by
      have offered : ⟨family, .dgram, .udp⟩ ∈ accepting family := by
        simp [accepted member, Hints.offers, anyType, anyProtocol]
      exact ⟨_, List.mem_flatMap_of_mem member (List.mem_map_of_mem offered), rfl⟩
    refine ⟨covered, fun preferred other two missing present => ⟨?_, fun e member => ?_⟩⟩
    · obtain ⟨e, member, -⟩ := covered other present
      exact List.ne_nil_of_mem member
    · obtain ⟨family, own, member⟩ := List.mem_flatMap.mp member
      obtain ⟨s, -, rfl⟩ := List.mem_map.mp member
      have either : family ∈ [preferred, other] := two ▸ (List.mem_filter.mp own).1
      rcases List.mem_pair.mp either with rfl | same
      · exact absurd own missing
      · exact same

/-- A host whose only address is one of IPv4. -/
def v4Host : Host := { addresses := some [some .inet, none] }

/-- Where IPv6 is preferred and no interface has it, IPv4 has all candidates. -/
theorem missing_host_covers_usable_families_of_fallback :
    let hints : Hints := { flags := { addrconfig := true, passive := true } }
    let resolution := Resolver.resolve ⟨⟨false⟩, v4Host.service⟩ {} none 80 hints
    let anywhere := ownAddress true .inet 80
    hints.error? 80 = none ∧ v4Host.askedFor resolution.calls = [] ∧
      resolution.result =
        .ok [⟨.inet, anywhere, .inet, .dgram, .udp⟩, ⟨.inet, anywhere, .inet, .stream, .tcp⟩] := by
  intro hints resolution anywhere
  have valid : hints.error? 80 = none := by decide
  obtain ⟨told, unasked, -⟩ := missing_host_covers_usable_families v4Host false 80 hints valid
  exact ⟨valid, unasked, told⟩

end SocketBridge
