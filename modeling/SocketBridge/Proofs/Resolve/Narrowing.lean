import SocketBridge.Proofs.Resolve.Blocks

/-!
# Narrower hints

A host that is named is looked up once, whatever the hints are, so hints only choose among the
candidates of the addresses that were found. Apart from raw sockets, which have to be asked for,
all of them are in the list that the default hints give.
-/

namespace SocketBridge

namespace Hints

/-- Whether hints leave a solution in. -/
def Suits (h : Hints) (s : Solution) : Prop :=
  (h.type = .any ∨ s.type = h.type) ∧ (h.protocol = .any ∨ s.protocol = h.protocol)

instance (h : Hints) (s : Solution) : Decidable (h.Suits s) := inferInstanceAs (Decidable (_ ∧ _))

/-- Unless raw sockets are asked for, a family offers what it offers to anybody, less what does not
suit. -/
theorem offers_eq_filter {h : Hints} (cooked : h.type ≠ .raw) (family : Family) :
    h.offers family = (({} : Hints).offers family).filter (h.Suits ·) := by
  have all : ({} : Hints).offers family = [⟨family, .dgram, .udp⟩, ⟨family, .stream, .tcp⟩] := rfl
  rw [all]
  obtain ⟨_, type, protocol, _⟩ := h
  cases type <;> cases protocol <;> first | rfl | exact absurd rfl cooked

/-- Raw sockets have no protocol. -/
theorem offers_raw {h : Hints} (raw : h.type = .raw) (family : Family) :
    h.offers family = if h.protocol = .any then [⟨family, .raw, .any⟩] else [] := by
  simp [offers, raw]

theorem port_of_raw {h : Hints} {port : UInt16} (valid : h.error? port = none)
    (raw : h.type = .raw) : port = 0 := by
  by_contra wanted
  by_cases unix : h.family = .unix <;> simp [error?, raw, wanted, unix] at valid

end Hints

namespace Resolver

variable (r : Resolver) (t : Interfaces) (name : String) (port : UInt16) (h : Hints)

/-- Whether hints leave a candidate of the default list in. -/
def keeps (e : Resolved) : Prop :=
  (h.Admits e.family ∧ r.usable h e.family = true) ∧ h.Suits e.solution

instance (e : Resolved) : Decidable (r.keeps h e) := inferInstanceAs (Decidable (_ ∧ _))

/-- Without hints every address is kept. -/
theorem block_default (kept : Option String) (a : SocketAddr) :
    r.block port kept {} (r.configured {}) a =
      (({} : Hints).offers a.family).map fun s => ⟨a.family, entryAddress port kept a, s⟩ := by
  rw [block_eq, if_pos ⟨Or.inl rfl, rfl⟩]

theorem block_eq_filter (cooked : h.type ≠ .raw) (kept : Option String) (a : SocketAddr) :
    r.block port kept h (r.configured h) a =
      (r.block port kept {} (r.configured {}) a).filter (r.keeps h ·) := by
  rw [block_eq, block_default, List.filter_map]
  by_cases wanted : h.Admits a.family ∧ r.usable h a.family = true
  · rw [if_pos wanted, Hints.offers_eq_filter cooked]
    congr 1
    exact List.filter_congr fun s _ => decide_eq_decide.mpr
      (by simp only [keeps, wanted, true_and])
  · rw [if_neg wanted, eq_comm, List.map_eq_nil_iff, List.filter_eq_nil_iff]
    intro s _ kept
    exact wanted (of_decide_eq_true kept).1

theorem block_raw (raw : h.type = .raw) (kept : Option String) (a : SocketAddr) :
    r.block port kept h (r.configured h) a =
      if (h.Admits a.family ∧ r.usable h a.family = true) ∧ h.protocol = .any then
        [⟨a.family, entryAddress port kept a, ⟨a.family, .raw, .any⟩⟩]
      else [] := by
  rw [block_eq, Hints.offers_raw raw]
  by_cases wanted : h.Admits a.family ∧ r.usable h a.family = true
  · by_cases unnamed : h.protocol = .any <;> simp [wanted, unnamed]
  · simp [wanted]

/-- The addresses that a request for raw sockets has an entry for. -/
def rawAddresses (addresses : List SocketAddr) : List SocketAddr :=
  if h.protocol = .any then
    addresses.filter fun a => h.Admits a.family ∧ r.usable h a.family = true
  else []

theorem raw_entries (raw : h.type = .raw) (addresses : List SocketAddr) :
    List.Forall₂ (fun a => Resolved.IsFor t (some name) port a ⟨a.family, .raw, .any⟩)
      (r.rawAddresses h addresses)
      (addresses.flatMap (r.block port (keptName t (some name)) h (r.configured h))) := by
  have isFor := isFor_entryAddress t (some name) port
  induction addresses with
  | nil => unfold rawAddresses; split <;> exact .nil
  | cons a addresses ih =>
    rw [List.flatMap_cons, r.block_raw port h raw]
    unfold rawAddresses at ih ⊢
    by_cases unnamed : h.protocol = .any
    · rw [if_pos unnamed] at ih ⊢
      by_cases wanted : h.Admits a.family ∧ r.usable h a.family = true
      · rw [List.filter_cons_of_pos (by simpa using wanted), if_pos ⟨wanted, unnamed⟩]
        exact .cons (isFor a _) ih
      · rw [List.filter_cons_of_neg (by simpa using wanted), if_neg fun both => wanted both.1]
        exact ih
    · rw [if_neg unnamed] at ih ⊢
      rw [if_neg fun both => unnamed both.2]
      exact ih

/-- A named host is looked up once, and its addresses become blocks. -/
theorem resolve_some (valid : h.error? port = none) :
    (r.resolve t (some name) port h).result =
      match r.service.lookup name with
      | .error text => .error (.lookup text)
      | .ok found =>
        .ok (found.flatMap (r.block port (keptName t (some name)) h (r.configured h))) := by
  simp only [resolve, LiveService.resolve_of_served valid, candidates, LiveService.lookupAll]
  cases r.service.lookup name with
  | error text => rfl
  | ok found =>
    simp only [Except.map, List.append_nil]
    rfl

end Resolver

/-- Hints narrow the resolution of a named host and do nothing else to it. Whether it fails, and
with which text, is for the name alone. If raw sockets are not asked for, the candidates are those
that the default hints give, in the same order, less those of another family, of a family that no
interface has where that counts, of another type or of another protocol. Whether a missing host
would be any local address makes no difference. A request for raw sockets is for no port; it gives
each address that is kept one entry, or none at all if it names a protocol. -/
theorem hints_filter_candidates (r : Resolver) (t : Interfaces) (name : String) (port : UInt16)
    (h : Hints) (valid : h.error? port = none) :
    let wide := (r.resolve t (some name) port {}).result
    let narrow := (r.resolve t (some name) port h).result
    (∀ e, narrow = .error e ↔ wide = .error e) ∧
    (∀ e, wide = .error e → ∃ text, e = .lookup text) ∧
    (h.type ≠ .raw → ∀ all, wide = .ok all → narrow = .ok (all.filter (r.keeps h ·))) ∧
    (∀ passive, r.resolve t (some name) port { h with flags := { h.flags with passive } } =
      r.resolve t (some name) port h) ∧
    (h.type = .raw → port = 0 ∧ ∀ addresses, r.service.lookup name = .ok addresses →
      ∃ entries, narrow = .ok entries ∧
        List.Forall₂ (fun a => Resolved.IsFor t (some name) 0 a ⟨a.family, .raw, .any⟩)
          (r.rawAddresses h addresses) entries) := by
  intro wide narrow
  have wideIs : wide = _ := r.resolve_some t name port {} rfl
  have narrowIs : narrow = _ := r.resolve_some t name port h valid
  refine ⟨fun e => ?_, fun e failed => ?_, fun cooked all answered => ?_, fun passive => rfl,
    fun raw => ?_⟩
  · rw [wideIs, narrowIs]
    cases r.service.lookup name with
    | error text => exact Iff.rfl
    | ok addresses => exact ⟨nofun, nofun⟩
  · rw [wideIs] at failed
    cases looked : r.service.lookup name with
    | error text =>
      rw [looked] at failed
      exact ⟨text, (Except.error.inj failed).symm⟩
    | ok addresses =>
      rw [looked] at failed
      cases failed
  · rw [wideIs] at answered
    rw [narrowIs]
    cases looked : r.service.lookup name with
    | error text =>
      rw [looked] at answered
      cases answered
    | ok addresses =>
      rw [looked] at answered
      have blocks := funext (r.block_eq_filter port h cooked (Resolver.keptName t (some name)))
      rw [← Except.ok.inj answered, List.filter_flatMap, ← blocks]
  · obtain rfl := Hints.port_of_raw valid raw
    refine ⟨rfl, fun addresses looked => ?_⟩
    rw [narrowIs, looked]
    exact ⟨_, rfl, r.raw_entries t name 0 h raw addresses⟩

/-- On a host that has IPv6 addresses only, a request for streams keeps two of six candidates. -/
theorem hints_filter_candidates_of_dual_host :
    let r : Resolver := ⟨⟨true⟩, dualService⟩
    let h : Hints := { type := .stream, flags := { addrconfig := true } }
    h.error? 80 = none ∧ ∃ all, (r.resolve {} (some "dual.test") 80 {}).result = .ok all ∧
      (r.resolve {} (some "dual.test") 80 h).result = .ok (all.filter (r.keeps h ·)) ∧
      all.length = 6 ∧ (all.filter (r.keeps h ·)).length = 2 := by
  intro r h
  have valid : h.error? 80 = none := by decide
  obtain ⟨-, -, filtered, -⟩ := hints_filter_candidates r {} "dual.test" 80 h valid
  cases wide : (r.resolve {} (some "dual.test") 80 {}).result with
  | error e =>
    have answered : (r.resolve {} (some "dual.test") 80 {}).result.isOk = true := by
      decide +kernel
    rw [wide] at answered
    cases answered
  | ok all =>
    have narrow := filtered (by decide) all wide
    have lengths : (r.resolve {} (some "dual.test") 80 {}).result.map List.length = .ok 6 ∧
        (r.resolve {} (some "dual.test") 80 h).result.map List.length = .ok 2 := by
      decide +kernel
    rw [wide, narrow] at lengths
    exact ⟨valid, all, rfl, narrow, Except.ok.inj lengths.1, Except.ok.inj lengths.2⟩

end SocketBridge
