import SocketBridge.Proofs.Resolve.Calls

/-!
# The preferred family

Which IP family is preferred decides about one thing only: in which order the literals of both
families are looked up for a missing host when the hints leave the family open. The order of the
solution table does not show, since the candidates of an address are of its own family.
-/

namespace SocketBridge

namespace Resolver

variable (table table' : SolutionTable) (service : NameService) (port : UInt16) (h : Hints)

/-- The candidates of an address do not hang on the order of the table. -/
theorem block_of_table (kept : Option String) :
    block ⟨table, service⟩ port kept h (configured ⟨table, service⟩ h) =
      block ⟨table', service⟩ port kept h (configured ⟨table', service⟩ h) := by
  funext a
  rw [block_eq, block_eq]
  rfl

/-- Only a missing host of an open family stands for names in an order. -/
theorem candidates_of_table {host : Option String} (fixed : host ≠ none ∨ h.family ≠ .unspec) :
    candidates ⟨table, service⟩ host h = candidates ⟨table', service⟩ host h := by
  cases host with
  | some name => rfl
  | none =>
    have given : h.family ≠ .unspec := fixed.resolve_left fun missing => missing rfl
    simp only [candidates, if_neg given]
    cases table.preferIpv4 <;> cases table'.preferIpv4 <;> cases h.family <;> rfl

theorem keptName_ownLiteral (t : Interfaces) (passive : Bool) (family : Family) :
    keptName t (some (ownLiteral passive family)) = none := by
  cases passive <;> cases family <;> rfl

end Resolver

theorem flatMap_filter {α β : Type} (p : α → Bool) (f : α → List β) (l : List α) :
    (l.filter p).flatMap f = l.flatMap fun a => if p a then f a else [] := by
  induction l with
  | nil => rfl
  | cons a l ih => cases kept : p a <;> simp [kept, ih]

namespace LiveService

variable {s : LiveService}

variable (s) (t : Interfaces) (port : UInt16) (h : Hints)

/-- What the candidates of some addresses are if the host is missing or a literal. -/
def share (answers : List SocketAddr) : List Resolved :=
  let r : Resolver := ⟨⟨true⟩, s []⟩
  answers.flatMap (r.block port none h (r.configured h))

variable {s t port h}

/-- A request for literals is answered with what each of them stands for. -/
theorem resolve_literals {preferIpv4 : Bool} {host : Option String} {families : List Family}
    {answers : Family → List SocketAddr} (valid : h.error? port = none)
    (unnamed : Resolver.keptName t host = none)
    (names : Resolver.candidates ⟨⟨preferIpv4⟩, s []⟩ host h =
      families.map (Resolver.ownLiteral h.flags.passive))
    (answered : ∀ f ∈ families, ∀ past,
      (s past).lookup (Resolver.ownLiteral h.flags.passive f) = .ok (answers f)) :
    s.resolve ⟨preferIpv4⟩ t host port h =
      ⟨h.scan ++ families.map fun f => .lookup (Resolver.ownLiteral h.flags.passive f),
        .ok (families.flatMap fun f => s.share port h (answers f))⟩ := by
  rw [resolve_of_served valid]
  simp only [names, lookupAll_of_answers answered, unnamed, Except.map, Except.mapError,
    List.flatMap_assoc]
  rw [Resolver.block_of_table _ ⟨true⟩]
  rfl

end LiveService

/-- Whatever a name service answers. Which family is preferred makes no difference to a resolution
of a host that is there, nor to one for a family that the hints give: neither to what comes of it
nor to the calls. For a missing host of an open family each family that can be used has one block,
which is what its literal gives as a host, and one that cannot be used has none. If the literals are
found, the blocks are joined with the preferred one first, and they are looked up in the same order,
those that can be used and no others. -/
theorem preference_orders_blocks (s : LiveService) (t : Interfaces) (port : UInt16) (h : Hints)
    (valid : h.error? port = none) :
    let resolve (preferIpv4 : Bool) (host : Option String) := s.resolve ⟨preferIpv4⟩ t host port h
    (∀ service, s = (fun _ => service) → ∀ preferIpv4 host,
      Resolver.resolve ⟨⟨preferIpv4⟩, service⟩ t host port h = resolve preferIpv4 host) ∧
    (∀ host, host ≠ none ∨ h.family ≠ .unspec → resolve true host = resolve false host) ∧
    (h.family = .unspec →
      let usable := Resolver.usable ⟨⟨true⟩, s []⟩ h
      let literal := Resolver.ownLiteral h.flags.passive
      ∀ answers : Family → List SocketAddr,
        (∀ f ∈ [Family.inet, .inet6], usable f = true →
          ∀ past, (s past).lookup (literal f) = .ok (answers f)) →
        ∃ block : Family → List Resolved,
          (∀ f ∈ [Family.inet, .inet6],
            (usable f = true → ∀ preferIpv4,
              (resolve preferIpv4 (some (literal f))).result = .ok (block f)) ∧
            (usable f = false → block f = [])) ∧
          ∀ preferIpv4,
            let order := if preferIpv4 then [Family.inet, .inet6] else [.inet6, .inet]
            resolve preferIpv4 none =
              ⟨h.scan ++ (order.filter usable).map fun f => .lookup (literal f),
                .ok (order.flatMap block)⟩) := by
  intro resolve
  refine ⟨?_, fun host fixed => ?_, fun opened => ?_⟩
  · rintro service rfl preferIpv4 host
    rfl
  · have names := Resolver.candidates_of_table ⟨true⟩ ⟨false⟩ (s []) h fixed
    have block := Resolver.block_of_table ⟨true⟩ ⟨false⟩ (s []) port h (Resolver.keptName t host)
    simp only [resolve, LiveService.resolve_of_served valid, names, block]
  · intro usable literal answers answered
    let block (f : Family) := if usable f then s.share port h (answers f) else []
    refine ⟨block, fun f ip => ⟨fun can preferIpv4 => ?_, fun cannot => ?_⟩, fun preferIpv4 => ?_⟩
    · have found : s.resolve ⟨preferIpv4⟩ t (some (literal f)) port h =
          ⟨h.scan ++ [f].map fun f => .lookup (literal f),
            .ok ([f].flatMap fun f => s.share port h (answers f))⟩ :=
        LiveService.resolve_literals valid (Resolver.keptName_ownLiteral t _ f) rfl
          fun g own => List.mem_singleton.mp own ▸ answered f ip can
      simp only [resolve, found, block, can, List.flatMap_singleton, if_true]
    · simp only [block, cannot, Bool.false_eq_true, if_false]
    · intro order
      have ip {f : Family} (ordered : f ∈ order) : f ∈ [Family.inet, .inet6] := by
        cases preferIpv4 with
        | true => exact ordered
        | false => exact (List.Perm.swap ..).subset ordered
      have names : Resolver.candidates ⟨⟨preferIpv4⟩, s []⟩ none h =
          (order.filter usable).map literal := by
        simp only [Resolver.candidates, opened]
        rfl
      have found : resolve preferIpv4 none = _ := LiveService.resolve_literals valid rfl names
        fun f wanted => answered f (ip (List.mem_of_mem_filter wanted)) (List.of_mem_filter wanted)
      exact found.trans (by rw [flatMap_filter])

/-- A host that knows no names; its interfaces have addresses of both families. -/
def dualHost : Host := { addresses := some [some .inet, some .inet6] }

/-- For streams each family has one candidate, and the preferred one stands first. -/
theorem preference_orders_blocks_of_loopback :
    let s : LiveService := fun _ => dualHost.service
    let h : Hints := { type := .stream, flags := { addrconfig := true } }
    h.error? 80 = none ∧ ∃ v4 v6 : Resolved, v4.family = .inet ∧ v6.family = .inet6 ∧
      (s.resolve ⟨true⟩ {} none 80 h).result = .ok [v4, v6] ∧
      (s.resolve ⟨false⟩ {} none 80 h).result = .ok [v6, v4] := by
  intro s h
  have valid : h.error? 80 = none := by decide
  obtain ⟨-, -, opened⟩ := preference_orders_blocks s {} 80 h valid
  have answered : ∀ f ∈ [Family.inet, .inet6],
      dualHost.service.lookup (Resolver.ownLiteral false f) =
        .ok (literalAnswer? {} (Resolver.ownLiteral false f)).toList := by decide +kernel
  obtain ⟨block, own, joined⟩ := opened rfl _ fun f ip _ _ => answered f ip
  have own4 : (s.resolve ⟨true⟩ {} (some "127.0.0.1") 80 h).result = .ok (block .inet) :=
    (own .inet (by decide)).1 (by decide) true
  have own6 : (s.resolve ⟨true⟩ {} (some "::1") 80 h).result = .ok (block .inet6) :=
    (own .inet6 (by decide)).1 (by decide) true
  have known4 : (s.resolve ⟨true⟩ {} (some "127.0.0.1") 80 h).result.map
      (List.map Resolved.family) = .ok [.inet] := by decide +kernel
  have known6 : (s.resolve ⟨true⟩ {} (some "::1") 80 h).result.map
      (List.map Resolved.family) = .ok [.inet6] := by decide +kernel
  rw [own4] at known4
  rw [own6] at known6
  obtain ⟨v4, block4, family4⟩ := List.map_eq_singleton_iff.mp (Except.ok.inj known4)
  obtain ⟨v6, block6, family6⟩ := List.map_eq_singleton_iff.mp (Except.ok.inj known6)
  have first4 : [Family.inet, .inet6].flatMap block = [v4, v6] := by simp [block4, block6]
  have first6 : [Family.inet6, .inet].flatMap block = [v6, v4] := by simp [block4, block6]
  refine ⟨valid, v4, v6, family4, family6, ?_, ?_⟩
  · exact (congrArg Resolution.result (joined true)).trans (congrArg Except.ok first4)
  · exact (congrArg Resolution.result (joined false)).trans (congrArg Except.ok first6)

end SocketBridge
