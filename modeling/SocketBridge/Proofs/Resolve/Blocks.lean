import Mathlib.Data.List.Forall2
import SocketBridge.Resolve.Resolver

/-!
# The candidates of a resolution

A resolution looks up one name, or a literal for each family that comes into question. Each address
that was found stands for a block of candidates, and the blocks are joined in the order of lookup.
What is in a block is said here from the hints, the address and the request alone.
-/

namespace SocketBridge

/-- The zone that a socket address bears, zero standing for none. -/
def SocketAddr.zone? : SocketAddr → Option UInt32
  | v4 .. => none
  | v6 _ _ _ scope => if scope = 0 then none else some scope

theorem SocketAddr.family_cases (a : SocketAddr) : a.family = .inet ∨ a.family = .inet6 := by
  cases a with
  | v4 => exact Or.inl rfl
  | v6 => exact Or.inr rfl

namespace Hints

/-- Whether hints leave a family in. -/
def Admits (h : Hints) (family : Family) : Prop := h.family = .unspec ∨ h.family = family

instance (h : Hints) (family : Family) : Decidable (h.Admits family) :=
  inferInstanceAs (Decidable (_ ∨ _))

/-- What a family offers to hints: datagrams before streams before raw sockets. Raw sockets have to
be asked for, and no protocol names them. -/
def offers (h : Hints) (family : Family) : List Solution :=
  (if (h.type = .any ∨ h.type = .dgram) ∧ (h.protocol = .any ∨ h.protocol = .udp)
    then [⟨family, .dgram, .udp⟩] else []) ++
  (if (h.type = .any ∨ h.type = .stream) ∧ (h.protocol = .any ∨ h.protocol = .tcp)
    then [⟨family, .stream, .tcp⟩] else []) ++
  if h.type = .raw ∧ h.protocol = .any then [⟨family, .raw, .any⟩] else []

theorem family_of_offers {h : Hints} {family : Family} {s : Solution}
    (offered : s ∈ h.offers family) : s.family = family := by
  unfold offers at offered
  rcases List.mem_append.mp offered with offered | offered
  · rcases List.mem_append.mp offered with offered | offered
    · split at offered
      · rw [List.mem_singleton.mp offered]
      · cases offered
    · split at offered
      · rw [List.mem_singleton.mp offered]
      · cases offered
  · split at offered
    · rw [List.mem_singleton.mp offered]
    · cases offered

end Hints

namespace SolutionTable

/-- A table has each IP family once. -/
theorem filter_solutions (t : SolutionTable) {family : Family}
    (ip : family = .inet ∨ family = .inet6) :
    t.solutions.filter (·.family == family) = Solution.ofFamily family := by
  unfold solutions families
  rcases ip with rfl | rfl <;> cases t.preferIpv4 <;> rfl

/-- Of what a table has for a request, the part of one family is what that family offers. -/
theorem filter_findAll (t : SolutionTable) (h : Hints) {family : Family}
    (ip : family = .inet ∨ family = .inet6) (admitted : h.Admits family) :
    (t.findAll h.family h.type h.protocol).filter (·.family == family) = h.offers family := by
  have wanted : (h.family == .unspec || h.family == family) = true := by
    simpa [Hints.Admits] using admitted
  have order : (t.findAll h.family h.type h.protocol).filter (·.family == family) =
      (t.solutions.filter (·.family == family)).filter
        (·.accepts h.family h.type h.protocol) := by
    rw [findAll, List.filter_filter, List.filter_filter]
    exact List.filter_congr fun s _ => Bool.and_comm ..
  rw [order, t.filter_solutions ip]
  simp only [Solution.ofFamily, Solution.accepts, List.filter_cons, List.filter_nil, wanted,
    Hints.offers]
  cases h.type <;> cases h.protocol <;> rfl

/-- What a family offers is what a table has of it that accepts the hints. -/
theorem mem_offers_iff (t : SolutionTable) (h : Hints) {family : Family} {s : Solution}
    (ip : family = .inet ∨ family = .inet6) (admitted : h.Admits family) :
    s ∈ h.offers family ↔
      s ∈ t.solutions ∧ s.family = family ∧ s.accepts h.family h.type h.protocol = true := by
  rw [← t.filter_findAll h ip admitted, findAll, List.mem_filter, List.mem_filter, beq_iff_eq,
    and_right_comm, and_assoc]

end SolutionTable

/-- A literal: a text that is an address by itself. -/
def IsLiteral (t : Interfaces) (name : String) : Prop := ∃ a, Address.ofLiteral t name 0 = .ok a

/-- What a candidate says of the address that was found and of the solution. It bears the name that
was asked for, unless that is empty or an address itself. -/
structure Resolved.IsFor (t : Interfaces) (host : Option String) (port : UInt16) (a : SocketAddr)
    (s : Solution) (e : Resolved) : Prop where
  family : e.family = a.family
  solution : e.solution = s
  ip : e.address.ip = a.ip
  zone : e.address.scope = a.zone?
  port : e.address.port = port
  name : ∀ name, e.address.hostname = some name ↔
    host = some name ∧ name ≠ "" ∧ ¬IsLiteral t name

/-- The address and the solution leave nothing open in a candidate. -/
theorem Resolved.IsFor.unique {t : Interfaces} {host : Option String} {port : UInt16}
    {a : SocketAddr} : Relator.RightUnique (Resolved.IsFor t host port a) := by
  rintro s ⟨family, ⟨ip, _, scope, hostname, _, _, _⟩, solution⟩
    ⟨family', ⟨ip', _, scope', hostname', _, _, _⟩, solution'⟩ e e'
  obtain rfl : family = family' := e.family.trans e'.family.symm
  obtain rfl : solution = solution' := e.solution.trans e'.solution.symm
  obtain rfl : ip = ip' := e.ip.trans e'.ip.symm
  obtain rfl : scope = scope' := e.zone.trans e'.zone.symm
  obtain rfl : hostname = hostname' :=
    Option.ext fun name => (e.name name).trans (e'.name name).symm
  obtain rfl := e.port
  obtain rfl := e'.port
  rfl

namespace Resolver

variable (r : Resolver) (t : Interfaces) (host : Option String) (port : UInt16) (h : Hints)

/-- Whether addresses of a family can be used. If interfaces count, one of them has to bear such an
address; a failed scan finds none. -/
def usable (family : Family) : Bool :=
  !h.flags.addrconfig || match r.service.localFamilies with
    | .ok configured => configured.has family
    | .error _ => false

/-- The literal that stands for a missing host. -/
def ownLiteral (passive : Bool) : Family → String
  | .inet6 => if passive then "::" else "::1"
  | _ => if passive then "0.0.0.0" else "127.0.0.1"

/-- The names to look up. A missing host is looked up once for the family of the hints or, if they
leave it open, for each family that can be used, the preferred one first. -/
def candidates : List String :=
  match host with
  | some name => [name]
  | none =>
    let preferred : List Family := if r.table.preferIpv4 then [.inet, .inet6] else [.inet6, .inet]
    let families := preferred.filter fun family =>
      if h.family = .unspec then r.usable h family else h.family = family
    families.map (ownLiteral h.flags.passive)

/-- The candidates of one address: none if the hints leave its family out or it cannot be used,
else one for each solution that the family offers, in order. -/
inductive IsBlock (a : SocketAddr) : List Resolved → Prop
  | leftOut (refused : ¬(h.Admits a.family ∧ r.usable h a.family = true)) : IsBlock a []
  | kept (admitted : h.Admits a.family) (usable : r.usable h a.family = true)
      (block : List Resolved)
      (entries : List.Forall₂ (Resolved.IsFor t host port a) (h.offers a.family) block) :
    IsBlock a block

theorem IsBlock.unique : Relator.RightUnique (r.IsBlock t host port h) := by
  intro a block block' this that
  cases this with
  | leftOut refused =>
    cases that with
    | leftOut => rfl
    | kept admitted usable => exact absurd ⟨admitted, usable⟩ refused
  | kept admitted usable _ entries =>
    cases that with
    | leftOut refused => exact absurd ⟨admitted, usable⟩ refused
    | kept _ _ _ entries' => exact Resolved.IsFor.unique.forall₂ entries entries'

theorem has_configured {family : Family} (ip : family = .inet ∨ family = .inet6) :
    (r.configured h).has family = r.usable h family := by
  unfold configured usable
  cases h.flags.addrconfig with
  | false => rcases ip with rfl | rfl <;> rfl
  | true => cases r.service.localFamilies <;> rcases ip with rfl | rfl <;> rfl

theorem names_eq_candidates (ip : h.family ≠ .unix) :
    r.names host h (r.configured h) = r.candidates host h := by
  have inet := r.has_configured h (Or.inl rfl)
  have inet6 := r.has_configured h (Or.inr rfl)
  cases host with
  | some name => rfl
  | none =>
    unfold names candidates SolutionTable.families
    cases family : h.family with
    | unspec =>
      cases r.table.preferIpv4 <;> cases usable : r.usable h .inet <;>
        cases usable6 : r.usable h .inet6 <;>
          simp [inet, inet6, usable, usable6, Family.isUnspec, Family.localLiteral?,
            Family.layout?, ownLiteral]
    | inet | inet6 =>
      cases r.table.preferIpv4 <;>
        simp [Family.isUnspec, Family.localLiteral?, Family.layout?, ownLiteral]
    | unix => exact absurd family ip

theorem keptName_eq_some_iff {name : String} :
    keptName t host = some name ↔ host = some name ∧ ¬IsLiteral t name := by
  rw [keptName, Option.filter_eq_some_iff]
  refine and_congr_right fun _ => ?_
  cases literal : Address.ofLiteral t name 0 with
  | ok a => simpa using ⟨a, literal⟩
  | error e => simp [IsLiteral, literal]

/-- The address of a candidate, with the name if there is one to keep. -/
def entryAddress (kept : Option String) (a : SocketAddr) : Address :=
  let address := (Address.ofSocketAddr a).withPort port
  match kept with
  | some name => address.withHostname name
  | none => address

theorem isFor_entryAddress (a : SocketAddr) (s : Solution) :
    Resolved.IsFor t host port a s ⟨a.family, entryAddress port (keptName t host) a, s⟩ := by
  have bare : (Address.ofSocketAddr a).ip = a.ip ∧ (Address.ofSocketAddr a).scope = a.zone? ∧
      (Address.ofSocketAddr a).hostname = none := by
    cases a <;> exact ⟨rfl, rfl, rfl⟩
  obtain ⟨ip, zone, unnamed⟩ := bare
  cases kept : keptName t host with
  | none =>
    refine ⟨rfl, rfl, ip, zone, rfl, fun name => ⟨fun named => ?_, fun ⟨asked, _, strange⟩ => ?_⟩⟩
    · exact nomatch unnamed.symm.trans named
    · exact nomatch kept.symm.trans ((keptName_eq_some_iff t host).mpr ⟨asked, strange⟩)
  | some own =>
    obtain ⟨rfl, strange⟩ := (keptName_eq_some_iff t host).mp kept
    refine ⟨rfl, rfl, ip, zone, rfl, fun name => ?_⟩
    by_cases empty : own = ""
    · simp only [entryAddress, Address.withHostname, if_pos empty]
      refine ⟨nofun, fun ⟨asked, nonempty, _⟩ => ?_⟩
      exact absurd (Option.some.inj asked ▸ empty) nonempty
    · simp only [entryAddress, Address.withHostname, if_neg empty]
      refine ⟨fun named => ⟨named, ?_⟩, fun ⟨asked, _⟩ => asked⟩
      rw [← Option.some.inj named]
      exact ⟨empty, strange⟩

/-- A block bears the address once for each solution that its family offers. -/
theorem block_eq (kept : Option String) (a : SocketAddr) :
    r.block port kept h (r.configured h) a =
      if h.Admits a.family ∧ r.usable h a.family = true then
        (h.offers a.family).map fun s => ⟨a.family, entryAddress port kept a, s⟩
      else [] := by
  have usable := r.has_configured h a.family_cases
  have wanted : (h.family.isUnspec || h.family == a.family) = decide (h.Admits a.family) := by
    rw [Bool.eq_iff_iff, decide_eq_true_iff]
    simp [Hints.Admits, Family.isUnspec]
  by_cases admitted : h.Admits a.family
  · simp only [block, usable, wanted, admitted, decide_true, Bool.true_and, true_and,
      r.table.filter_findAll h a.family_cases admitted]
    rfl
  · simp only [block, wanted, admitted, decide_false, Bool.false_and, Bool.false_eq_true, false_and,
      if_false]

theorem isBlock_block (a : SocketAddr) :
    r.IsBlock t host port h a (r.block port (keptName t host) h (r.configured h) a) := by
  rw [block_eq]
  by_cases kept : h.Admits a.family ∧ r.usable h a.family = true
  · rw [if_pos kept]
    refine .kept kept.1 kept.2 _ ?_
    rw [List.forall₂_map_right_iff, List.forall₂_same]
    exact fun s _ => isFor_entryAddress t host port a s
  · rw [if_neg kept]
    exact .leftOut kept

end Resolver

namespace LiveService

variable {s : LiveService} {table : SolutionTable} {t : Interfaces} {host : Option String}
  {port : UInt16} {h : Hints}

/-- Looking up goes on as long as there are answers. -/
theorem lookupAll_of_answers {β : Type} {keys : List β} {f : β → String}
    {answers : β → List SocketAddr}
    (answered : ∀ k ∈ keys, ∀ past, (s past).lookup (f k) = .ok (answers k))
    (past : List ServiceCall) :
    s.lookupAll past (keys.map f) =
      (past ++ keys.map fun k => .lookup (f k), .ok (keys.flatMap answers)) := by
  induction keys generalizing past with
  | nil => simp [lookupAll]
  | cons k keys ih =>
    obtain ⟨here, there⟩ := List.forall_mem_cons.mp answered
    simp [lookupAll, here past, ih there, Except.map]

/-- What comes of the lookups of a request that is served. -/
theorem resolve_of_served (served : h.error? port = none) :
    s.resolve table t host port h =
      let r : Resolver := ⟨table, s []⟩
      let (calls, found) := s.lookupAll h.scan (r.candidates host h)
      let blocks := found.map
        (·.flatMap (r.block port (Resolver.keptName t host) h (r.configured h)))
      ⟨calls, blocks.mapError .lookup⟩ := by
  have ip : h.family ≠ .unix := by
    intro unix
    rw [Hints.error?, if_pos unix] at served
    cases served
  simp only [resolve, served, Resolver.names_eq_candidates _ host h ip]

end LiveService

namespace Resolver

variable {r : Resolver} {t : Interfaces} {host : Option String} {port : UInt16} {h : Hints}

theorem resolve_of_answers {answers : String → List SocketAddr} (valid : h.error? port = none)
    (answered : ∀ name ∈ r.candidates host h, r.service.lookup name = .ok (answers name)) :
    (r.resolve t host port h).result = .ok (((r.candidates host h).flatMap answers).flatMap
      (r.block port (keptName t host) h (r.configured h))) := by
  have found := LiveService.lookupAll_of_answers (f := id) (s := fun _ => r.service)
    (fun name asked _ => answered name asked) h.scan
  rw [List.map_id] at found
  rw [resolve, LiveService.resolve_of_served valid]
  simp only [found]
  rfl

/-- A candidate of a block is of the family of its address, and its solution is too. -/
theorem IsBlock.family {a : SocketAddr} {block : List Resolved}
    (isBlock : r.IsBlock t host port h a block) {e : Resolved} (member : e ∈ block) :
    e.family = e.address.family ∧ e.address.family = e.solution.family := by
  cases isBlock with
  | leftOut => cases member
  | kept admitted usable _ entries =>
    obtain ⟨i, bound, rfl⟩ := List.getElem_of_mem member
    have offered := entries.length_eq ▸ bound
    have isFor := entries.get offered bound
    have own := Hints.family_of_offers (List.getElem_mem offered)
    have address := congrArg Ip.family isFor.ip
    refine ⟨isFor.family.trans address.symm, address.trans ?_⟩
    rw [List.get_eq_getElem, List.get_eq_getElem] at isFor
    rw [isFor.solution, own]
    rfl

end Resolver

/-- Whatever the service answers, as long as it answers: a resolution that is not refused gives one
block of candidates for each address that was found, in the order in which names are looked up and
the service answers, with nothing between them. The address, the hints and the request leave nothing
open in a block. All its entries are of the family of their address and of a solution of that
family, and what the family offers is what the table has of it that accepts the hints. -/
theorem resolve_gives_blocks (r : Resolver) (t : Interfaces) (host : Option String)
    (port : UInt16) (h : Hints) (answers : String → List SocketAddr)
    (valid : h.error? port = none)
    (answered : ∀ name ∈ r.candidates host h, r.service.lookup name = .ok (answers name)) :
    let addresses := (r.candidates host h).flatMap answers
    ∃ blocks : List (List Resolved),
      (r.resolve t host port h).result = .ok blocks.flatten ∧
      List.Forall₂ (r.IsBlock t host port h) addresses blocks ∧
      (∀ others, List.Forall₂ (r.IsBlock t host port h) addresses others → others = blocks) ∧
      (∀ e ∈ blocks.flatten, e.family = e.address.family ∧
        e.address.family = e.solution.family) ∧
      ∀ a ∈ addresses, h.Admits a.family → ∀ s, s ∈ h.offers a.family ↔
        s ∈ r.table.solutions ∧ s.family = a.family ∧
          s.accepts h.family h.type h.protocol = true := by
  intro addresses
  have isBlock := r.isBlock_block t host port h
  have blocks : List.Forall₂ (r.IsBlock t host port h) addresses
      (addresses.map (r.block port (Resolver.keptName t host) h (r.configured h))) := by
    rw [List.forall₂_map_right_iff, List.forall₂_same]
    exact fun a _ => isBlock a
  refine ⟨_, ?_, blocks, ?_, ?_, ?_⟩
  · rw [Resolver.resolve_of_answers valid answered, List.flatMap]
  · exact fun others isOther => (Resolver.IsBlock.unique r t host port h).forall₂ isOther blocks
  · intro e member
    obtain ⟨block, inside, member⟩ := List.mem_flatten.mp member
    obtain ⟨a, -, rfl⟩ := List.mem_map.mp inside
    exact (isBlock a).family member
  · exact fun a _ admitted s => r.table.mem_offers_iff h a.family_cases admitted

/-- Addresses of both families, one of them twice. -/
def dualAnswers : List SocketAddr :=
  let far := .v6 ⟨List.replicate 16 0xFD, rfl⟩ 9 0 3
  [far, .v4 ⟨[192, 0, 2, 7], rfl⟩ 7, far]

/-- One name is known, on a host whose interfaces have IPv6 addresses only. -/
def dualService : NameService where
  lookup name := if name = "dual.test" then .ok dualAnswers else .error "no such host"
  localFamilies := .ok ⟨false, true⟩

theorem resolve_gives_blocks_of_dual_host :
    let r : Resolver := ⟨⟨true⟩, dualService⟩
    let h : Hints := { flags := { addrconfig := true } }
    let host := some "dual.test"
    (h.error? 80 = none ∧ ∀ name ∈ r.candidates host h, r.service.lookup name = .ok dualAnswers) ∧
      ∃ blocks : List (List Resolved),
        (r.resolve {} host 80 h).result = .ok blocks.flatten ∧
        List.Forall₂ (r.IsBlock {} host 80 h) dualAnswers blocks ∧ blocks.flatten.length = 4 := by
  intro r h host
  have valid : h.error? 80 = none := by decide
  have answered : ∀ name ∈ r.candidates host h, r.service.lookup name = .ok dualAnswers := by
    intro name asked
    obtain rfl : name = "dual.test" := List.mem_singleton.mp asked
    rfl
  obtain ⟨blocks, result, isBlocks, -⟩ :=
    resolve_gives_blocks r {} host 80 h (fun _ => dualAnswers) valid answered
  refine ⟨⟨valid, answered⟩, blocks, result, isBlocks, ?_⟩
  have four : (r.resolve {} host 80 h).result.map List.length = .ok 4 := by
    decide +kernel
  rw [result] at four
  exact Except.ok.inj four

end SocketBridge
