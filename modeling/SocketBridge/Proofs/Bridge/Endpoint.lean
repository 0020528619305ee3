import SocketBridge.Bridge.Endpoint
import SocketBridge.Proofs.Bridge.Connects
import SocketBridge.Proofs.Fallible
import SocketBridge.Proofs.Kind
import SocketBridge.Proofs.Resolve.Blocks

/-!
# Requests and what satisfies them

Two rules say what satisfies a request: the one of endpoints, by codes, and the one of the solution
table, which has an exception for raw sockets. On streams they agree. So what was opened for a
candidate satisfies the requests that the candidate was found for.
-/

namespace SocketBridge

open Enumeration

/-! ## Two rules for requests -/

theorem Hints.ofCodes_eq_ok_iff {family type protocol : Int32} {flags : UInt32} {h : Hints} :
    ofCodes family type protocol flags = .ok h ↔
      ofCode Family family = .ok h.family ∧ ofCode SocketType type = .ok h.type ∧
        ofCode Protocol protocol = .ok h.protocol ∧ h.flags = .ofBits flags := by
  unfold ofCodes
  constructor
  · intro done
    obtain ⟨f, first, done⟩ := bind_eq_ok done
    obtain ⟨t, second, done⟩ := bind_eq_ok done
    obtain ⟨p, third, done⟩ := bind_eq_ok done
    cases done
    exact ⟨first, second, third, rfl⟩
  · rintro ⟨first, second, third, flags⟩
    rw [first, second, third, ← flags]
    rfl

/-- Streams are not raw, so the wildcard type is for them. -/
theorem accepts_streamSolution_iff (near : SocketAddr) {f : Family} {t : SocketType}
    {p : Protocol} :
    (streamSolution near).accepts f t p = true ↔
      (f = wildcard ∨ f = near.family) ∧ (t = wildcard ∨ t = .stream) ∧
        (p = wildcard ∨ p = .tcp) := by
  simp [Solution.accepts, streamSolution, wildcard, and_assoc]

theorem endpointAccepts_iff (near : SocketAddr) {family type protocol : Int32} (flags : UInt32) :
    endpointAccepts near family type protocol = true ↔
      ∃ h, Hints.ofCodes family type protocol flags = .ok h ∧
        (streamSolution near).accepts h.family h.type h.protocol = true := by
  simp only [endpointAccepts, Bool.and_eq_true, satisfies_code_iff, accepts_streamSolution_iff,
    Hints.ofCodes_eq_ok_iff]
  constructor
  · rintro ⟨⟨⟨f, first, family⟩, t, second, type⟩, p, third, protocol⟩
    exact ⟨⟨f, t, p, .ofBits flags⟩, ⟨first, second, third, rfl⟩, family, type, protocol⟩
  · rintro ⟨h, ⟨first, second, third, -⟩, family, type, protocol⟩
    exact ⟨⟨⟨_, first, family⟩, _, second, type⟩, _, third, protocol⟩

/-- A code of nobody is not among hints. -/
theorem Hints.known_of_ofCodes {family type protocol : Int32} {flags : UInt32} {h : Hints}
    (known : ofCodes family type protocol flags = .ok h) :
    h.family.code = family ∧ h.type.code = type ∧ h.protocol.code = protocol := by
  obtain ⟨first, second, third, -⟩ := ofCodes_eq_ok_iff.mp known
  exact ⟨ofCode_eq_ok_iff.mp first, ofCode_eq_ok_iff.mp second, ofCode_eq_ok_iff.mp third⟩

/-! ## Candidates -/

theorem Address.family_toSocketAddr (a : Address) : a.toSocketAddr.family = a.family := by
  unfold toSocketAddr family
  cases a.ip <;> rfl

theorem Address.family_ofSocketAddr (a : SocketAddr) : (ofSocketAddr a).family = a.family := by
  cases a <;> rfl

namespace Resolver

variable {r : Resolver} {t : Interfaces} {host : Option String} {port : UInt16} {h : Hints}

/-- The solution of a candidate is one of the table that accepts the hints, and is of the family of
its address. -/
theorem candidate_of_block {kept : Option String} {configured : LocalFamilies} {a : SocketAddr}
    {e : Resolved} (member : e ∈ r.block port kept h configured a) :
    (e.solution ∈ r.table.solutions ∧
      e.solution.accepts h.family h.type h.protocol = true) ∧
        e.address.family = e.solution.family := by
  dsimp only [block] at member
  split at member
  · obtain ⟨s, chosen, rfl⟩ := List.mem_map.mp member
    obtain ⟨chosen, own⟩ := List.mem_filter.mp chosen
    refine ⟨List.mem_filter.mp chosen, ?_⟩
    rw [beq_iff_eq.mp own, ← Address.family_ofSocketAddr]
    cases kept <;> rfl
  · cases member

theorem candidate_of_resolve {found : List Resolved} {e : Resolved}
    (answered : (r.resolve t host port h).result = .ok found) (member : e ∈ found) :
    (e.solution ∈ r.table.solutions ∧
      e.solution.accepts h.family h.type h.protocol = true) ∧
        e.address.family = e.solution.family := by
  dsimp only [resolve, LiveService.resolve] at answered
  split at answered
  · cases answered
  · have joined := mapError_eq_ok answered
    generalize (LiveService.lookupAll (fun _ => r.service) _ _).2 = looked at joined
    cases looked with
    | error text => cases joined
    | ok addresses =>
      cases joined
      obtain ⟨a, -, inside⟩ := List.mem_flatMap.mp member
      exact candidate_of_block inside

end Resolver

/-- The streams of a table are TCP. -/
theorem SolutionTable.eq_of_stream {t : SolutionTable} {s : Solution} (known : s ∈ t.solutions)
    (stream : s.type = .stream) : s = ⟨s.family, .stream, .tcp⟩ := by
  obtain ⟨f, -, known⟩ := List.mem_flatMap.mp known
  simp only [Solution.ofFamily, List.mem_cons, List.not_mem_nil, or_false] at known
  rcases known with rfl | rfl | rfl
  · cases stream
  · rfl
  · cases stream

/-! ## Handles -/

namespace World

variable {α : Type} {w : World α} {l : Nat} {x : Listener}

theorem near_step (found : w.listeners[l]? = some x) (e : Step α) :
    ∃ x', (w.step e).listeners[l]? = some x' ∧ x'.near = x.near := by
  obtain ⟨x', found', moves⟩ := listener_step found e
  refine ⟨x', found', ?_⟩
  cases moves <;> rfl

/-- A listener listens where it was bound, however the run goes on. -/
theorem near_run (found : w.listeners[l]? = some x) (steps : List (Step α)) :
    ∃ x', (w.run steps).listeners[l]? = some x' ∧ x'.near = x.near := by
  induction steps generalizing w x with
  | nil => exact ⟨x, found, rfl⟩
  | cons e steps ih =>
    obtain ⟨x', found', same⟩ := near_step found e
    obtain ⟨x'', found'', same'⟩ := ih found'
    exact ⟨x'', found'', same'.trans same⟩

theorem near_listen {w' : World α} {bridge : Nat} {a near : SocketAddr} {backlog : UInt32}
    (opened : w.listen bridge a backlog (.ok near) = .ok (w', l)) :
    ∃ x, w'.listeners[l]? = some x ∧ x.near = near := by
  unfold listen at opened
  split at opened
  · cases opened
  · cases opened
    exact ⟨_, List.getElem?_concat_length, rfl⟩

/-- The socket that the record of a connect names is the stream of an attempt at the address. -/
theorem attempt_of_told {bridge : Nat} {task : Task} {a : SocketAddr} {steps : List (Step α)} :
    let start := w.step (.connect bridge (.toAddress task a))
    ∀ {queue : Nat} {record : Completion α} {n : Nat} {s : Socket α},
      (queue, record) ∈ start.told (.connect w.connects.length) steps →
      record.connection = some n → (start.run steps).sockets[n]? = some s →
      ∃ poll, (a, poll) ∈ start.attempts w.connects.length steps ∧
        poll.ending? = some (.ok (.ok s.link)) := by
  intro start queue record n s told names found
  obtain ⟨-, slot, -, stands⟩ := connectAccounts_run w bridge (.address a) task steps
  rcases stands.outcome with
    ⟨untold, -⟩ | ⟨targets, result, record', known, concludes, one, -, -, -, reports⟩
  · exact absurd told (List.eq_nil_iff_forall_not_mem.mp untold _)
  cases known
  cases List.mem_singleton.mp (one ▸ told)
  cases result with
  | error text => cases names.symm.trans reports.2
  | ok link =>
    obtain ⟨-, n', s', names', found', same⟩ := reports
    cases names.symm.trans names'
    cases found.symm.trans found'
    obtain ⟨b, target, attempted⟩ := concludes.attempt
    rw [List.mem_singleton.mp target, ← same] at attempted
    exact exists_poll_of_mem_endings attempted

end World

/-- The near ends of the handles that are opened at an address, in any run. The host is held to one
thing: an end that it opens there is of the family of the address. -/
inductive OpenedAt (α : Type) (a : SocketAddr) : SocketAddr → Prop
  | listener (w w' : World α) (bridge : Nat) (backlog : UInt32) (near : SocketAddr) (l : Nat)
      (host : near.family = a.family)
      (opened : w.listen bridge a backlog (.ok near) = .ok (w', l))
      (steps : List (Step α)) (x : Listener) (found : (w'.run steps).listeners[l]? = some x) :
    OpenedAt α a x.near
  | socket (w : World α) (bridge : Nat) (task : Task) (steps : List (Step α))
      (host : ∀ poll link,
        (a, poll) ∈ (w.step (.connect bridge (.toAddress task a))).attempts w.connects.length steps →
        poll.ending? = some (.ok (.ok link)) → link.near.family = a.family)
      (queue : Nat) (record : Completion α)
      (told : (queue, record) ∈
        (w.step (.connect bridge (.toAddress task a))).told (.connect w.connects.length) steps)
      (n : Nat) (names : record.connection = some n) (s : Socket α)
      (found : ((w.step (.connect bridge (.toAddress task a))).run steps).sockets[n]? = some s) :
    OpenedAt α a s.link.near

variable {α : Type}

theorem OpenedAt.family {a near : SocketAddr} (opened : OpenedAt α a near) :
    near.family = a.family := by
  cases opened with
  | listener w w' bridge backlog near l host opened steps x found =>
    obtain ⟨x₀, first, bound⟩ := World.near_listen opened
    obtain ⟨x', found', same⟩ := World.near_run first steps
    cases found.symm.trans found'
    rw [same, bound, host]
  | socket w bridge task steps host queue record told n names s found =>
    obtain ⟨poll, tried, ended⟩ := World.attempt_of_told told names found
    exact host poll s.link tried ended

/-! ## Handles and requests -/

/-- What was opened for a candidate is as its solution says. -/
theorem streamSolution_eq_of_openedAt {s : Solution} {t : SolutionTable} {a : Address}
    {near : SocketAddr} (known : s ∈ t.solutions) (stream : s.type = .stream)
    (own : a.family = s.family) (opened : OpenedAt α a.toSocketAddr near) :
    streamSolution near = s := by
  have same : near.family = s.family := by
    rw [opened.family, Address.family_toSocketAddr, own]
  rw [streamSolution, same]
  exact (SolutionTable.eq_of_stream known stream).symm

/-- A handle satisfies three codes exactly when they are hints and the solution table's rule finds
the handle's family, streams and TCP right for them. So a code of no member is refused. And what was
opened for a stream candidate of any resolution satisfies every request that gave the candidate. -/
theorem endpoint_agrees_with_solutions (α : Type) (near : SocketAddr)
    (family type protocol : Int32) (flags : UInt32) :
    (endpointAccepts near family type protocol = true ↔
      ∃ h, Hints.ofCodes family type protocol flags = .ok h ∧
        Solution.accepts ⟨near.family, .stream, .tcp⟩ h.family h.type h.protocol = true) ∧
    ((∀ f : Family, code f ≠ family) ∨ (∀ t : SocketType, code t ≠ type) ∨
        (∀ p : Protocol, code p ≠ protocol) →
      endpointAccepts near family type protocol = false) ∧
    ∀ (r : Resolver) (t : Interfaces) (host : Option String) (port : UInt16) (h : Hints)
      (found : List Resolved), Hints.ofCodes family type protocol flags = .ok h →
      (r.resolve t host port h).result = .ok found →
      ∀ e ∈ found, e.solution.type = .stream → OpenedAt α e.address.toSocketAddr near →
        endpointAccepts near family type protocol = true := by
  have agrees : endpointAccepts near family type protocol = true ↔ _ :=
    endpointAccepts_iff near flags
  refine ⟨agrees, fun unknown => ?_, ?_⟩
  · apply Bool.eq_false_iff.mpr
    intro accepted
    obtain ⟨h, known, -⟩ := agrees.mp accepted
    obtain ⟨first, second, third⟩ := Hints.known_of_ofCodes known
    rcases unknown with unknown | unknown | unknown
    · exact unknown h.family first
    · exact unknown h.type second
    · exact unknown h.protocol third
  · intro r t host port h found known answered e member stream opened
    obtain ⟨⟨listed, accepted⟩, own⟩ := Resolver.candidate_of_resolve answered member
    apply agrees.mpr
    rw [streamSolution_eq_of_openedAt listed stream own opened]
    exact ⟨h, known, accepted⟩

/-- One candidate is found for a literal, and connected to: the socket satisfies the request, and
not one of a family that does not exist. -/
theorem endpoint_agrees_with_solutions_at_literal :
    let r : Resolver := ⟨⟨false⟩, Host.service {}⟩
    let h : Hints := ⟨.inet, .any, .tcp, {}⟩
    let e : Resolved := ⟨.inet, .ofSocketAddr (.near 80), ⟨.inet, .stream, .tcp⟩⟩
    Hints.ofCodes 1 0 1 0 = .ok h ∧
      (r.resolve {} (some "127.0.1.1") 80 h).result = .ok [e] ∧
      OpenedAt (List UInt8) e.address.toSocketAddr (.near 4000) ∧
      endpointAccepts (.near 4000) 1 0 1 = true ∧
      (∀ f : Family, code f ≠ 9) ∧ endpointAccepts (.near 4000) 9 0 1 = false := by
  intro r h e
  have known : Hints.ofCodes 1 0 1 0 = .ok h := by decide
  have answered : (r.resolve {} (some "127.0.1.1") 80 h).result = .ok [e] := by decide +kernel
  have opened : OpenedAt (List UInt8) e.address.toSocketAddr (.near 4000) := by
    refine .socket {} 0 { schedulee := 1 }
      [.pollConnect 0 (.attempted { ready := some (.ok (.ok ⟨.near 4000, .near 80⟩)) })] ?_ 0
      (.connect { schedulee := 1, connection := some 0 }) ?_ 0 rfl _ rfl
    · intro poll link tried ended
      cases List.mem_singleton.mp tried
      cases ended
      rfl
    · exact List.mem_singleton.mpr rfl
  have unknown : ∀ f : Family, code f ≠ 9 := by
    intro f
    cases f <;> decide
  obtain ⟨-, -, accepted⟩ :=
    endpoint_agrees_with_solutions (List UInt8) (.near 4000) 1 0 1 0
  obtain ⟨-, refused, -⟩ := endpoint_agrees_with_solutions (List UInt8) (.near 4000) 9 0 1 0
  exact ⟨known, answered, opened,
    accepted r {} _ 80 h _ known answered e List.mem_cons_self rfl opened, unknown,
    refused (.inl unknown)⟩

end SocketBridge
