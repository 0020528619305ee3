import SocketBridge.Proofs.Address.Literal
import SocketBridge.Proofs.Address.Stored
import SocketBridge.Proofs.Fallible
import SocketBridge.Proofs.Ip.Characters
import SocketBridge.Proofs.Resolve.Calls
import SocketBridge.Proofs.Resolve.Narrowing

/-!
# Literal hosts

A host that is an address by itself is told apart in three places: twice where names are looked up,
and once where it is decided which name an address keeps. All three agree, so a literal never
reaches the host's own lookup and leaves no name behind, and any other host does both.
-/

namespace SocketBridge

namespace Address

variable {t : Interfaces} {literal : String} {port : UInt16} {a : Address}

theorem ofOctets_withPort (family : Family) (raw : List UInt8) (before port : UInt16)
    (scope : Option UInt32) :
    ofOctets family raw port scope = (ofOctets family raw before scope).map (·.withPort port) := by
  cases family with
  | inet =>
    simp only [ofOctets]
    split
    · split <;> rfl
    · rfl
  | inet6 =>
    simp only [ofOctets]
    split <;> rfl
  | unspec | unix => rfl

/-- Whether a text is a literal has nothing to do with the port. -/
theorem ofLiteral_withPort (t : Interfaces) (literal : String) (before port : UInt16) :
    ofLiteral t literal port = (ofLiteral t literal before).map (·.withPort port) := by
  have moved : (fun family raw _ scope => ofOctets family raw port scope) =
      AddressMaker.image (·.withPort port) := by
    funext family raw before scope
    exact ofOctets_withPort family raw before port scope
  rw [← AddressMaker.ofLiteral_image, ← moved]
  rfl

theorem isLiteral_iff (t : Interfaces) (name : String) (port : UInt16) :
    IsLiteral t name ↔ ∃ a, ofLiteral t name port = .ok a := by
  rw [IsLiteral, ofLiteral_withPort t name 0 port]
  cases ofLiteral t name 0 with
  | ok a => exact iff_of_true ⟨a, rfl⟩ ⟨a.withPort port, rfl⟩
  | error e => simp [Except.map]

/-- A service reads literals without their port. -/
theorem ofLiteral_of_port (read : ofLiteral t literal port = .ok a) :
    ofLiteral t literal 0 = .ok (a.withPort 0) := by
  rw [ofLiteral_withPort t literal port 0, read]
  rfl

/-- What a literal is read as is built from bytes. -/
theorem ofLiteral_eq_ok (read : ofLiteral t literal port = .ok a) :
    ∃ family raw scope, ofOctets family raw port scope = .ok a := by
  unfold ofLiteral AddressMaker.ofLiteral at read
  dsimp only at read
  split at read
  · split at read
    · cases read
    · split at read
      · exact ⟨_, _, _, read⟩
      · obtain ⟨scope, -, built⟩ := bind_eq_ok read
        exact ⟨_, _, _, built⟩
  · split at read
    · cases read
    · exact ⟨_, _, _, read⟩

theorem hostname_of_ofLiteral (read : ofLiteral t literal port = .ok a) : a.hostname = none := by
  obtain ⟨_, _, _, built⟩ := ofLiteral_eq_ok read
  exact (ofOctets_eq_ok built).2.2.2.2

/-- Handed to the host and taken back, what a literal is read as is the same on any port. -/
theorem entryAddress_of_literal (read : ofLiteral t literal port = .ok a) :
    Resolver.entryAddress port none (a.withPort 0).toSocketAddr = a := by
  obtain ⟨_, _, _, built⟩ := ofLiteral_eq_ok read
  obtain ⟨-, -, rfl, -, unnamed⟩ := ofOctets_eq_ok built
  simp only [Resolver.entryAddress, ofSocketAddr_toSocketAddr]
  obtain ⟨ip, port, scope, hostname, _, _, _⟩ := a
  obtain rfl : hostname = none := unnamed
  rfl

/-- What the host found bears the name that was asked for, and nothing else is changed but the
port. -/
theorem entryAddress_of_name (port : UInt16) (found : SocketAddr) {name : String}
    (nonempty : name ≠ "") :
    (Resolver.entryAddress port (some name) found).hostname = some name ∧
      (Resolver.entryAddress port (some name) found).withHostname "" =
        (ofSocketAddr found).withPort port := by
  refine ⟨if_neg nonempty, ?_⟩
  cases found <;> rfl

end Address

/-- An IP literal without a zone is a literal, and of the same address. -/
theorem ofLiteral_of_ip (t : Interfaces) {name : String} {ip : Ip}
    (read : Ip.ofLiteral? name.toList = some ip) :
    ∃ a, Address.ofLiteral t name 0 = .ok a ∧ a.toSocketAddr = SocketAddr.ofIp ip 0 := by
  unfold Ip.ofLiteral? at read
  cases quad : Ip.ofV4Literal? name.toList with
  | some o =>
    obtain rfl : Ip.v4 o = ip := by simpa [quad] using read
    obtain ⟨colonless, -⟩ := Ip.mem_of_ofV4Literal? quad
    exact ⟨_, (Address.ofLiteral_of_quad colonless quad).trans (dif_pos o.length_toList), rfl⟩
  | none =>
    obtain ⟨o, groups, rfl⟩ : ∃ o, Ip.ofV6Literal? name.toList = some o ∧ Ip.v6 o = ip := by
      simpa [quad] using read
    obtain ⟨colon, percentless⟩ := Ip.mem_of_ofV6Literal? groups
    have parts := Address.cutZone_of_no_percent percentless
    exact ⟨_, (Address.ofLiteral_of_groups colon parts groups).trans (dif_pos o.length_toList), rfl⟩

/-- The service answers by itself for every text that is a literal. -/
theorem literalAnswer?_of_literal {t : Interfaces} {name : String} {a : Address}
    (read : Address.ofLiteral t name 0 = .ok a) :
    literalAnswer? t name = some a.toSocketAddr := by
  unfold literalAnswer?
  cases known : Ip.ofLiteral? name.toList with
  | some ip =>
    obtain ⟨b, read', answer⟩ := ofLiteral_of_ip t known
    obtain rfl := Except.ok.inj (read.symm.trans read')
    exact congrArg some answer.symm
  | none => simp only [read]

/-- And it does so for no other text. -/
theorem literalAnswer?_of_strange {t : Interfaces} {name : String}
    (strange : ¬IsLiteral t name) : literalAnswer? t name = none := by
  unfold literalAnswer?
  cases known : Ip.ofLiteral? name.toList with
  | some ip =>
    obtain ⟨a, read, -⟩ := ofLiteral_of_ip t known
    exact absurd ⟨a, read⟩ strange
  | none =>
    cases read : Address.ofLiteral t name 0 with
    | ok a => exact absurd ⟨a, read⟩ strange
    | error e => rfl

namespace Host

variable (h : Host) {name : String} {a : Address}

theorem lookup_of_literal (read : Address.ofLiteral h.interfaces name 0 = .ok a) :
    h.lookup name = ⟨false, .ok [a.toSocketAddr]⟩ := by
  unfold lookup
  rw [literalAnswer?_of_literal read]

theorem lookup_of_strange (strange : ¬IsLiteral h.interfaces name) :
    h.lookup name = ⟨true, h.lookupName name⟩ := by
  unfold lookup
  rw [literalAnswer?_of_strange strange]

theorem asked_lookup_iff : (h.lookup name).asked = true ↔ ¬IsLiteral h.interfaces name := by
  constructor
  · rintro asked ⟨a, read⟩
    cases (congrArg HostLookup.asked (h.lookup_of_literal read)).symm.trans asked
  · exact fun strange => congrArg HostLookup.asked (h.lookup_of_strange strange)

/-- The names for which some calls ask the host's own lookup. -/
def askedFor (calls : List ServiceCall) : List String :=
  calls.filterMap fun
    | .localFamilies => none
    | .lookup name => if (h.lookup name).asked then some name else none

theorem askedFor_append (calls more : List ServiceCall) :
    h.askedFor (calls ++ more) = h.askedFor calls ++ h.askedFor more := List.filterMap_append

/-- A scan of the interfaces asks for no name. -/
theorem askedFor_scan (hints : Hints) : h.askedFor hints.scan = [] := by
  unfold Hints.scan
  cases hints.flags.addrconfig <;> rfl

theorem askedFor_of_literal (read : Address.ofLiteral h.interfaces name 0 = .ok a) :
    h.askedFor [.lookup name] = [] := by
  simp [askedFor, h.lookup_of_literal read]

theorem askedFor_of_strange (strange : ¬IsLiteral h.interfaces name) :
    h.askedFor [.lookup name] = [name] := by
  simp [askedFor, h.lookup_of_strange strange]

end Host

namespace Resolver

variable (r : Resolver) (t : Interfaces) (name : String) {port : UInt16} {h : Hints}

/-- A named host is looked up once, behind the scan if there is one. -/
theorem calls_some (valid : h.error? port = none) :
    (r.resolve t (some name) port h).calls = h.scan ++ [.lookup name] := by
  simp only [resolve, LiveService.resolve_of_served valid, candidates, LiveService.lookupAll]
  cases r.service.lookup name <;> rfl

/-- The candidates of some addresses bear these addresses, with the name that is kept. -/
theorem mem_blocks {kept : Option String} {found : List SocketAddr} {e : Resolved}
    (member : e ∈ found.flatMap (r.block port kept h (r.configured h))) :
    ∃ a ∈ found, e.address = entryAddress port kept a := by
  obtain ⟨a, among, member⟩ := List.mem_flatMap.mp member
  rw [block_eq] at member
  split at member
  · obtain ⟨s, -, rfl⟩ := List.mem_map.mp member
    exact ⟨a, among, rfl⟩
  · cases member

variable {r t name} {a : Address}

theorem keptName_of_literal (literal : IsLiteral t name) : keptName t (some name) = none :=
  Option.eq_none_iff_forall_ne_some.mpr fun _ kept =>
    ((keptName_eq_some_iff t (some name)).mp kept).2
      (Option.some.inj ((keptName_eq_some_iff t (some name)).mp kept).1 ▸ literal)

theorem keptName_of_strange (strange : ¬IsLiteral t name) : keptName t (some name) = some name :=
  (keptName_eq_some_iff t (some name)).mpr ⟨rfl, strange⟩

end Resolver

namespace Host

variable (h : Host) {name : String} {a : Address} {port : UInt16} {hints : Hints}
  (table : SolutionTable)

/-- A literal is resolved into candidates of its own address. -/
theorem resolve_literal (read : Address.ofLiteral h.interfaces name port = .ok a)
    (valid : hints.error? port = none) :
    ∃ entries, (Resolver.resolve ⟨table, h.service⟩ h.interfaces (some name) port hints).result =
      .ok entries ∧ ∀ e ∈ entries, e.address = a := by
  have literal := (Address.isLiteral_iff _ name port).mpr ⟨a, read⟩
  have answer : h.service.lookup name = .ok [(a.withPort 0).toSocketAddr] := by
    simp only [service, h.lookup_of_literal (Address.ofLiteral_of_port read)]
    rfl
  rw [Resolver.resolve_some _ _ name port hints valid]
  simp only [answer, Resolver.keptName_of_literal literal]
  refine ⟨_, rfl, fun e member => ?_⟩
  obtain ⟨found, among, address⟩ := Resolver.mem_blocks _ member
  rw [address, List.mem_singleton.mp among, Address.entryAddress_of_literal read]

/-- Any other name is resolved into candidates that bear it, of what the host's lookup finds. -/
theorem resolve_strange (nonempty : name ≠ "") (strange : ¬IsLiteral h.interfaces name)
    (valid : hints.error? port = none) :
    let result := (Resolver.resolve ⟨table, h.service⟩ h.interfaces (some name) port hints).result
    match h.lookupName name with
    | .error failure => result = .error (.lookup failure.message)
    | .ok found => ∃ entries, result = .ok entries ∧ ∀ e ∈ entries,
        e.address.hostname = some name ∧
        ∃ a ∈ found, e.address.withHostname "" = (Address.ofSocketAddr a).withPort port := by
  intro result
  have is : result = _ := Resolver.resolve_some _ _ name port hints valid
  have answer : h.service.lookup name = (h.lookupName name).mapError LookupFailure.message := by
    simp only [service, h.lookup_of_strange strange]
  simp only [answer, Resolver.keptName_of_strange strange] at is
  cases asked : h.lookupName name with
  | error failure => rw [is, asked]; rfl
  | ok found =>
    refine ⟨_, by rw [is, asked]; rfl, fun e member => ?_⟩
    obtain ⟨a, among, address⟩ := Resolver.mem_blocks _ member
    obtain ⟨named, bare⟩ := Address.entryAddress_of_name port a nonempty
    rw [address]
    exact ⟨named, a, among, bare⟩

end Host

/-- Whatever interfaces there are. The host's own lookup is asked exactly for names that are no
literals, and a literal is answered with the one address it is read as. So a literal is resolved
without asking, always, into candidates of that address without a name; and any other name is asked
for once, fails if the host's lookup fails, and else gives candidates of addresses that were found,
each with the name. A candidate has a name exactly if it came from the host's own lookup. -/
theorem literal_hosts_bypass_lookup (h : Host) {name : String} (nonempty : name ≠ "")
    (preferIpv4 : Bool) (port : UInt16) (hints : Hints) (valid : hints.error? port = none) :
    let t := h.interfaces
    let resolution := Resolver.resolve ⟨⟨preferIpv4⟩, h.service⟩ t (some name) port hints
    ((h.lookup name).asked = true ↔ ¬∃ a, Address.ofLiteral t name port = .ok a) ∧
    (∀ a, Address.ofLiteral t name port = .ok a →
      (h.lookup name).found = .ok [(a.withPort 0).toSocketAddr] ∧
      h.askedFor resolution.calls = [] ∧ a.hostname = none ∧
      ∃ entries, resolution.result = .ok entries ∧ ∀ e ∈ entries, e.address = a) ∧
    ((¬∃ a, Address.ofLiteral t name port = .ok a) →
      (h.lookup name).found = h.lookupName name ∧
      h.askedFor resolution.calls = [name] ∧
      match h.lookupName name with
      | .error failure => resolution.result = .error (.lookup failure.message)
      | .ok found => ∃ entries, resolution.result = .ok entries ∧ ∀ e ∈ entries,
          e.address.hostname = some name ∧
          ∃ a ∈ found, e.address.withHostname "" = (Address.ofSocketAddr a).withPort port) ∧
    ∀ entries, resolution.result = .ok entries → ∀ e ∈ entries,
      (e.address.hostname ≠ none ↔ h.askedFor resolution.calls = [name]) := by
  intro t resolution
  have asked : h.askedFor resolution.calls = h.askedFor [.lookup name] := by
    rw [Resolver.calls_some _ t name valid, h.askedFor_append, h.askedFor_scan, List.nil_append]
  have literal_iff := Address.isLiteral_iff t name port
  rw [asked, ← literal_iff]
  refine ⟨h.asked_lookup_iff, fun a read => ?_, fun strange => ?_, fun entries told e member => ?_⟩
  · have read' := Address.ofLiteral_of_port read
    exact ⟨congrArg HostLookup.found (h.lookup_of_literal read'), h.askedFor_of_literal read',
      Address.hostname_of_ofLiteral read, h.resolve_literal _ read valid⟩
  · exact ⟨congrArg HostLookup.found (h.lookup_of_strange strange), h.askedFor_of_strange strange,
      h.resolve_strange _ nonempty strange valid⟩
  · by_cases literal : IsLiteral t name
    · obtain ⟨a, read⟩ := literal_iff.mp literal
      obtain ⟨entries', told', address⟩ := h.resolve_literal ⟨preferIpv4⟩ read valid
      obtain rfl := Except.ok.inj (told.symm.trans told')
      rw [address e member, Address.hostname_of_ofLiteral read,
        h.askedFor_of_literal (Address.ofLiteral_of_port read)]
      simp
    · have found := h.resolve_strange ⟨preferIpv4⟩ nonempty literal valid
      rw [h.askedFor_of_strange literal]
      cases answer : h.lookupName name with
      | error failure =>
        simp only [answer] at found
        cases told.symm.trans found
      | ok addresses =>
        simp only [answer] at found
        obtain ⟨entries', told', named⟩ := found
        obtain rfl := Except.ok.inj (told.symm.trans told')
        simp [(named e member).1]

/-- A host that is told other things of two zones than what it has interfaces for. -/
def linkHost : Host where
  interfaces := soleInterface "eth0" 3
  names := [("fe80::1%eth0", .error .again), ("fe80::1%eth1", .ok [.v4 ⟨[198, 51, 100, 7], rfl⟩ 9])]

/-- A zone that names an interface makes a literal, and one that names none does not. -/
theorem literal_hosts_bypass_lookup_of_zone :
    let resolve (name : String) :=
      Resolver.resolve ⟨⟨false⟩, linkHost.service⟩ linkHost.interfaces (some name) 80 {}
    ("fe80::1%eth0" ≠ "" ∧ "fe80::1%eth1" ≠ "" ∧ ({} : Hints).error? 80 = none) ∧
      linkHost.askedFor (resolve "fe80::1%eth0").calls = [] ∧
      linkHost.askedFor (resolve "fe80::1%eth1").calls = ["fe80::1%eth1"] ∧
      ∃ entries, (resolve "fe80::1%eth0").result = .ok entries ∧ entries.length = 2 ∧
        ∀ e ∈ entries, e.address = (onLink 3).withPort 80 := by
  intro resolve
  have valid : ({} : Hints).error? 80 = none := by decide
  have read : Address.ofLiteral linkHost.interfaces "fe80::1%eth0" 80 =
      .ok ((onLink 3).withPort 80) := by cbv
  have unread : Address.ofLiteral linkHost.interfaces "fe80::1%eth1" 80 =
      .error (.unknownInterface "eth1") := by cbv
  have strange : ¬∃ a, Address.ofLiteral linkHost.interfaces "fe80::1%eth1" 80 = .ok a := by
    rintro ⟨a, read⟩
    cases unread.symm.trans read
  obtain ⟨-, literal, -⟩ :=
    literal_hosts_bypass_lookup linkHost (by decide : "fe80::1%eth0" ≠ "") false 80 {} valid
  obtain ⟨-, -, other, -⟩ :=
    literal_hosts_bypass_lookup linkHost (by decide : "fe80::1%eth1" ≠ "") false 80 {} valid
  obtain ⟨-, unasked, -, entries, result, address⟩ := literal _ read
  obtain ⟨-, asked, -⟩ := other strange
  refine ⟨⟨by decide, by decide, valid⟩, unasked, asked, entries, result, ?_, address⟩
  have two : (resolve "fe80::1%eth0").result.map List.length = .ok 2 := by decide +kernel
  rw [result] at two
  exact Except.ok.inj two

end SocketBridge
