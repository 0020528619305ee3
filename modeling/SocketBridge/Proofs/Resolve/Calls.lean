import Mathlib.Data.List.Nodup
import SocketBridge.Proofs.Metrics
import SocketBridge.Proofs.Resolve.Blocks

/-!
# The calls of a resolution

A resolution may ask a name service whose answers hang on the calls that were made before. It asks
nothing if the hints cannot be served; else it scans the interfaces if they count and then looks its
names up, one by one, up to the first failure.
-/

namespace SocketBridge

namespace Hints

/-- Hints that cannot be served: another family than the two of IP, a type without a solution, or a
port for raw sockets, which have none. -/
def Refused (h : Hints) (port : UInt16) : Prop :=
  h.family = .unix ∨ h.type = .rdm ∨ h.type = .seqpacket ∨ h.type = .raw ∧ port ≠ 0

theorem error?_eq_none_iff {h : Hints} {port : UInt16} :
    h.error? port = none ↔ ¬h.Refused port := by
  unfold error? Refused
  split
  · rename_i unix
    simp [unix]
  · rename_i ip
    split
    · rename_i unknown
      rcases unknown with rdm | seqpacket
      · simp [rdm]
      · simp [seqpacket]
    · rename_i known
      rw [not_or] at known
      split
      · rename_i raw
        simp [raw]
      · rename_i free
        simp [ip, known, free]

end Hints

/-- Whether an error says that the request cannot be served. -/
def ResolveError.IsValidation : ResolveError → Prop
  | .code _ | .hints _ => True
  | .lookup _ => False

namespace Resolver

theorem ownLiteral_ne (passive : Bool) : ownLiteral passive .inet ≠ ownLiteral passive .inet6 := by
  cases passive <;> decide

/-- No name is looked up twice. -/
theorem nodup_candidates (r : Resolver) (host : Option String) (h : Hints) :
    (r.candidates host h).Nodup := by
  cases host with
  | some name => exact List.nodup_singleton name
  | none =>
    have other := ownLiteral_ne h.flags.passive
    simp only [candidates]
    generalize (fun family => if h.family = .unspec then r.usable h family else
      decide (h.family = family)) = wanted
    cases r.table.preferIpv4 <;> cases inet : wanted .inet <;> cases inet6 : wanted .inet6 <;>
      simp [inet, inet6, other, other.symm]

end Resolver

namespace LiveService

variable (s : LiveService)

/-- Every one of some names is found, if they are looked up in turn after other calls. -/
def Answers (past : List ServiceCall) (names : List String) : Prop :=
  ∀ before name after, names = before ++ name :: after →
    ∃ found, (s (past ++ before.map .lookup)).lookup name = .ok found

variable {s}

theorem Answers.nil (past : List ServiceCall) : s.Answers past [] := by
  intro before name after parted
  simp at parted

theorem Answers.cons {past : List ServiceCall} {name : String} {names : List String}
    {found : List SocketAddr} (here : (s past).lookup name = .ok found)
    (there : s.Answers (past ++ [.lookup name]) names) : s.Answers past (name :: names) := by
  intro before other after parted
  cases before with
  | nil =>
    obtain ⟨rfl, -⟩ := List.cons.inj parted
    exact ⟨found, by simpa using here⟩
  | cons first before =>
    obtain ⟨rfl, tail⟩ := List.cons.inj parted
    obtain ⟨found', answer⟩ := there before other after tail
    exact ⟨found', by simpa using answer⟩

/-- Either all names are looked up and found, or there is a first one that is not, and it is the
last that is looked up. -/
theorem lookupAll_cases (past : List ServiceCall) (names : List String) :
    (s.Answers past names ∧
      ∃ found, s.lookupAll past names = (past ++ names.map .lookup, .ok found)) ∨
    ∃ asked name rest text, names = asked ++ name :: rest ∧ s.Answers past asked ∧
      (s (past ++ asked.map .lookup)).lookup name = .error text ∧
      s.lookupAll past names = (past ++ (asked ++ [name]).map .lookup, .error text) := by
  induction names generalizing past with
  | nil => exact Or.inl ⟨.nil past, [], by simp [lookupAll]⟩
  | cons name names ih =>
    cases answer : (s past).lookup name with
    | error text =>
      refine Or.inr ⟨[], name, names, text, rfl, .nil past, by simpa using answer, ?_⟩
      simp [lookupAll, answer]
    | ok here =>
      rcases ih (past ++ [.lookup name]) with ⟨answered, found, all⟩ |
        ⟨asked, last, rest, text, rfl, answered, failed, all⟩
      · refine Or.inl ⟨.cons answer answered, here ++ found, ?_⟩
        simp [lookupAll, answer, all, Except.map]
      · refine Or.inr ⟨name :: asked, last, rest, text, rfl, .cons answer answered, ?_, ?_⟩
        · simpa using failed
        · simp [lookupAll, answer, all, Except.map]

variable {table : SolutionTable} {t : Interfaces} {host : Option String} {port : UInt16} {h : Hints}

theorem resolve_of_refused (refused : h.Refused port) :
    ∃ e, s.resolve table t host port h = ⟨[], .error (.hints e)⟩ := by
  cases error : h.error? port with
  | some e => exact ⟨e, by simp only [resolve, error]⟩
  | none => exact absurd refused (Hints.error?_eq_none_iff.mp error)

/-- A request that is served is answered if all its names are found; the first that is not ends it.
-/
theorem resolve_cases (served : h.error? port = none) :
    let resolution := s.resolve table t host port h
    let names := Resolver.candidates ⟨table, s []⟩ host h
    (s.Answers h.scan names ∧ resolution.calls = h.scan ++ names.map .lookup ∧
      ∃ found, resolution.result = .ok found) ∨
    ∃ asked name rest text, names = asked ++ name :: rest ∧ s.Answers h.scan asked ∧
      (s (h.scan ++ asked.map .lookup)).lookup name = .error text ∧
      resolution.calls = h.scan ++ (asked ++ [name]).map .lookup ∧
      resolution.result = .error (.lookup text) := by
  intro resolution names
  have is : resolution = _ := resolve_of_served served
  rcases s.lookupAll_cases h.scan (Resolver.candidates ⟨table, s []⟩ host h) with
    ⟨answered, found, all⟩ | ⟨asked, name, rest, text, parted, answered, failed, all⟩
  · simp only [all] at is
    rw [is]
    exact Or.inl ⟨answered, rfl, _, rfl⟩
  · simp only [all] at is
    rw [is]
    exact Or.inr ⟨asked, name, rest, text, parted, answered, failed, rfl, rfl⟩

/-- The same service on a host whose interfaces have no address. -/
def withoutFamilies (s : LiveService) : LiveService :=
  fun past => { s past with localFamilies := .ok .none }

theorem lookupAll_withoutFamilies (past : List ServiceCall) (names : List String) :
    s.withoutFamilies.lookupAll past names = s.lookupAll past names := by
  induction names generalizing past with
  | nil => rfl
  | cons name names ih =>
    have same : (s.withoutFamilies past).lookup name = (s past).lookup name := rfl
    simp only [lookupAll, same, ih]

/-- A scan that fails stands for one that finds no family. -/
theorem resolve_of_failed_scan {e : String} (failed : (s []).localFamilies = .error e) :
    s.resolve table t host port h = s.withoutFamilies.resolve table t host port h := by
  have same : Resolver.configured ⟨table, s.withoutFamilies []⟩ h =
      Resolver.configured ⟨table, s []⟩ h := by
    simp only [Resolver.configured, withoutFamilies, failed]
  unfold resolve
  cases h.error? port with
  | some e => rfl
  | none =>
    simp only [lookupAll_withoutFamilies, same]
    rfl

end LiveService

end SocketBridge
