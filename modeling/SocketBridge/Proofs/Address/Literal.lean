import Mathlib
import SocketBridge.Proofs.Address
import SocketBridge.Proofs.Ip.Literal
import SocketBridge.Text.Blank

/-!
# Literals of addresses

The text of an address is read as that address, without its name. A zone is shown by a name or by a
number, and digits alone are always read as a number; so the name of an interface is not read back
if it is made of digits that do not spell the interface's own index.
-/

namespace SocketBridge

open Text

/-- Whichever name is shown for an index is found under that index, and no name is empty. -/
structure Interfaces.Consistent (t : Interfaces) : Prop where
  agrees : ∀ index name, t.nameOf? index = some name → t.indexOf? name = some index
  named : ∀ index, t.nameOf? index ≠ some ""

namespace Address

variable {t : Interfaces} {a : Address} {zone : UInt32}

/-! ## Zones -/

theorem ne_percent_of_not_mem {cs : List Char} (unzoned : '%' ∉ cs) : ∀ c ∈ cs, c != '%' := by
  intro c member
  exact bne_iff_ne.mpr fun same => unzoned (same ▸ member)

theorem cutZone_of_no_percent {cs : List Char} (unzoned : '%' ∉ cs) : cutZone cs = (cs, none) := by
  have rest := (@parted_at_boundary cs [] _ (ne_percent_of_not_mem unzoned) nofun).2
  rw [List.append_nil] at rest
  simp only [cutZone, rest]

theorem cutZone_append {cs : List Char} (unzoned : '%' ∉ cs) (zone : List Char) :
    cutZone (cs ++ '%' :: zone) = (cs, some zone) := by
  obtain ⟨front, rest⟩ :=
    @parted_at_boundary cs ('%' :: zone) _ (ne_percent_of_not_mem unzoned) (by simp)
  simp only [cutZone, rest, front]

/-- Digits are a number, if it is not too large. -/
theorem readZone_of_digits (t : Interfaces) (literal : String) {digits : List Char}
    (nonempty : digits ≠ []) (all : digits.all (isDigitOf 10)) :
    readZone t literal digits = if valueOf 10 digits < 4294967296
      then .ok (UInt32.ofNat (valueOf 10 digits)) else .error (.format literal) := by
  have parts := @parted_at_boundary digits [] _ (List.all_eq_true.mp all) (ends_nil 10)
  rw [List.append_nil] at parts
  have some : digits.isEmpty = false := List.isEmpty_eq_false_iff.mpr nonempty
  by_cases small : valueOf 10 digits < 4294967296
  · simp [readZone, some, all, Ip.whole, NumberForm.read?, Ip.scopeForm, parts,
      NumberForm.admits, small]
  · simp [readZone, some, all, Ip.whole, NumberForm.read?, Ip.scopeForm, parts,
      NumberForm.admits, small]

theorem readZone_decimal (t : Interfaces) (literal : String) (index : UInt32) :
    readZone t literal (decimal index.toNat) = .ok index := by
  have digits : (decimal index.toNat).all (isDigitOf 10) :=
    List.all_eq_true.mpr fun _ member =>
      isDigitOf_of_mem_toDigits (by decide) (by decide) member
  have value : valueOf 10 (decimal index.toNat) = index.toNat :=
    valueOf_toDigits (by decide) (by decide) _
  have small : index.toNat < 4294967296 := index.toNat_lt
  have nonempty : decimal index.toNat ≠ [] := Nat.toDigits_ne_nil
  rw [readZone_of_digits t literal nonempty digits, value, if_pos small, UInt32.ofNat_toNat]

/-- Anything else is the name of an interface. -/
theorem readZone_of_name (t : Interfaces) (literal : String) {name : String} {index : UInt32}
    (found : t.indexOf? name = some index) (nonempty : name ≠ "")
    (lettered : name.toList.all (isDigitOf 10) = false) :
    readZone t literal name.toList = .ok index := by
  have some : name.toList.isEmpty = false := by
    simpa [List.isEmpty_eq_false_iff] using nonempty
  simp [readZone, some, lettered, found]

/-- How a zone is shown: by the name of its interface, or by its number if there is none. -/
def shownZone (t : Interfaces) (zone : UInt32) : List Char :=
  match t.nameOf? zone with
  | some name => name.toList
  | none => decimal zone.toNat

/-! ## Literals -/

theorem percent_not_mem_v6Text (o : Octets 16) : '%' ∉ Ip.v6Text o := by
  intro member
  rcases Ip.mem_v6Text member with digit | colon | point
  · exact absurd digit (by decide)
  · cases colon
  · cases point

section Literal

variable {literal : String} {cs zone : List Char} {port : UInt16}

theorem ofLiteral_of_quad {o : Octets 4} (colonless : ':' ∉ literal.toList)
    (quad : Ip.ofV4Literal? literal.toList = some o) :
    ofLiteral t literal port = ofOctets .inet o.toList port none := by
  simp only [ofLiteral, AddressMaker.ofLiteral, if_neg colonless, quad]

theorem ofLiteral_of_groups {o : Octets 16} (colon : ':' ∈ literal.toList)
    (parts : cutZone literal.toList = (cs, none)) (groups : Ip.ofV6Literal? cs = some o) :
    ofLiteral t literal port = ofOctets .inet6 o.toList port none := by
  simp only [ofLiteral, AddressMaker.ofLiteral, if_pos colon, parts, groups]

theorem ofLiteral_of_zone {o : Octets 16} (colon : ':' ∈ literal.toList)
    (parts : cutZone literal.toList = (cs, some zone)) (groups : Ip.ofV6Literal? cs = some o) :
    ofLiteral t literal port =
      (readZone t literal zone).bind fun scope => ofOctets .inet6 o.toList port (some scope) := by
  simp only [ofLiteral, AddressMaker.ofLiteral, if_pos colon, parts, groups]
  rfl

end Literal

/-- An IPv6 literal with a zone is parted at the percent sign. -/
theorem ofLiteral_v6Text (t : Interfaces) (o : Octets 16) (zone : List Char) (port : UInt16) :
    let literal := String.ofList (Ip.v6Text o ++ '%' :: zone)
    ofLiteral t literal port =
      (readZone t literal zone).bind fun scope => ofOctets .inet6 o.toList port (some scope) := by
  intro literal
  have colon : ':' ∈ literal.toList := by
    simp [literal, Ip.colon_mem_v6Text]
  have parts : cutZone literal.toList = (Ip.v6Text o, some zone) := by
    simp only [literal, String.toList_ofList, cutZone_append (percent_not_mem_v6Text o)]
  exact ofLiteral_of_zone colon parts (Ip.ofV6Literal?_v6Text o)

/-- Only an IPv6 address has a zone. -/
theorem exists_v6_of_zoned (zoned : a.scope = some zone) : ∃ o, a.ip = .v6 o := by
  cases ip : a.ip with
  | v4 o =>
    have zoneless := a.scope_eq_none (by rw [ip]; rfl)
    cases zoneless.symm.trans zoned
  | v6 o => exact ⟨o, rfl⟩

/-- An address with a zone is read back if its zone is. -/
theorem reads_back_iff_zone (t : Interfaces) (zoned : a.scope = some zone) :
    ofLiteral t (a.text t) a.port = .ok (a.withHostname "") ↔
      readZone t (a.text t) (shownZone t zone) = .ok zone := by
  obtain ⟨o, ip⟩ := exists_v6_of_zoned zoned
  have self := ofOctets_self a
  simp only [Address.family, Address.octets, ip, Ip.family, Ip.octets, zoned, if_true,
    Option.getD_some] at self
  have text : a.text t = String.ofList (Ip.v6Text o ++ '%' :: shownZone t zone) := by
    cases shown : t.nameOf? zone <;>
      simp only [Address.text, zoned, ip, Ip.text, shownZone, shown]
  have reads := ofLiteral_v6Text t o (shownZone t zone) a.port
  rw [← text] at reads
  rw [reads]
  constructor
  · intro built
    cases read : readZone t (a.text t) (shownZone t zone) with
    | error e =>
      rw [read] at built
      cases built
    | ok scope =>
      rw [read] at built
      change ofOctets .inet6 o.toList a.port (some scope) = _ at built
      have kept : a.scope = _ := (ofOctets_eq_ok built).2.2.2.1
      rw [zoned, eq_comm, Option.filter_eq_some_iff] at kept
      rw [Option.some.inj kept.1]
  · intro read
    rw [read]
    exact self

/-- How a zone is shown decides whether it is read back. -/
theorem readZone_shownZone_iff (consistent : t.Consistent) (literal : String) :
    readZone t literal (shownZone t zone) = .ok zone ↔
      ∀ name, t.nameOf? zone = some name → name.toList.all (isDigitOf 10) →
        valueOf 10 name.toList = zone.toNat := by
  unfold shownZone
  cases shown : t.nameOf? zone with
  | none =>
    refine iff_of_true (readZone_decimal t literal zone) ?_
    rintro _ ⟨⟩
  | some name =>
    have nonempty : name ≠ "" := fun empty => consistent.named zone (empty ▸ shown)
    dsimp only
    cases digits : name.toList.all (isDigitOf 10) with
    | false =>
      have found := consistent.agrees zone name shown
      refine iff_of_true (readZone_of_name t literal found nonempty digits) ?_
      rintro _ ⟨⟩ all
      cases digits.symm.trans all
    | true =>
      have bound : zone.toNat < 4294967296 := zone.toNat_lt
      rw [readZone_of_digits t literal (by simpa using nonempty) digits]
      constructor
      · intro read
        rintro _ ⟨⟩ -
        by_cases small : valueOf 10 name.toList < 4294967296
        · rw [if_pos small] at read
          rw [← Except.ok.inj read, UInt32.toNat_ofNat_of_lt' small]
        · rw [if_neg small] at read
          cases read
      · intro spelled
        rw [spelled name rfl digits, if_pos bound, UInt32.ofNat_toNat]

end Address

open Address in
/-- An address without a zone is read back from its text, its name apart, whatever interfaces there
are when it is written and when it is read. -/
theorem literal_of_unzoned_reads_back (t t' : Interfaces) (a : Address) (unzoned : a.scope = none) :
    Address.ofLiteral t' (a.text t) a.port = .ok (a.withHostname "") ∧
      '%' ∉ (a.text t).toList := by
  have self := ofOctets_self a
  have text : a.text t = String.ofList a.ip.text := by simp only [Address.text, unzoned]
  rw [text, String.toList_ofList]
  cases ip : a.ip with
  | v4 o =>
    have plain (c : Char) (other : isDigitOf 10 c = false) (apart : c ≠ '.') :
        c ∉ Ip.v4Text o := by
      intro member
      rcases Ip.mem_v4Text member with digit | point
      · exact absurd digit (by simp [other])
      · exact apart point
    have colonless := plain ':' (by decide) (by decide)
    constructor
    · simp only [Address.family, Address.octets, ip, Ip.family, Ip.octets] at self
      refine (ofLiteral_of_quad ?_ ?_).trans self
      · rwa [Ip.text, String.toList_ofList]
      · rw [Ip.text, String.toList_ofList, Ip.ofV4Literal?_v4Text]
    · exact plain '%' (by decide) (by decide)
  | v6 o =>
    have percentless := percent_not_mem_v6Text o
    constructor
    · simp only [Address.family, Address.octets, ip, Ip.family, Ip.octets, unzoned] at self
      have zero : ofOctets .inet6 o.toList a.port none =
          ofOctets .inet6 o.toList a.port (some 0) := by
        simp only [ofOctets, Option.filter_none, Option.filter_some, bne_self_eq_false,
          Bool.false_eq_true, if_false]
      refine (ofLiteral_of_groups ?_ ?_ (Ip.ofV6Literal?_v6Text o)).trans (zero.trans self)
      · rw [Ip.text, String.toList_ofList]
        exact Ip.colon_mem_v6Text o
      · rw [Ip.text, String.toList_ofList, cutZone_of_no_percent percentless]
    · exact percentless

/-- Groups with two runs of zeros, of which the second is longer. -/
def twoRuns : Address :=
  (Address.ofSocketAddr
    (.v6 ⟨[0, 1, 0, 0, 0, 0, 0, 2, 0, 0, 0, 0, 0, 0, 0, 3], rfl⟩ 80 0 0)).withHostname "gateway"

theorem literal_of_two_runs_reads_back :
    twoRuns.scope = none ∧ twoRuns.text ⟨[]⟩ = "1:0:0:2::3" ∧
      Address.ofLiteral ⟨[("lo", 1)]⟩ (twoRuns.text ⟨[]⟩) twoRuns.port =
        .ok (twoRuns.withHostname "") := by
  refine ⟨rfl, by cbv, ?_⟩
  exact (literal_of_unzoned_reads_back ⟨[]⟩ ⟨[("lo", 1)]⟩ twoRuns rfl).1

open Address in
/-- A zone is read back from the text of its address, shown by a name or by a number, unless it is
shown by a name that is made of digits and these do not spell the index of the zone. -/
theorem literal_of_zoned_reads_back_iff {t : Interfaces} (consistent : t.Consistent) {a : Address}
    {zone : UInt32} (zoned : a.scope = some zone) :
    Address.ofLiteral t (a.text t) a.port = .ok (a.withHostname "") ↔
      ∀ name, t.nameOf? zone = some name → name.toList.all (isDigitOf 10) →
        valueOf 10 name.toList = zone.toNat :=
  (reads_back_iff_zone t zoned).trans (readZone_shownZone_iff consistent (a.text t))

/-- An address on a link. -/
def onLink (zone : UInt32) : Address :=
  Address.ofSocketAddr
    (.v6 ⟨[0xFE, 0x80, 0, 0, 0, 0, 0, 0, 0, 0, 0, 0, 0, 0, 0, 1], rfl⟩ 9000 0 zone)

/-- The only interface of a host. -/
def soleInterface (name : String) (index : UInt32) : Interfaces := ⟨[(name, index)]⟩

theorem nameOf?_soleInterface {name shown : String} {own index : UInt32}
    (found : (soleInterface name own).nameOf? index = some shown) : index = own ∧ shown = name := by
  obtain ⟨found, -⟩ := Option.filter_eq_some_iff.mp found
  obtain ⟨entry, first, rfl⟩ := Option.map_eq_some_iff.mp found
  obtain rfl := List.mem_singleton.mp (List.mem_of_find?_eq_some first)
  have same := List.find?_some first
  exact ⟨(beq_iff_eq.mp same).symm, rfl⟩

theorem consistent_soleInterface {name : String} {own : UInt32} (nonempty : name ≠ "")
    (found : (soleInterface name own).indexOf? name = some own) :
    (soleInterface name own).Consistent where
  agrees index shown named := by
    obtain ⟨rfl, rfl⟩ := nameOf?_soleInterface named
    exact found
  named index named := nonempty (nameOf?_soleInterface named).2.symm

theorem literal_of_zoned_reads_back_of_eth0 :
    let t := soleInterface "eth0" 3
    t.Consistent ∧ (onLink 3).scope = some 3 ∧ (onLink 3).text t = "fe80::1%eth0" ∧
      (onLink 4).scope = some 4 ∧ (onLink 4).text t = "fe80::1%4" ∧
      Address.ofLiteral t ((onLink 3).text t) (onLink 3).port = .ok ((onLink 3).withHostname "") ∧
      Address.ofLiteral t ((onLink 4).text t) (onLink 4).port =
        .ok ((onLink 4).withHostname "") := by
  intro t
  have consistent : t.Consistent := consistent_soleInterface (by decide) (by decide)
  refine ⟨consistent, rfl, by cbv, rfl, by cbv, ?_, ?_⟩
  · refine (literal_of_zoned_reads_back_iff consistent rfl).mpr fun name named digits => ?_
    obtain ⟨-, rfl⟩ := nameOf?_soleInterface named
    cases digits
  · refine (literal_of_zoned_reads_back_iff consistent rfl).mpr fun name named digits => ?_
    cases (nameOf?_soleInterface named).1

/-- An interface that is called by another number than its index: its zone is read back as that
other one, on which there may be another link or none. -/
theorem zone_of_numeric_name_reads_as_other :
    let t := soleInterface "42" 3
    let a := onLink 3
    (∀ index name, t.nameOf? index = some name → t.indexOf? name = some index) ∧
      (∀ index name, t.nameOf? index = some name → name ≠ "" ∧ name.utf8ByteSize ≤ 15 ∧
        ∀ c ∈ name.toList, c ≠ ':' ∧ c ≠ '/' ∧ isBlank c = false) ∧
      a.family = .inet6 ∧ a.scope = some 3 ∧ a.text t = "fe80::1%42" ∧
      Address.ofLiteral t (a.text t) a.port = .ok (onLink 42) ∧
      Address.ofLiteral t (a.text t) a.port ≠ .ok (a.withHostname "") := by
  intro t a
  have text : a.text t = "fe80::1%42" := by cbv
  have read : Address.ofLiteral t "fe80::1%42" a.port = .ok (onLink 42) := by cbv
  refine ⟨?_, ?_, rfl, rfl, text, ?_, ?_⟩
  · intro index name named
    obtain ⟨rfl, rfl⟩ := nameOf?_soleInterface named
    decide
  · intro index name named
    obtain ⟨rfl, rfl⟩ := nameOf?_soleInterface named
    have visible : isBlank '4' = false ∧ isBlank '2' = false := by decide
    exact ⟨by decide, by decide, by simpa using visible⟩
  · rw [text, read]
  · rw [text, read]
    intro same
    have zones := congrArg Address.scope (Except.ok.inj same)
    cases zones

end SocketBridge
