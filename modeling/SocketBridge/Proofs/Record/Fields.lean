import SocketBridge.Proofs.Address
import SocketBridge.Proofs.Address.Stored
import SocketBridge.Proofs.Record.Plan

/-!
# The fields of an address

Writing an address is writing its fields one after another. Reading one is a plan, and three things
can have become of it: what was read is all that is written of an address, or is the beginning of
that, or its last field is refused. That an address cannot be built from fields that were not refused
never happens. Nothing is said here of how fields are laid out.
-/

namespace SocketBridge

variable {σ τ : Type}

def Family.rawLength (family : Family) : Nat := if family = .inet6 then 16 else 4

namespace Address

section Codes

/-- Two codes are those of families with records. -/
theorem storedFamily?_eq (code : Int32) : storedFamily? code =
    if code = Family.inet.code then some (.inet, 4)
    else if code = Family.inet6.code then some (.inet6, 16) else none := by
  by_cases inet : code = Family.inet.code
  · rw [if_pos inet, inet]
    rfl
  by_cases inet6 : code = Family.inet6.code
  · rw [if_neg inet, if_pos inet6, inet6]
    rfl
  by_cases unspec : code = Family.unspec.code
  · rw [unspec]
    rfl
  by_cases unix : code = Family.unix.code
  · rw [unix]
    rfl
  have none : (Enumeration.members : List Family).find? (fun f => Enumeration.code f == code)
      = none := by
    simp only [List.find?_eq_none, beq_iff_eq]
    intro family _ same
    cases family with
    | unspec => exact unspec same.symm
    | inet => exact inet same.symm
    | inet6 => exact inet6 same.symm
    | unix => exact unix same.symm
  simp only [storedFamily?, Enumeration.ofCode, none, if_neg inet, if_neg inet6]

theorem storedFamily?_eq_some_iff {code : Int32} {family : Family} {n : Nat} :
    storedFamily? code = some (family, n) ↔
      (family = .inet ∨ family = .inet6) ∧ code = family.code ∧ n = family.rawLength := by
  rw [storedFamily?_eq]
  constructor
  · intro stored
    split at stored
    · rename_i same
      cases stored
      exact ⟨Or.inl rfl, same, rfl⟩
    · split at stored
      · rename_i same
        cases stored
        exact ⟨Or.inr rfl, same, rfl⟩
      · cases stored
  · rintro ⟨rfl | rfl, rfl, rfl⟩
    · rfl
    · rfl

theorem storedFamily?_eq_none_iff {code : Int32} :
    storedFamily? code = none ↔ code ≠ Family.inet.code ∧ code ≠ Family.inet6.code := by
  rw [storedFamily?_eq]
  split
  · simp [*]
  · split
    · simp [*]
    · simp [*]

theorem port?_eq (n : Int32) : port? n =
    if 0 ≤ n.toInt ∧ n.toInt ≤ 65535 then some (UInt16.ofNat n.toInt.toNat) else none := by
  simp only [port?, Int32.le_iff_toInt_le]
  rfl

theorem port?_eq_some_iff {n : Int32} {port : UInt16} :
    port? n = some port ↔ n = Int32.ofNat port.toNat := by
  have small := port.toNat_lt
  have value : (Int32.ofNat port.toNat).toInt = port.toNat := Int32.toInt_ofNat_of_lt (by omega)
  rw [port?_eq, ← Int32.toInt_inj, value]
  constructor
  · intro inside
    split at inside
    · rw [← Option.some.inj inside, UInt16.toNat_ofNat']
      omega
    · cases inside
  · intro same
    rw [if_pos (by omega), same, Int.toNat_natCast, UInt16.ofNat_toNat]

theorem port?_eq_none_iff {n : Int32} : port? n = none ↔ n.toInt < 0 ∨ 65535 < n.toInt := by
  rw [port?_eq]
  split
  · simp
    omega
  · simp
    omega

/-- The bits of a zone come back, zero standing for none. -/
theorem toInt32_scope (zone : Option Int32) :
    (((zone.map Int32.toUInt32).filter (· != 0)).getD 0).toInt32 = zone.getD 0 := by
  cases zone with
  | none => rfl
  | some n =>
    have back := Int32.toInt32_toUInt32 n
    by_cases zero : n.toUInt32 = 0
    · rw [zero] at back
      rw [Option.map_some, Option.filter_some, zero]
      exact back
    · rw [Option.map_some, Option.filter_some, if_pos (by simpa using zero)]
      exact back

end Codes

/-- What is written of an address, in this order. -/
def fields (a : Address) : List Primitive :=
  [.int a.family.code, .text (a.hostname.getD ""), .block a.octets,
    .int (Int32.ofNat a.port.toNat)] ++
    if a.family = .inet6 then [.int (a.scope.getD 0).toInt32] else []

theorem write_eq_forM (w : RecordWriter σ) (a : Address) : a.write w = a.fields.forM w.put := by
  unfold write fields
  by_cases zoned : a.family = .inet6
  · simp only [if_pos zoned, List.cons_append, List.nil_append, List.forM_eq_forM, List.forM_cons,
      List.forM_nil, bind_pure_unit]
    rfl
  · simp only [if_neg zoned, List.append_nil, List.forM_eq_forM, List.forM_cons, List.forM_nil]
    rfl

section Plan

/-- What becomes of fields that were not refused. -/
def built (family : Family) (name : String) (raw : List UInt8) (port : UInt16)
    (zone : Option Int32) : RecordPlan Address :=
  match ofOctets family raw port (zone.map Int32.toUInt32) with
  | .ok a => .done (a.withHostname name)
  | .error e => .refuse (.address e)

/-- What is asked behind the raw address. -/
def portPlan (family : Family) (name : String) (raw : List UInt8) : RecordPlan Address :=
  .ask .int fun n =>
    match port? n with
    | none => .refuse (.portOutOfRange n)
    | some port =>
      if family = .inet6 then .ask .int fun zone => built family name raw port (some zone)
      else built family name raw port none

/-- What is asked to read an address. -/
def plan : RecordPlan Address :=
  .ask .int fun code =>
    match storedFamily? code with
    | none => .refuse (.unsupportedFamily code)
    | some (family, expected) =>
      .ask .text fun name =>
        .ask .block fun raw =>
          if raw.length ≠ expected then .refuse (.rawLength family expected raw.length)
          else portPlan family name raw

theorem read_eq_run (r : RecordReader σ) : read r = plan.run r := by
  unfold read AddressMaker.read plan
  refine bind_congr fun code => ?_
  rcases stored : storedFamily? code with _ | ⟨family, expected⟩
  · simp only [stored]
    rfl
  simp only [stored]
  refine bind_congr fun name => bind_congr fun raw => ?_
  by_cases wrong : raw.length ≠ expected
  · simp only [if_pos wrong]
    rfl
  simp only [if_neg wrong]
  refine bind_congr fun n => ?_
  rcases inside : port? n with _ | port
  · simp only [inside]
    rfl
  simp only [inside]
  by_cases zoned : family = .inet6
  · simp only [if_pos zoned, bind_map_left]
    refine bind_congr fun zone => ?_
    change _ = (built family name raw port (some zone)).run r
    unfold built
    cases ofOctets family raw port ((some zone).map Int32.toUInt32) <;> rfl
  · simp only [if_neg zoned, pure_bind]
    unfold built
    cases ofOctets family raw port (Option.map Int32.toUInt32 none) <;> rfl

/-- Fields that say what no address does; the last of them is at fault. -/
inductive Refuses : List Primitive → RecordError → Prop
  | family {code : Int32} (foreign : code ≠ Family.inet.code ∧ code ≠ Family.inet6.code) :
    Refuses [.int code] (.unsupportedFamily code)
  | raw {family : Family} (known : family = .inet ∨ family = .inet6) (name : String)
    {raw : List UInt8} (wrong : raw.length ≠ family.rawLength) :
    Refuses [.int family.code, .text name, .block raw]
      (.rawLength family family.rawLength raw.length)
  | port {family : Family} (known : family = .inet ∨ family = .inet6) (name : String)
    {raw : List UInt8} (fits : raw.length = family.rawLength) {n : Int32}
    (outside : n.toInt < 0 ∨ 65535 < n.toInt) :
    Refuses [.int family.code, .text name, .block raw, .int n] (.portOutOfRange n)

/-- Fields that some address begins with, before a field of this kind. -/
def Awaits (got : List Primitive) (kind : PrimitiveKind) : Prop :=
  ∃ (a : Address) (next : Primitive) (more : List Primitive),
    next.kind = kind ∧ a.fields = got ++ next :: more

theorem fields_of_built {family : Family} {raw : List UInt8} {port : UInt16} (zone : Option Int32)
    {base : Address} (ok : ofOctets family raw port (zone.map Int32.toUInt32) = .ok base)
    (name : String) : (base.withHostname name).fields =
      [.int family.code, .text name, .block raw, .int (Int32.ofNat port.toNat)] ++
        if family = .inet6 then [.int (zone.getD 0)] else [] := by
  obtain ⟨rfl, rfl, rfl, scope, -⟩ := ofOctets_eq_ok ok
  have bits := toInt32_scope zone
  rw [← scope] at bits
  rw [← bits, fields, hostname_withHostname]
  rfl

theorem exists_fields {family : Family} (known : family = .inet ∨ family = .inet6) (name : String)
    {raw : List UInt8} (fits : raw.length = family.rawLength) (port : UInt16) (zone : Int32) :
    ∃ a : Address, a.fields =
      [.int family.code, .text name, .block raw, .int (Int32.ofNat port.toNat)] ++
        if family = .inet6 then [.int zone] else [] := by
  rcases known with rfl | rfl
  · obtain ⟨base, ok⟩ := exists_ofOctets_iff.mpr ⟨Or.inl rfl, fits, fun _ => Or.inl rfl⟩
    exact ⟨base.withHostname name, fields_of_built none ok name⟩
  · obtain ⟨base, ok⟩ := exists_ofOctets_iff.mpr ⟨Or.inr rfl, fits, nofun⟩
    exact ⟨base.withHostname name, fields_of_built (some zone) ok name⟩

theorem leads_built {family : Family} (known : family = .inet ∨ family = .inet6) {name : String}
    {raw : List UInt8} (fits : raw.length = family.rawLength) {port : UInt16} {zone : Option Int32}
    (zoned : family = .inet → zone = none) {got : List Primitive} {left : RecordPlan Address}
    (leads : (built family name raw port zone).Leads got left) :
    got = [] ∧ ∃ a : Address, left = .done a ∧ a.fields =
      [.int family.code, .text name, .block raw, .int (Int32.ofNat port.toNat)] ++
        if family = .inet6 then [.int (zone.getD 0)] else [] := by
  obtain ⟨base, ok⟩ : ∃ base, ofOctets family raw port (zone.map Int32.toUInt32) = .ok base :=
    exists_ofOctets_iff.mpr ⟨known, fits, fun inet => Or.inl (by rw [zoned inet]; rfl)⟩
  rw [built, ok] at leads
  cases leads
  exact ⟨rfl, _, rfl, fields_of_built zone ok name⟩

/-- What can have become of the plan when some fields have been read. -/
inductive Reaches : List Primitive → RecordPlan Address → Prop
  | done (a : Address) : Reaches a.fields (.done a)
  | refuse {got : List Primitive} {e : RecordError} (refuses : Refuses got e) :
    Reaches got (.refuse e)
  | ask {got : List Primitive} {kind : PrimitiveKind} {next : kind.Value → RecordPlan Address}
    (awaits : Awaits got kind) : Reaches got (.ask kind next)

theorem reaches_of_portPlan {family : Family} (known : family = .inet ∨ family = .inet6)
    {name : String} {raw : List UInt8} (fits : raw.length = family.rawLength)
    {got : List Primitive} {left : RecordPlan Address}
    (leads : (portPlan family name raw).Leads got left) :
    Reaches ([.int family.code, .text name, .block raw] ++ got) left := by
  rcases leads.cases_ask with ⟨rfl, rfl⟩ | ⟨n, afterPort, rfl, opened⟩
  · obtain ⟨a, same⟩ := exists_fields known name fits 0 0
    exact .ask ⟨a, _, _, rfl, same⟩
  rcases inside : port? n with _ | port
  · rw [inside] at opened
    cases opened
    exact .refuse (.port known name fits (port?_eq_none_iff.mp inside))
  rw [inside] at opened
  obtain rfl := port?_eq_some_iff.mp inside
  by_cases zoned : family = .inet6
  · simp only [if_pos zoned] at opened
    rcases opened.cases_ask with ⟨rfl, rfl⟩ | ⟨zone, afterZone, rfl, ended⟩
    · obtain ⟨a, same⟩ := exists_fields known name fits port 0
      rw [if_pos zoned] at same
      exact .ask ⟨a, _, _, rfl, same⟩
    · have unzoned : family = .inet → some zone = none := fun inet => by simp [inet] at zoned
      obtain ⟨rfl, a, rfl, same⟩ := leads_built known fits unzoned ended
      rw [if_pos zoned] at same
      exact same ▸ .done a
  · simp only [if_neg zoned] at opened
    obtain ⟨rfl, a, rfl, same⟩ := leads_built known fits (fun _ => rfl) opened
    rw [if_neg zoned] at same
    exact same ▸ .done a

theorem reaches_of_plan {got : List Primitive} {left : RecordPlan Address}
    (leads : plan.Leads got left) : Reaches got left := by
  rcases leads.cases_ask with ⟨rfl, rfl⟩ | ⟨code, afterCode, rfl, coded⟩
  · have zeros : ([0, 0, 0, 0] : List UInt8).length = Family.inet.rawLength := rfl
    obtain ⟨a, same⟩ := exists_fields (Or.inl rfl) "" zeros 0 0
    exact .ask ⟨a, _, _, rfl, same⟩
  rcases stored : storedFamily? code with _ | ⟨family, expected⟩
  · rw [stored] at coded
    cases coded
    exact .refuse (.family (storedFamily?_eq_none_iff.mp stored))
  rw [stored] at coded
  obtain ⟨known, rfl, rfl⟩ := storedFamily?_eq_some_iff.mp stored
  have zeros : (List.replicate family.rawLength (0 : UInt8)).length = family.rawLength :=
    List.length_replicate
  rcases coded.cases_ask with ⟨rfl, rfl⟩ | ⟨name, afterName, rfl, named⟩
  · obtain ⟨a, same⟩ := exists_fields known "" zeros 0 0
    exact .ask ⟨a, _, _, rfl, same⟩
  rcases named.cases_ask with ⟨rfl, rfl⟩ | ⟨raw, afterRaw, rfl, filled⟩
  · obtain ⟨a, same⟩ := exists_fields known name zeros 0 0
    exact .ask ⟨a, _, _, rfl, same⟩
  by_cases fits : raw.length = family.rawLength
  · rw [if_neg (not_not_intro fits)] at filled
    exact reaches_of_portPlan known fits filled
  · rw [if_pos fits] at filled
    cases filled
    exact .refuse (.raw known name fits)

/-- An address is built again from what is written of it. -/
theorem built_self (a : Address) {zone : Option Int32}
    (same : zone.map Int32.toUInt32 = if a.family = .inet6 then some (a.scope.getD 0) else none) :
    built a.family (a.hostname.getD "") a.octets a.port zone = .done a := by
  rw [built, same, ofOctets_self]
  exact congrArg _ (a.withHostname_getD "")

/-- The plan is done with what is written of an address. -/
theorem leads_fields (a : Address) : plan.Leads a.fields (.done a) := by
  have stored : storedFamily? a.family.code = some (a.family, a.family.rawLength) :=
    storedFamily?_eq_some_iff.mpr ⟨a.family_cases, rfl, rfl⟩
  have fits : a.octets.length = a.family.rawLength := a.length_octets
  have inside : port? (Int32.ofNat a.port.toNat) = some a.port := port?_eq_some_iff.mpr rfl
  refine .on ?_
  rw [stored]
  refine .on (.on ?_)
  rw [if_neg (not_not_intro fits)]
  refine .on ?_
  rw [inside]
  by_cases zoned : a.family = .inet6
  · simp only [if_pos zoned]
    refine .on ?_
    rw [built_self a (by rw [if_pos zoned, Option.map_some, UInt32.toUInt32_toInt32])]
    exact .here _
  · simp only [if_neg zoned]
    rw [built_self a (by rw [if_neg zoned, Option.map_none])]
    exact .here _

theorem leads_of_refuses {got : List Primitive} {e : RecordError} (refuses : Refuses got e) :
    plan.Leads got (.refuse e) := by
  cases refuses with
  | family foreign =>
    refine .on ?_
    rw [storedFamily?_eq_none_iff.mpr foreign]
    exact .here _
  | raw known name wrong =>
    refine .on ?_
    rw [storedFamily?_eq_some_iff.mpr ⟨known, rfl, rfl⟩]
    refine .on (.on ?_)
    rw [if_pos wrong]
    exact .here _
  | port known name fits outside =>
    refine .on ?_
    rw [storedFamily?_eq_some_iff.mpr ⟨known, rfl, rfl⟩]
    refine .on (.on ?_)
    rw [if_neg (not_not_intro fits)]
    refine .on ?_
    rw [port?_eq_none_iff.mpr outside]
    exact .here _

theorem leads_done_iff {got : List Primitive} {a : Address} :
    plan.Leads got (.done a) ↔ got = a.fields := by
  constructor
  · intro leads
    cases reaches_of_plan leads
    rfl
  · rintro rfl
    exact leads_fields a

theorem leads_refuse_iff {got : List Primitive} {e : RecordError} :
    plan.Leads got (.refuse e) ↔ Refuses got e := by
  constructor
  · intro leads
    cases reaches_of_plan leads with
    | refuse refuses => exact refuses
  · exact leads_of_refuses

theorem leads_ask_iff {got : List Primitive} {kind : PrimitiveKind} :
    (∃ next, plan.Leads got (.ask kind next)) ↔ Awaits got kind := by
  constructor
  · rintro ⟨next, leads⟩
    cases reaches_of_plan leads with
    | ask awaits => exact awaits
  · rintro ⟨a, p, more, rfl, split⟩
    exact (split ▸ leads_fields a).exists_ask

end Plan

section Read

variable {r : RecordReader σ} {s s' : σ}

/-- An address is read where a reader gives what is written of it. -/
theorem read_eq_ok_iff_gives {a : Address} : read r s = .ok a s' ↔ r.Gives s a.fields s' := by
  rw [read_eq_run, RecordPlan.run_eq_ok_iff]
  constructor
  · rintro ⟨got, leads, gives⟩
    exact leads_done_iff.mp leads ▸ gives
  · intro gives
    exact ⟨a.fields, leads_fields a, gives⟩

/-- Reading an address fails with what it refuses or with the failure of a call. -/
theorem read_eq_error_iff {e : RecordError} : read r s = .error e s' ↔
    ∃ got between, r.Gives s got between ∧ ((Refuses got e ∧ s' = between) ∨
      ∃ kind, Awaits got kind ∧ r.get kind between = .error e s') := by
  rw [read_eq_run, RecordPlan.run_eq_error_iff]
  simp only [leads_refuse_iff, ← leads_ask_iff, exists_and_right]

end Read

end Address

end SocketBridge
