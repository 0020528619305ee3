import Mathlib.Data.List.Forall2
import SocketBridge.Config.Rules

/-!
# The rules for settings

Seven rules are held against settings. Each is given here by what it forbids, and what is reported
of settings is told from the rules that they break.
-/

namespace SocketBridge

/-- The same letter, or the same character if it is no ASCII letter. -/
def SameLetter (c d : Char) : Prop :=
  c = d ∨ (c.isUpper ∧ d.toNat = c.toNat + 32) ∨ (d.isUpper ∧ c.toNat = d.toNat + 32)

instance (c d : Char) : Decidable (SameLetter c d) := inferInstanceAs (Decidable (_ ∨ _))

/-- The same text, whatever the case of its ASCII letters. -/
def SameLetters (s t : String) : Prop := List.Forall₂ SameLetter s.toList t.toList

instance (s t : String) : Decidable (SameLetters s t) :=
  inferInstanceAs (Decidable (List.Forall₂ ..))

theorem toLower_of_not_upper {c : Char} (other : ¬c.isUpper) : c.toLower = c :=
  dif_neg fun range => other (decide_eq_true range)

theorem toNat_toLower {c : Char} (upper : c.isUpper) : c.toLower.toNat = c.toNat + 32 := by
  have range : c.val ≥ 'A'.val ∧ c.val ≤ 'Z'.val := of_decide_eq_true upper
  have bound : c.toNat ≤ 90 := UInt32.le_iff_toNat_le.mp range.2
  have shifted : c.toLower.toNat = (c.toNat + 32) % 4294967296 :=
    congrArg Char.toNat (dif_pos range)
  omega

/-- The lower-case letter of a character is one that is given in lower case. -/
theorem toLower_eq_iff {c d : Char} (lower : ¬d.isUpper) : c.toLower = d ↔ SameLetter c d := by
  by_cases upper : c.isUpper
  · have other : c ≠ d := fun same => lower (same ▸ upper)
    rw [← Char.toNat_inj, toNat_toLower upper]
    simp [SameLetter, upper, lower, other, eq_comm]
  · simp [SameLetter, upper, lower, toLower_of_not_upper upper]

theorem map_toLower_eq_iff {cs ds : List Char} (lower : ∀ d ∈ ds, ¬d.isUpper) :
    cs.map Char.toLower = ds ↔ List.Forall₂ SameLetter cs ds := by
  induction ds generalizing cs with
  | nil => simp
  | cons d ds ih =>
    obtain ⟨first, rest⟩ := List.forall_mem_cons.mp lower
    cases cs with
    | nil => simp
    | cons c cs => simp [toLower_eq_iff first, ih rest]

theorem lower_of_level {level : String} (known : level ∈ logLevels) :
    ∀ d ∈ level.toList, ¬d.isUpper := by
  have lower : logLevels.all fun level => level.toList.all fun d => !d.isUpper := by decide
  intro d inside
  have small := List.all_eq_true.mp (List.all_eq_true.mp lower level known) d inside
  simpa using small

namespace ObservabilityConfig

/-- A level in lower case is one of the five if the level is that one in any case. -/
theorem lowerLevel_eq_iff (c : ObservabilityConfig) {level : String} (known : level ∈ logLevels) :
    c.lowerLevel = level ↔ SameLetters c.logLevel level := by
  rw [lowerLevel, ← String.toList_inj, String.toList_map,
    map_toLower_eq_iff (lower_of_level known), SameLetters]

end ObservabilityConfig

/-- The rules for settings. -/
inductive Rule
  | workerThreads
  | threadName
  | readBufferSize
  | listenBacklog
  | bindHost
  | logLevel
  | metricsAddress
deriving DecidableEq

namespace Rule

/-- All rules, in the order in which they are reported. -/
def all : List Rule :=
  [workerThreads, threadName, readBufferSize, listenBacklog, bindHost, logLevel, metricsAddress]

theorem mem_all (rule : Rule) : rule ∈ all := by cases rule <;> decide

/-- The path of the setting that a rule is about. -/
def field : Rule → String
  | workerThreads => "io.worker_threads"
  | threadName => "io.thread_name"
  | readBufferSize => "io.read_buffer_size"
  | listenBacklog => "io.listen_backlog"
  | bindHost => "server.bind_host"
  | logLevel => "observability.log_level"
  | metricsAddress => "observability.metrics_address"

theorem nodup_field : (all.map field).Nodup := by decide

/-- Whether settings break a rule. -/
def Broken (c : BridgeConfig) : Rule → Prop
  | workerThreads => c.io.workerThreads = 0
  | threadName => c.io.threadName = ""
  | readBufferSize => c.io.readBufferSize < 64
  | listenBacklog => c.io.listenBacklog = 0
  | bindHost => c.server.bindHost = some ""
  | logLevel => ∀ level ∈ logLevels, ¬SameLetters c.observability.logLevel level
  | metricsAddress => SocketAddr.ofText? c.observability.metricsAddress.toList = none

instance (c : BridgeConfig) (rule : Rule) : Decidable (rule.Broken c) :=
  match rule with
  | workerThreads => inferInstanceAs (Decidable (_ = _))
  | threadName => inferInstanceAs (Decidable (_ = _))
  | readBufferSize => inferInstanceAs (Decidable (_ < _))
  | listenBacklog => inferInstanceAs (Decidable (_ = _))
  | bindHost => inferInstanceAs (Decidable (_ = _))
  | logLevel => inferInstanceAs (Decidable (∀ level ∈ logLevels, ¬_))
  | metricsAddress => inferInstanceAs (Decidable (_ = _))

/-- What is said of settings that break a rule. -/
def message (c : BridgeConfig) : Rule → String
  | workerThreads => "must be at least 1"
  | threadName => "must not be empty"
  | readBufferSize => "must be at least 64 bytes"
  | listenBacklog => "must be positive"
  | bindHost => "must not be empty; omit it to bind every family"
  | logLevel => "unknown level " ++ Text.quoted c.observability.logLevel
  | metricsAddress => Text.quoted c.observability.metricsAddress ++ " is not a socket address"

def violation (c : BridgeConfig) (rule : Rule) : Violation := ⟨rule.field, rule.message c⟩

/-- What a rule that is checked on its own contributes, over some of the rules. -/
theorem flatMap_violationIf (c : BridgeConfig) (rules : List Rule) :
    rules.flatMap (fun rule => violationIf (rule.Broken c) rule.field (rule.message c)) =
      (rules.filter fun rule => rule.Broken c).map (violation c) := by
  induction rules with
  | nil => rfl
  | cons rule rules ih =>
    rw [List.flatMap_cons, ih]
    by_cases broken : rule.Broken c <;> simp [violationIf, broken, violation]

end Rule

theorem ObservabilityConfig.unknown_lowerLevel (c : ObservabilityConfig) :
    (!logLevels.contains c.lowerLevel) =
      decide (∀ level ∈ logLevels, ¬SameLetters c.logLevel level) := by
  rw [Bool.eq_iff_iff, decide_eq_true_iff, Bool.not_eq_true', ← Bool.not_eq_true,
    List.contains_iff_mem]
  constructor
  · intro unknown level known same
    exact unknown ((c.lowerLevel_eq_iff known).mpr same ▸ known)
  · intro different known
    exact different _ known ((c.lowerLevel_eq_iff known).mp rfl)

namespace BridgeConfig

variable (c : BridgeConfig)

/-- The bridge goes by the first four rules. -/
theorem io_violations_eq :
    c.io.violations =
      ((Rule.all.take 4).filter fun rule => rule.Broken c).map (Rule.violation c) := by
  have least : s!"must be at least {minReadBuffer.toNat} bytes" = "must be at least 64 bytes" := by
    decide
  rw [← Rule.flatMap_violationIf]
  simp only [IoConfig.violations, beq_eq_decide, least, Rule.all, List.take, List.flatMap_cons,
    List.flatMap_nil, List.append_nil, List.append_assoc]
  rfl

theorem violations_eq :
    c.violations = (Rule.all.filter fun rule => rule.Broken c).map (Rule.violation c) := by
  have address : (SocketAddr.ofText? c.observability.metricsAddress.toList).isNone =
      decide (SocketAddr.ofText? c.observability.metricsAddress.toList = none) := by
    rw [Bool.eq_iff_iff, Option.isNone_iff_eq_none, decide_eq_true_iff]
  rw [← List.take_append_drop 4 Rule.all, List.filter_append, List.map_append, ← io_violations_eq,
    violations, List.append_assoc]
  refine congrArg (c.io.violations ++ ·) ?_
  rw [← Rule.flatMap_violationIf]
  simp only [ServerConfig.violations, ObservabilityConfig.violations, beq_eq_decide, address,
    ObservabilityConfig.unknown_lowerLevel, Rule.all, List.drop, List.flatMap_cons,
    List.flatMap_nil, List.append_nil]
  rfl

example :
    let c : BridgeConfig := {
      io := { workerThreads := 0, readBufferSize := 8, listenBacklog := 0 }
      observability := { logLevel := "loud", metricsAddress := "nowhere" } }
    c.violations.map Violation.field = ["io.worker_threads", "io.read_buffer_size",
      "io.listen_backlog", "observability.log_level", "observability.metrics_address"] := by
  decide +kernel

/-- Settings that break no rule. -/
def Valid : Prop := ∀ rule : Rule, ¬rule.Broken c

theorem violations_eq_nil_iff : c.violations = [] ↔ c.Valid := by
  rw [violations_eq, List.map_eq_nil_iff, List.filter_eq_nil_iff]
  constructor
  · intro kept rule broken
    exact kept rule rule.mem_all (decide_eq_true broken)
  · intro valid rule _ broken
    exact valid rule (of_decide_eq_true broken)

/-- No setting is reported twice. -/
theorem nodup_field_violations : (c.violations.map Violation.field).Nodup := by
  have fields : Violation.field ∘ Rule.violation c = Rule.field := rfl
  rw [violations_eq, List.map_map, fields]
  exact Rule.nodup_field.sublist (List.filter_sublist.map Rule.field)

/-- What the bridge reports is what is reported of its own settings. -/
theorem io_violations_eq_filter :
    c.io.violations = c.violations.filter fun v => "io.".toList <+: v.field.toList := by
  have own :
      Rule.all.filter (fun rule => "io.".toList <+: rule.field.toList) = Rule.all.take 4 := by
    decide
  have fields : (fun v : Violation => decide ("io.".toList <+: v.field.toList)) ∘ Rule.violation c =
      fun rule => decide ("io.".toList <+: rule.field.toList) := rfl
  rw [io_violations_eq, violations_eq, List.filter_map, fields, List.filter_comm, own]

variable {c}

theorem Valid.io (valid : c.Valid) : c.io.violations = [] := by
  rw [io_violations_eq_filter, (violations_eq_nil_iff c).mpr valid, List.filter_nil]

/-- The settings that hold where nothing else is said break no rule. -/
theorem valid_default : ({} : BridgeConfig).Valid := by
  intro rule
  cases rule <;> decide +kernel

end BridgeConfig

end SocketBridge
