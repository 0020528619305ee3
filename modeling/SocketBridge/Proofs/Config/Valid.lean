import SocketBridge.Bridge.Start
import SocketBridge.Echo.Start
import SocketBridge.Proofs.Config.Rules
import SocketBridge.Proofs.Fallible

/-!
# What valid settings are good for

The settings of a file break no rule, and whoever takes them over finds nothing to refuse: a bridge
starts, the metrics have an address to be shown at, and the log knows its level.
-/

namespace SocketBridge

namespace BridgeConfig

variable {c : BridgeConfig}

/-- A text gives the settings that are written in it, if they break no rule. -/
theorem ofText_eq_ok_iff {text : String} :
    ofText text = .ok c ↔ (Toml.read text).bind (ofData? .file) = some c ∧ c.Valid := by
  unfold ofText
  cases (Toml.read text).bind (ofData? .file) with
  | none => simp
  | some written =>
    simp only [Option.some.injEq, ← violations_eq_nil_iff]
    by_cases valid : written.violations = []
    · rw [if_pos valid, Except.ok.injEq]
      exact ⟨fun same => ⟨same, same ▸ valid⟩, And.left⟩
    · rw [if_neg valid]
      exact ⟨nofun, fun ⟨same, kept⟩ => absurd (same ▸ kept) valid⟩

theorem valid_of_ofFile {content : Option (List UInt8)} (given : ofFile content = .ok c) :
    c.Valid := by
  unfold ofFile at given
  split at given
  · cases given
  · split at given
    · cases given
    · exact (ofText_eq_ok_iff.mp given).2

/-- A level that breaks no rule is one of the five in lower case. -/
theorem Valid.level (valid : c.Valid) :
    c.observability.lowerLevel ∈ logLevels ∧
      SameLetters c.observability.logLevel c.observability.lowerLevel := by
  have known : ¬∀ level ∈ logLevels, ¬SameLetters c.observability.logLevel level := valid .logLevel
  push Not at known
  obtain ⟨level, known, same⟩ := known
  rw [(c.observability.lowerLevel_eq_iff known).mpr same]
  exact ⟨known, same⟩

theorem Valid.metricsAddress (valid : c.Valid) :
    ∃ address, SocketAddr.ofText? c.observability.metricsAddress.toList = some address :=
  Option.ne_none_iff_exists'.mp (valid .metricsAddress)

end BridgeConfig

namespace World

variable {α : Type} {w : World α} {choice : RuntimeChoice} {c : IoConfig}

/-- A bridge refuses exactly the settings of its own that break a rule, and says all of them. -/
theorem startBridge_eq_invalidConfig_iff {vs : List Violation} :
    w.startBridge choice c = .error (.invalidConfig vs) ↔
      choice ≠ .around false ∧ vs = c.violations ∧ vs ≠ [] := by
  unfold startBridge addBridge
  by_cases missing : choice = .around false
  · simp [missing]
  · rw [if_neg missing]
    cases own : c.violations with
    | nil => simp [missing]
    | cons v rest =>
      simp only [Except.error.injEq, ChannelError.invalidConfig.injEq, missing, ne_eq,
        not_false_eq_true, true_and]
      constructor
      · rintro rfl
        exact ⟨rfl, List.cons_ne_nil v rest⟩
      · exact fun same => same.1.symm

theorem startBridge_of_valid (present : choice ≠ .around false) (valid : c.violations = []) :
    ∃ started, w.startBridge choice c = .ok started := by
  rw [startBridge, if_neg present, addBridge, valid]
  exact ⟨_, rfl⟩

end World

namespace Daemon

variable {h : Host} {n : Network} {c : BridgeConfig}

theorem valid_of_settings {file : Option (Option (List UInt8))} (given : settings file = .ok c) :
    c.Valid := by
  cases file with
  | none =>
    obtain rfl := Except.ok.inj given
    exact BridgeConfig.valid_default
  | some content => exact BridgeConfig.valid_of_ofFile (mapError_eq_ok given)

/-- The metrics are shown, if they are to be, where the settings say. -/
theorem openMetrics_of_address {address : SocketAddr}
    (read : SocketAddr.ofText? c.observability.metricsAddress.toList = some address) :
    openMetrics n c.observability = if c.observability.metricsEnabled then
      ((n.bind address).map fun _ => ()).mapError .metricsListener else .ok () := by
  rw [openMetrics, read]
  cases c.observability.metricsEnabled <;> rfl

theorem openMetrics_ne_channel {e : ChannelError} :
    openMetrics n c.observability ≠ .error (.channel e) := by
  unfold openMetrics
  split
  · intro failed
    obtain ⟨_, -, other⟩ := mapError_eq_error failed
    cases other
  · nofun

theorem bindAddress_ne_channel {e : ChannelError} : bindAddress h c ≠ .error (.channel e) := by
  intro failed
  rcases bind_eq_error failed with failed | ⟨found, -, failed⟩
  · obtain ⟨_, -, other⟩ := mapError_eq_error failed
    cases other
  · cases found with
    | nil => cases failed
    | cons first rest => cases failed

/-- With valid settings a bridge refuses a daemon only what the host refuses it. -/
theorem launch_error_of_valid (valid : c.Valid) {e : ChannelError}
    (failed : launch h n c = .error (.channel e)) : ∃ address os, e = .bind address os := by
  rcases bind_eq_error failed with failed | ⟨⟨w, bridge⟩, -, failed⟩
  · obtain ⟨_, refused, -⟩ := mapError_eq_error failed
    rw [World.addBridge, valid.io] at refused
    cases refused
  rcases bind_eq_error failed with failed | ⟨_, -, failed⟩
  · exact absurd failed openMetrics_ne_channel
  rcases bind_eq_error failed with failed | ⟨address, -, failed⟩
  · exact absurd failed bindAddress_ne_channel
  rcases bind_eq_error failed with failed | ⟨_, -, failed⟩
  · obtain ⟨_, refused, same⟩ := mapError_eq_error failed
    obtain rfl := Cli.Failure.channel.inj same
    have backlog : c.io.listenBacklog ≠ 0 := valid .listenBacklog
    unfold World.listen at refused
    rw [if_neg backlog] at refused
    cases bound : n.bind address.toSocketAddr with
    | error os =>
      rw [bound] at refused
      exact ⟨_, os, (Except.error.inj refused).symm⟩
    | ok near =>
      rw [bound] at refused
      cases refused
  · cases failed

end Daemon

/-- What is reported of settings are the rules that they break, each once and in order, and nothing
is reported exactly if they break none; a bridge goes by those of its own settings, and refuses
exactly what breaks one. The settings of a text or a file are those that are written there, and they
break no rule. Whoever takes such settings over has nothing to refuse: a bridge starts, and a daemon
gets its listener unless the host does not let it bind; the metrics are shown at the address that is
given, if they are to be; and the log goes by one of the five levels, the one that is given up to
its case. -/
theorem validation_agrees_with_users (c : BridgeConfig) :
    c.violations = (Rule.all.filter fun rule => rule.Broken c).map (Rule.violation c) ∧
    (c.violations.map Violation.field).Nodup ∧
    (c.violations = [] ↔ c.Valid) ∧
    c.io.violations = c.violations.filter (fun v => "io.".toList <+: v.field.toList) ∧
    (∀ {α : Type} (w : World α) choice vs,
      w.startBridge choice c.io = .error (.invalidConfig vs) ↔
        choice ≠ .around false ∧ vs = c.io.violations ∧ vs ≠ []) ∧
    (∀ text, BridgeConfig.ofText text = .ok c ↔
      (Toml.read text).bind (BridgeConfig.ofData? .file) = some c ∧ c.Valid) ∧
    (∀ file, Daemon.settings file = .ok c → c.Valid) ∧
    (c.Valid →
      (∀ {α : Type} (w : World α) choice, choice ≠ .around false →
        ∃ started, w.startBridge choice c.io = .ok started) ∧
      (∀ h n e, Daemon.launch h n c = .error (.channel e) → ∃ address os, e = .bind address os) ∧
      (∃ address, SocketAddr.ofText? c.observability.metricsAddress.toList = some address ∧
        ∀ n, Daemon.openMetrics n c.observability = if c.observability.metricsEnabled then
          ((n.bind address).map fun _ => ()).mapError .metricsListener else .ok ()) ∧
      ∃ level ∈ logLevels, SameLetters c.observability.logLevel level ∧
        c.observability.directive = "netbridge=" ++ level) := by
  refine ⟨c.violations_eq, c.nodup_field_violations, c.violations_eq_nil_iff,
    c.io_violations_eq_filter, fun w choice vs => World.startBridge_eq_invalidConfig_iff,
    fun text => BridgeConfig.ofText_eq_ok_iff, fun file => Daemon.valid_of_settings,
    fun valid => ⟨fun w choice present => World.startBridge_of_valid present valid.io,
      fun h n e => Daemon.launch_error_of_valid valid, ?_, ?_⟩⟩
  · obtain ⟨address, read⟩ := valid.metricsAddress
    exact ⟨address, read, fun n => Daemon.openMetrics_of_address read⟩
  · exact ⟨_, valid.level.1, valid.level.2, rfl⟩

end SocketBridge
