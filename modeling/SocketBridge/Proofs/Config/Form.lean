import SocketBridge.Config.Form

/-!
# The data form read back

Settings that are written as data are read as themselves, however strictly.
-/

namespace SocketBridge

namespace Data

theorem natBelow?_of_lt {n bound : Nat} (small : n < bound) :
    natBelow? bound (.int n) = some n := by
  simp [natBelow?, small]

theorem u16?_toNat (n : UInt16) : u16? (.int n.toNat) = some n := by
  rw [u16?, natBelow?_of_lt n.toNat_lt]
  simp

theorem u32?_toNat (n : UInt32) : u32? (.int n.toNat) = some n := by
  rw [u32?, natBelow?_of_lt n.toNat_lt]
  simp

theorem u64?_toNat (n : UInt64) : u64? (.int n.toNat) = some n := by
  rw [u64?, natBelow?_of_lt n.toNat_lt]
  simp

/-- A field that is there is read from what is there. -/
theorem field_of_lookup {α : Type} {items : List (String × Data)} {place : Nat} {key : String}
    {read : Data → Option α} {default a : α} {v : Data} (listed : items.lookup key = some v)
    (own : read v = some a) : (fields items).field place key read default = some a := by
  rw [field, listed]
  exact own

/-- One setting in the data of a section: it has no keys of its own, and is read as it is. -/
inductive Holds {α : Type} (key : String) (read : Data → Option α) (a : α) : Data → Prop
  | setting (items : List (String × Data)) (v : Data) (listed : items.lookup key = some v)
      (keyless : ∀ inner, v ≠ fields inner) (own : read v = some a) :
    Holds key read a (fields items)

theorem Holds.field {α : Type} {d : Data} {key : String} {read : Data → Option α} {a : α}
    (holds : Holds key read a d) (place : Nat) (default : α) :
    d.field place key read default = some a := by
  obtain ⟨items, v, listed, -, own⟩ := holds
  exact field_of_lookup listed own

end Data

/-! ## Sections

Each section holds its settings under their keys, and so is read back. -/

theorem ResolverConfig.holds (c : ResolverConfig) :
    c.toData.Holds "prefer_ipv4" Data.bool? c.preferIpv4 :=
  .setting _ _ rfl nofun rfl

theorem IoConfig.holds (c : IoConfig) :
    c.toData.Holds "worker_threads" Data.u64? c.workerThreads ∧
      c.toData.Holds "thread_name" Data.text? c.threadName ∧
      c.toData.Holds "read_buffer_size" Data.u64? c.readBufferSize ∧
      c.toData.Holds "listen_backlog" Data.u32? c.listenBacklog :=
  ⟨.setting _ _ rfl nofun (Data.u64?_toNat _), .setting _ _ rfl nofun rfl,
    .setting _ _ rfl nofun (Data.u64?_toNat _), .setting _ _ rfl nofun (Data.u32?_toNat _)⟩

theorem ServerConfig.holds (c : ServerConfig) :
    c.toData.Holds "bind_host" Data.maybeText? c.bindHost ∧
      c.toData.Holds "port" Data.u16? c.port := by
  refine ⟨.setting _ _ rfl ?_ ?_, .setting _ _ rfl nofun (Data.u16?_toNat _)⟩
  · cases c.bindHost <;> exact nofun
  · cases c.bindHost <;> rfl

theorem ObservabilityConfig.holds (c : ObservabilityConfig) :
    c.toData.Holds "log_level" Data.text? c.logLevel ∧
      c.toData.Holds "metrics_enabled" Data.bool? c.metricsEnabled ∧
      c.toData.Holds "metrics_address" Data.text? c.metricsAddress :=
  ⟨.setting _ _ rfl nofun rfl, .setting _ _ rfl nofun rfl, .setting _ _ rfl nofun rfl⟩

variable (form : Form)

theorem ResolverConfig.ofData?_toData (c : ResolverConfig) : ofData? form c.toData = some c := rfl

theorem IoConfig.ofData?_toData (c : IoConfig) : ofData? form c.toData = some c := by
  obtain ⟨threads, name, size, backlog⟩ := c.holds
  dsimp only [ofData?]
  rw [threads.field, name.field, size.field, backlog.field]
  rfl

theorem ServerConfig.ofData?_toData (c : ServerConfig) : ofData? form c.toData = some c := by
  obtain ⟨host, port⟩ := c.holds
  dsimp only [ofData?]
  rw [host.field, port.field]
  rfl

theorem ObservabilityConfig.ofData?_toData (c : ObservabilityConfig) :
    ofData? form c.toData = some c := rfl

theorem BridgeConfig.ofData?_toData (c : BridgeConfig) : ofData? form c.toData = some c := by
  have io (z : IoConfig) : c.toData.field 1 "io" (IoConfig.ofData? form) z = some c.io :=
    Data.field_of_lookup rfl (IoConfig.ofData?_toData ..)
  have server (z : ServerConfig) :
      c.toData.field 2 "server" (ServerConfig.ofData? form) z = some c.server :=
    Data.field_of_lookup rfl (ServerConfig.ofData?_toData ..)
  dsimp only [ofData?]
  rw [io, server]
  rfl

end SocketBridge
