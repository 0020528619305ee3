import SocketBridge.Proofs.Config.Form
import SocketBridge.Proofs.Config.Valid
import SocketBridge.Proofs.Toml.Readable
import SocketBridge.Proofs.Toml.Written

/-!
# Settings that a file can give

All settings can be written in a file, section by section, as far as integers of 64 bits with a sign
go; only a host that is not there cannot, since a file has nothing that says so and a key that is
left out stands for its default.
-/

namespace SocketBridge

open Toml

/-! ## Writing -/

/-- What can be written: integers that documents have, and a host. -/
structure BridgeConfig.Writable (c : BridgeConfig) (host : String) : Prop where
  workerThreads : c.io.workerThreads.toNat < 2 ^ 63
  readBufferSize : c.io.readBufferSize.toNat < 2 ^ 63
  bindHost : c.server.bindHost = some host

def ResolverConfig.written (c : ResolverConfig) : Toml.Section where
  name := ⟨"resolver", by decide, by decide⟩
  pairs := [(⟨"prefer_ipv4", by decide, by decide⟩, .bool c.preferIpv4)]
  distinct := by simp

def IoConfig.written (c : IoConfig) (threads : c.workerThreads.toNat < 2 ^ 63)
    (size : c.readBufferSize.toNat < 2 ^ 63) : Toml.Section where
  name := ⟨"io", by decide, by decide⟩
  pairs := [
    (⟨"worker_threads", by decide, by decide⟩, .int _ threads),
    (⟨"thread_name", by decide, by decide⟩, .text c.threadName),
    (⟨"read_buffer_size", by decide, by decide⟩, .int _ size),
    (⟨"listen_backlog", by decide, by decide⟩,
      .int _ (c.listenBacklog.toNat_lt.trans (by decide)))]
  distinct := by simp

def ServerConfig.written (c : ServerConfig) (host : String) : Toml.Section where
  name := ⟨"server", by decide, by decide⟩
  pairs := [
    (⟨"bind_host", by decide, by decide⟩, .text host),
    (⟨"port", by decide, by decide⟩, .int _ (c.port.toNat_lt.trans (by decide)))]
  distinct := by simp

def ObservabilityConfig.written (c : ObservabilityConfig) : Toml.Section where
  name := ⟨"observability", by decide, by decide⟩
  pairs := [
    (⟨"log_level", by decide, by decide⟩, .text c.logLevel),
    (⟨"metrics_enabled", by decide, by decide⟩, .bool c.metricsEnabled),
    (⟨"metrics_address", by decide, by decide⟩, .text c.metricsAddress)]
  distinct := by simp

namespace BridgeConfig

variable {c : BridgeConfig} {host : String}

/-- Settings as a document that leaves none of them out. -/
def document (w : c.Writable host) : Toml.Document where
  sections := [c.resolver.written, c.io.written w.workerThreads w.readBufferSize,
    c.server.written host, c.observability.written]
  distinct := by simp [ResolverConfig.written, IoConfig.written, ServerConfig.written,
    ObservabilityConfig.written]

theorem toData_document (w : c.Writable host) : (document w).toData = c.toData := by
  have server : (c.server.written host).toData = c.server.toData := by
    rw [ServerConfig.toData, w.bindHost]
    rfl
  rw [toData, ← server]
  rfl

/-- The document of valid settings gives them. -/
theorem ofText_document (w : c.Writable host) (valid : c.Valid) :
    ofText (document w).text = .ok c := by
  have read : (Toml.read (document w).text).bind (ofData? .file) = some c := by
    rw [read_text, toData_document, Option.bind_some, ofData?_toData]
  exact ofText_eq_ok_iff.mpr ⟨read, valid⟩

end BridgeConfig

/-! ## Reading -/

namespace Data

variable {d : Data}

/-- A field is the default or is read from what a document can hold. -/
theorem Readable.field {α : Type} {place : Nat} {key : String} {read : Data → Option α}
    {default a : α} (readable : d.Readable) (named : key ≠ "")
    (found : d.field place key read default = some a) :
    a = default ∨ ∃ v : Data, v.Readable ∧ read v = some a := by
  cases readable with
  | fields items all =>
    simp only [Data.field] at found
    cases listed : items.lookup key with
    | none => exact .inl (by simpa [listed] using found.symm)
    | some v => exact .inr ⟨v, all _ (mem_of_lookup listed), by simpa [listed] using found⟩
  | list items all =>
    simp only [Data.field] at found
    cases listed : items[place]? with
    | none => exact .inl (by simpa [listed] using found.symm)
    | some v => exact .inr ⟨v, all v (List.mem_of_getElem? listed), by simpa [listed] using found⟩
  | moment =>
    -- The one key of a moment is no name.
    have unlisted : List.lookup key [("", Data.null)] = none := by
      rw [List.lookup_eq_none_iff]
      simpa using named
    exact .inl (by simpa [Toml.momentData, Data.field, unlisted] using found.symm)
  | bool | int | real | text => cases found

theorem Readable.u64? {n : UInt64} (readable : d.Readable) (read : d.u64? = some n) :
    n.toNat < 2 ^ 63 := by
  obtain ⟨m, below, rfl⟩ := Option.map_eq_some_iff.mp read
  cases readable with
  | int k held =>
    obtain ⟨⟨-, high⟩, -⟩ := Option.ite_none_right_eq_some.mp held
    simp only [natBelow?, Option.ite_none_right_eq_some, Option.some.injEq] at below
    obtain ⟨-, rfl⟩ := below
    have fits : k.toNat < UInt64.size := by
      unfold UInt64.size
      omega
    rw [UInt64.toNat_ofNat_of_lt' fits]
    omega
  | _ => cases below

theorem Readable.maybeText? {host : Option String} (readable : d.Readable)
    (read : d.maybeText? = some host) : host ≠ none := by
  cases readable with
  | text s =>
    cases read
    exact nofun
  | _ => cases read

end Data

theorem IoConfig.bounds_of_readable {form : Form} {d : Data} {c : IoConfig}
    (readable : d.Readable) (read : ofData? form d = some c) :
    c.workerThreads.toNat < 2 ^ 63 ∧ c.readBufferSize.toNat < 2 ^ 63 := by
  have bound {place : Nat} {key : String} {default n : UInt64} (named : key ≠ "")
      (small : default.toNat < 2 ^ 63) (found : d.field place key Data.u64? default = some n) :
      n.toNat < 2 ^ 63 := by
    rcases readable.field named found with rfl | ⟨v, inside, read⟩
    · exact small
    · exact inside.u64? read
  obtain ⟨-, -, read⟩ := Option.bind_eq_some_iff.mp read
  obtain ⟨threads, first, read⟩ := Option.bind_eq_some_iff.mp read
  obtain ⟨name, -, read⟩ := Option.bind_eq_some_iff.mp read
  obtain ⟨size, third, read⟩ := Option.bind_eq_some_iff.mp read
  obtain ⟨backlog, -, same⟩ := Option.bind_eq_some_iff.mp read
  cases same
  exact ⟨bound (by decide) (by decide) first, bound (by decide) (by decide) third⟩

theorem ServerConfig.host_of_readable {form : Form} {d : Data} {c : ServerConfig}
    (readable : d.Readable) (read : ofData? form d = some c) : c.bindHost ≠ none := by
  obtain ⟨-, -, read⟩ := Option.bind_eq_some_iff.mp read
  obtain ⟨host, first, read⟩ := Option.bind_eq_some_iff.mp read
  obtain ⟨port, -, same⟩ := Option.bind_eq_some_iff.mp read
  cases same
  rcases readable.field (by decide) first with rfl | ⟨v, inside, read⟩
  · exact nofun
  · exact inside.maybeText? read

namespace BridgeConfig

/-- Settings from a text can be written. -/
theorem writable_of_ofText {text : String} {c : BridgeConfig} (given : ofText text = .ok c) :
    ∃ host, c.Writable host := by
  obtain ⟨read, -⟩ := ofText_eq_ok_iff.mp given
  obtain ⟨d, document, read⟩ := Option.bind_eq_some_iff.mp read
  have readable := read_readable document
  obtain ⟨-, -, read⟩ := Option.bind_eq_some_iff.mp read
  obtain ⟨resolver, -, read⟩ := Option.bind_eq_some_iff.mp read
  obtain ⟨io, second, read⟩ := Option.bind_eq_some_iff.mp read
  obtain ⟨server, third, read⟩ := Option.bind_eq_some_iff.mp read
  obtain ⟨observability, -, same⟩ := Option.bind_eq_some_iff.mp read
  cases same
  have bounds : io.workerThreads.toNat < 2 ^ 63 ∧ io.readBufferSize.toNat < 2 ^ 63 := by
    rcases readable.field (by decide) second with rfl | ⟨v, inside, read⟩
    · decide
    · exact IoConfig.bounds_of_readable inside read
  have named : server.bindHost ≠ none := by
    rcases readable.field (by decide) third with rfl | ⟨v, inside, read⟩
    · exact nofun
    · exact ServerConfig.host_of_readable inside read
  obtain ⟨host, bound⟩ := Option.ne_none_iff_exists'.mp named
  exact ⟨host, bounds.1, bounds.2, bound⟩

end BridgeConfig

/-- The settings that some text gives are the valid ones with integers below `2 ^ 63` and with a
host. -/
theorem valid_settings_have_text_iff (c : BridgeConfig) :
    (∃ text, BridgeConfig.ofText text = .ok c) ↔
      c.Valid ∧ (c.io.workerThreads.toNat < 2 ^ 63 ∧ c.io.readBufferSize.toNat < 2 ^ 63) ∧
        c.server.bindHost ≠ none := by
  constructor
  · rintro ⟨text, given⟩
    obtain ⟨host, w⟩ := BridgeConfig.writable_of_ofText given
    exact ⟨(BridgeConfig.ofText_eq_ok_iff.mp given).2, ⟨w.workerThreads, w.readBufferSize⟩,
      by simp [w.bindHost]⟩
  · rintro ⟨valid, ⟨threads, size⟩, named⟩
    obtain ⟨host, bound⟩ := Option.ne_none_iff_exists'.mp named
    exact ⟨_, BridgeConfig.ofText_document ⟨threads, size, bound⟩ valid⟩

/-- Settings for every local family break no rule, but no text gives them. Without the key there is
the host that is the default. -/
theorem no_text_for_every_family :
    let everyFamily : BridgeConfig := { server := { bindHost := none } }
    everyFamily.Valid ∧
      (everyFamily.io.workerThreads.toNat < 2 ^ 63 ∧ everyFamily.io.readBufferSize.toNat < 2 ^ 63) ∧
      (∀ text, BridgeConfig.ofText text ≠ .ok everyFamily) ∧
      BridgeConfig.ofText "[server]\nport = 7070\n" =
        .ok { server := { bindHost := some "localhost" } } := by
  intro everyFamily
  refine ⟨(BridgeConfig.violations_eq_nil_iff _).mp (by decide +kernel), by decide,
    fun text given => ?_, ?_⟩
  · obtain ⟨host, w⟩ := BridgeConfig.writable_of_ofText given
    cases w.bindHost
  · decide +kernel

end SocketBridge
