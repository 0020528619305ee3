import SocketBridge.Config
import SocketBridge.Data

/-!
# The data form of settings

Each section is a record of fields, of which any may be left out and unknown ones are passed over.
A section may also be a list of its fields in order. `Form.strict` says whether such a list may hold
more than the section has fields.
-/

namespace SocketBridge

/-- How strictly sections given as lists are read. -/
structure Form where
  strict : Bool

namespace Form

/-- The form of the configuration file. -/
def file : Form := ⟨false⟩

/-- The form of a record that another program hands over. -/
def record : Form := ⟨true⟩

end Form

namespace Data

def bool? : Data → Option Bool
  | bool b => some b
  | _ => none

def text? : Data → Option String
  | text s => some s
  | _ => none

/-- A text, or nothing where the data says so. -/
def maybeText? : Data → Option (Option String)
  | null => some none
  | d => d.text?.map some

/-- A whole number below `bound`. -/
def natBelow? (bound : Nat) : Data → Option Nat
  | int n => if 0 ≤ n ∧ n < bound then some n.toNat else none
  | _ => none

def u16? (d : Data) : Option UInt16 := (d.natBelow? 65536).map UInt16.ofNat

def u32? (d : Data) : Option UInt32 := (d.natBelow? 4294967296).map UInt32.ofNat

def u64? (d : Data) : Option UInt64 := (d.natBelow? 18446744073709551616).map UInt64.ofNat

/-- Reads one field of a section, by its key or by its place. -/
def field {α : Type} (d : Data) (place : Nat) (key : String) (read : Data → Option α)
    (default : α) : Option α :=
  match d with
  | fields kvs => match kvs.lookup key with
    | some v => read v
    | none => some default
  | list vs => match vs[place]? with
    | some v => read v
    | none => some default
  | _ => none

/-- Whether a section may stand as it does: fields, or a list that is not too long. -/
def isSection (form : Form) (size : Nat) : Data → Bool
  | fields _ => true
  | list vs => !form.strict || vs.length ≤ size
  | _ => false

end Data

def ResolverConfig.ofData? (form : Form) (d : Data) : Option ResolverConfig := do
  guard (d.isSection form 1)
  let z : ResolverConfig := {}
  return { preferIpv4 := ← d.field 0 "prefer_ipv4" Data.bool? z.preferIpv4 }

def IoConfig.ofData? (form : Form) (d : Data) : Option IoConfig := do
  guard (d.isSection form 4)
  let z : IoConfig := {}
  return {
    workerThreads := ← d.field 0 "worker_threads" Data.u64? z.workerThreads
    threadName := ← d.field 1 "thread_name" Data.text? z.threadName
    readBufferSize := ← d.field 2 "read_buffer_size" Data.u64? z.readBufferSize
    listenBacklog := ← d.field 3 "listen_backlog" Data.u32? z.listenBacklog }

def ServerConfig.ofData? (form : Form) (d : Data) : Option ServerConfig := do
  guard (d.isSection form 2)
  let z : ServerConfig := {}
  return {
    bindHost := ← d.field 0 "bind_host" Data.maybeText? z.bindHost
    port := ← d.field 1 "port" Data.u16? z.port }

def ObservabilityConfig.ofData? (form : Form) (d : Data) : Option ObservabilityConfig := do
  guard (d.isSection form 3)
  let z : ObservabilityConfig := {}
  return {
    logLevel := ← d.field 0 "log_level" Data.text? z.logLevel
    metricsEnabled := ← d.field 1 "metrics_enabled" Data.bool? z.metricsEnabled
    metricsAddress := ← d.field 2 "metrics_address" Data.text? z.metricsAddress }

def BridgeConfig.ofData? (form : Form) (d : Data) : Option BridgeConfig := do
  guard (d.isSection form 4)
  return {
    resolver := ← d.field 0 "resolver" (ResolverConfig.ofData? form) {}
    io := ← d.field 1 "io" (IoConfig.ofData? form) {}
    server := ← d.field 2 "server" (ServerConfig.ofData? form) {}
    observability := ← d.field 3 "observability" (ObservabilityConfig.ofData? form) {} }

def ResolverConfig.toData (c : ResolverConfig) : Data :=
  .fields [("prefer_ipv4", .bool c.preferIpv4)]

def IoConfig.toData (c : IoConfig) : Data :=
  .fields [("worker_threads", .int c.workerThreads.toNat), ("thread_name", .text c.threadName),
    ("read_buffer_size", .int c.readBufferSize.toNat),
    ("listen_backlog", .int c.listenBacklog.toNat)]

def ServerConfig.toData (c : ServerConfig) : Data :=
  .fields [("bind_host", match c.bindHost with | some h => .text h | none => .null),
    ("port", .int c.port.toNat)]

def ObservabilityConfig.toData (c : ObservabilityConfig) : Data :=
  .fields [("log_level", .text c.logLevel), ("metrics_enabled", .bool c.metricsEnabled),
    ("metrics_address", .text c.metricsAddress)]

/-- The whole of the settings as data: every field is there. -/
def BridgeConfig.toData (c : BridgeConfig) : Data :=
  .fields [("resolver", c.resolver.toData), ("io", c.io.toData), ("server", c.server.toData),
    ("observability", c.observability.toData)]

end SocketBridge
