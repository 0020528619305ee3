import SocketBridge.Proofs.Config.Form

/-!
# Settings that are left out

Keys may be missing from the data form of settings. What is missing is read as its default, be it
one setting or a whole section, and what is there is read as it stands. A null is there.
-/

namespace SocketBridge

/-- Which keys are taken out, each named by its path from the outermost key. -/
abbrev Removal := List String → Bool

namespace Removal

/-- What is taken out of the value at a key that stays. -/
def under (gone : Removal) (key : String) : Removal := fun path => gone (key :: path)

/-- The default of a key that is taken out, or else its value. -/
def pick {α : Type} (gone : Removal) (key : String) (default a : α) : α :=
  if gone [key] then default else a

/-- One key more. -/
def also (gone : Removal) (path : List String) : Removal := fun other => gone other || other == path

end Removal

namespace Data

/-- What is found at the end of a path. -/
def at? : Data → List String → Option Data
  | d, [] => some d
  | fields items, key :: path => (items.lookup key).bind (·.at? path)
  | _, _ => none

/-- Puts a value in the place of the one at the end of a path. -/
def put : Data → List String → Data → Data
  | _, [], v => v
  | fields items, key :: path, v =>
    fields (items.map fun e => if e.1 == key then (key, e.2.put path v) else e)
  | d, _, _ => d

mutual

/-- The data without the keys that are taken out; a list keeps its elements. -/
def without (gone : Removal) : Data → Data
  | fields items => fields (itemsWithout gone items)
  | d => d

def itemsWithout (gone : Removal) : List (String × Data) → List (String × Data)
  | [] => []
  | (key, v) :: items =>
    if gone [key] then itemsWithout gone items
    else (key, v.without (gone.under key)) :: itemsWithout gone items

end

variable {gone : Removal} {key : String} {items items' : List (String × Data)} {v v' : Data}

theorem without_of_keyless (keyless : ∀ items, v ≠ fields items) : v.without gone = v := by
  cases v with
  | fields items => exact absurd rfl (keyless items)
  | _ => rfl

theorem lookup_itemsWithout (gone : Removal) (key : String) (items : List (String × Data)) :
    (itemsWithout gone items).lookup key =
      if gone [key] then none else (items.lookup key).map (without (gone.under key)) := by
  induction items with
  | nil => simp [itemsWithout]
  | cons e items ih =>
    obtain ⟨first, v⟩ := e
    rw [itemsWithout, List.lookup_cons]
    by_cases same : key = first
    · subst same
      cases removed : gone [key] with
      | true => simp [ih, removed]
      | false => simp
    · have other : (key == first) = false := beq_eq_false_iff_ne.mpr same
      rw [other]
      split
      · exact ih
      · rw [List.lookup_cons, other]
        exact ih

variable {α : Type} {read : Data → Option α} {default a : α}

/-- A field of which something is left is read from what is left, and else it is the default. -/
theorem field_without {place : Nat} (listed : items.lookup key = some v)
    (own : read (v.without (gone.under key)) = some a) :
    ((fields items).without gone).field place key read default =
      some (gone.pick key default a) := by
  rw [without, field, lookup_itemsWithout, listed, Removal.pick]
  cases gone [key] with
  | true => rfl
  | false => exact own

/-- What is taken out is there as it is in the other data. -/
def Agrees (d : Data) (gone : Removal) (other : Data) : Prop :=
  ∀ key path, gone (key :: path) = true → d.at? (key :: path) = other.at? (key :: path)

theorem Agrees.of_paths {d d' : Data} {paths : List (List String)}
    (same : ∀ path ∈ paths, d.at? path = d'.at? path) : d.Agrees paths.contains d' :=
  fun key path removed => same (key :: path) (List.contains_iff_mem.mp removed)

theorem Agrees.under (agrees : Agrees (fields items) gone (fields items'))
    (listed : items.lookup key = some v) (listed' : items'.lookup key = some v') :
    Agrees v (gone.under key) v' := by
  intro inner path removed
  have same := agrees key (inner :: path) removed
  rw [at?, at?, listed, listed'] at same
  exact same

theorem Agrees.pick_eq (agrees : Agrees (fields items) gone (fields items'))
    (listed : items.lookup key = some v) (listed' : items'.lookup key = some v')
    (own : read v = some a) (own' : read v' = some default) : gone.pick key default a = a := by
  unfold Removal.pick
  split
  · rename_i removed
    have same := agrees key [] removed
    rw [at?, at?, listed, listed', Option.bind_some, Option.bind_some, at?, at?] at same
    cases same
    exact Option.some.inj (own'.symm.trans own)
  · rfl

variable {d d' : Data}

theorem Holds.field_without (holds : Holds key read a d) (gone : Removal) (place : Nat)
    (default : α) :
    (d.without gone).field place key read default = some (gone.pick key default a) := by
  obtain ⟨items, v, listed, keyless, own⟩ := holds
  apply Data.field_without listed
  rw [without_of_keyless keyless, own]

/-- A setting that is taken out where it has its default is not changed. -/
theorem Holds.pick_eq (holds : Holds key read a d) (holds' : Holds key read default d')
    (agrees : Agrees d gone d') : gone.pick key default a = a := by
  obtain ⟨items, v, listed, -, own⟩ := holds
  obtain ⟨items', v', listed', -, own'⟩ := holds'
  exact agrees.pick_eq listed listed' own own'

end Data

/-! ## Sections

A section of which keys are taken out is read with the defaults of these. Where they had their
defaults nothing has changed. -/

variable (form : Form) {gone : Removal}

namespace ResolverConfig

def reset (gone : Removal) (c : ResolverConfig) : ResolverConfig :=
  let z : ResolverConfig := {}
  { preferIpv4 := gone.pick "prefer_ipv4" z.preferIpv4 c.preferIpv4 }

theorem ofData?_without (gone : Removal) (c : ResolverConfig) :
    ofData? form (c.toData.without gone) = some (c.reset gone) := by
  have prefer := c.holds
  dsimp only [ofData?]
  rw [prefer.field_without]
  rfl

theorem reset_eq_self {c : ResolverConfig} (agrees : c.toData.Agrees gone (toData {})) :
    c.reset gone = c := by
  have prefer := c.holds
  have prefer' := holds {}
  rw [reset, prefer.pick_eq prefer' agrees]

end ResolverConfig

namespace IoConfig

def reset (gone : Removal) (c : IoConfig) : IoConfig :=
  let z : IoConfig := {}
  { workerThreads := gone.pick "worker_threads" z.workerThreads c.workerThreads
    threadName := gone.pick "thread_name" z.threadName c.threadName
    readBufferSize := gone.pick "read_buffer_size" z.readBufferSize c.readBufferSize
    listenBacklog := gone.pick "listen_backlog" z.listenBacklog c.listenBacklog }

theorem ofData?_without (gone : Removal) (c : IoConfig) :
    ofData? form (c.toData.without gone) = some (c.reset gone) := by
  obtain ⟨threads, name, size, backlog⟩ := c.holds
  dsimp only [ofData?]
  rw [threads.field_without, name.field_without, size.field_without, backlog.field_without]
  rfl

theorem reset_eq_self {c : IoConfig} (agrees : c.toData.Agrees gone (toData {})) :
    c.reset gone = c := by
  obtain ⟨threads, name, size, backlog⟩ := c.holds
  obtain ⟨threads', name', size', backlog'⟩ := holds {}
  rw [reset, threads.pick_eq threads' agrees, name.pick_eq name' agrees,
    size.pick_eq size' agrees, backlog.pick_eq backlog' agrees]

end IoConfig

namespace ServerConfig

def reset (gone : Removal) (c : ServerConfig) : ServerConfig :=
  let z : ServerConfig := {}
  { bindHost := gone.pick "bind_host" z.bindHost c.bindHost
    port := gone.pick "port" z.port c.port }

theorem ofData?_without (gone : Removal) (c : ServerConfig) :
    ofData? form (c.toData.without gone) = some (c.reset gone) := by
  obtain ⟨host, port⟩ := c.holds
  dsimp only [ofData?]
  rw [host.field_without, port.field_without]
  rfl

theorem reset_eq_self {c : ServerConfig} (agrees : c.toData.Agrees gone (toData {})) :
    c.reset gone = c := by
  obtain ⟨host, port⟩ := c.holds
  obtain ⟨host', port'⟩ := holds {}
  rw [reset, host.pick_eq host' agrees, port.pick_eq port' agrees]

end ServerConfig

namespace ObservabilityConfig

def reset (gone : Removal) (c : ObservabilityConfig) : ObservabilityConfig :=
  let z : ObservabilityConfig := {}
  { logLevel := gone.pick "log_level" z.logLevel c.logLevel
    metricsEnabled := gone.pick "metrics_enabled" z.metricsEnabled c.metricsEnabled
    metricsAddress := gone.pick "metrics_address" z.metricsAddress c.metricsAddress }

theorem ofData?_without (gone : Removal) (c : ObservabilityConfig) :
    ofData? form (c.toData.without gone) = some (c.reset gone) := by
  obtain ⟨level, enabled, address⟩ := c.holds
  dsimp only [ofData?]
  rw [level.field_without, enabled.field_without, address.field_without]
  rfl

theorem reset_eq_self {c : ObservabilityConfig}
    (agrees : c.toData.Agrees gone (toData {})) : c.reset gone = c := by
  obtain ⟨level, enabled, address⟩ := c.holds
  obtain ⟨level', enabled', address'⟩ := holds {}
  rw [reset, level.pick_eq level' agrees, enabled.pick_eq enabled' agrees,
    address.pick_eq address' agrees]

end ObservabilityConfig

namespace BridgeConfig

/-- The settings with their defaults for all that is taken out, sections as a whole or in part. -/
def reset (gone : Removal) (c : BridgeConfig) : BridgeConfig where
  resolver := gone.pick "resolver" {} (c.resolver.reset (gone.under "resolver"))
  io := gone.pick "io" {} (c.io.reset (gone.under "io"))
  server := gone.pick "server" {} (c.server.reset (gone.under "server"))
  observability := gone.pick "observability" {}
    (c.observability.reset (gone.under "observability"))

theorem ofData?_without (gone : Removal) (c : BridgeConfig) :
    ofData? form (c.toData.without gone) = some (c.reset gone) := by
  have resolver (z : ResolverConfig) :
      (c.toData.without gone).field 0 "resolver" (ResolverConfig.ofData? form) z =
        some (gone.pick "resolver" z (c.resolver.reset (gone.under "resolver"))) :=
    Data.field_without rfl (ResolverConfig.ofData?_without ..)
  have io (z : IoConfig) : (c.toData.without gone).field 1 "io" (IoConfig.ofData? form) z =
      some (gone.pick "io" z (c.io.reset (gone.under "io"))) :=
    Data.field_without rfl (IoConfig.ofData?_without ..)
  have server (z : ServerConfig) :
      (c.toData.without gone).field 2 "server" (ServerConfig.ofData? form) z =
        some (gone.pick "server" z (c.server.reset (gone.under "server"))) :=
    Data.field_without rfl (ServerConfig.ofData?_without ..)
  have observability (z : ObservabilityConfig) :
      (c.toData.without gone).field 3 "observability" (ObservabilityConfig.ofData? form) z =
        some (gone.pick "observability" z
          (c.observability.reset (gone.under "observability"))) :=
    Data.field_without rfl (ObservabilityConfig.ofData?_without ..)
  dsimp only [ofData?]
  rw [resolver, io, server, observability]
  rfl

theorem reset_eq_self {c : BridgeConfig} (agrees : c.toData.Agrees gone (toData {})) :
    c.reset gone = c := by
  have resolver : gone.pick "resolver" {} c.resolver = c.resolver :=
    agrees.pick_eq rfl rfl (ResolverConfig.ofData?_toData .record _)
      (ResolverConfig.ofData?_toData ..)
  have io : gone.pick "io" {} c.io = c.io :=
    agrees.pick_eq rfl rfl (IoConfig.ofData?_toData .record _) (IoConfig.ofData?_toData ..)
  have server : gone.pick "server" {} c.server = c.server :=
    agrees.pick_eq rfl rfl (ServerConfig.ofData?_toData .record _)
      (ServerConfig.ofData?_toData ..)
  have observability : gone.pick "observability" {} c.observability = c.observability :=
    agrees.pick_eq rfl rfl (ObservabilityConfig.ofData?_toData .record _)
      (ObservabilityConfig.ofData?_toData ..)
  rw [reset, ResolverConfig.reset_eq_self (agrees.under rfl rfl),
    IoConfig.reset_eq_self (agrees.under rfl rfl),
    ServerConfig.reset_eq_self (agrees.under rfl rfl),
    ObservabilityConfig.reset_eq_self (agrees.under rfl rfl), resolver, io, server, observability]

/-- Where the host to bind is. -/
def bindHostPath : List String := ["server", "bind_host"]

/-- One key more at the host to bind resets that one too. -/
theorem reset_also_bindHost (gone : Removal) (c : BridgeConfig) :
    c.reset (gone.also bindHostPath) =
      { c.reset gone with server.bindHost := some "localhost" } := by
  have sections (key : String) : gone.also bindHostPath [key] = gone [key] := by
    simp [Removal.also, bindHostPath]
  have under {key : String} (other : key ≠ "server") :
      (gone.also bindHostPath).under key = gone.under key := by
    funext path
    simp [Removal.also, Removal.under, bindHostPath, other]
  have host : (gone.also bindHostPath).under "server" ["bind_host"] = true := by
    simp [Removal.also, Removal.under, bindHostPath]
  have port : (gone.also bindHostPath).under "server" ["port"] = gone.under "server" ["port"] := by
    simp [Removal.also, Removal.under, bindHostPath]
  simp only [reset, Removal.pick, sections, under (show "resolver" ≠ "server" by decide),
    under (show "io" ≠ "server" by decide), under (show "observability" ≠ "server" by decide),
    ServerConfig.reset, host, port]
  cases gone ["server"] <;> rfl

/-- A null in the place of the host to bind is the form of settings without one. -/
theorem put_null_bindHost (c : BridgeConfig) :
    c.toData.put bindHostPath .null = toData { c with server.bindHost := none } := rfl

end BridgeConfig

open BridgeConfig in
/-- Settings are read back from their form, and also from what is left of it when keys are taken out
that have their defaults there. Where the host to bind is taken out as well the default host is
read, whatever host there was. A null in its place is no host, and not the default one. -/
theorem settings_survive_removal (form : Form) (c : BridgeConfig) :
    ofData? form c.toData = some c ∧
    (∀ gone : Removal, c.toData.Agrees gone (toData {}) →
      ofData? form (c.toData.without gone) = some c ∧
      ofData? form (c.toData.without (gone.also bindHostPath)) =
        some { c with server.bindHost := some "localhost" }) ∧
    ∀ gone : Removal, (c.toData.put bindHostPath .null).Agrees gone (toData {}) →
      ofData? form ((c.toData.put bindHostPath .null).without gone) =
        some { c with server.bindHost := none } := by
  refine ⟨ofData?_toData form c, fun gone agrees => ⟨?_, ?_⟩, fun gone agrees => ?_⟩
  · rw [ofData?_without, reset_eq_self agrees]
  · rw [ofData?_without, reset_also_bindHost, reset_eq_self agrees]
  · rw [put_null_bindHost] at agrees ⊢
    rw [ofData?_without, reset_eq_self agrees]

open BridgeConfig in
/-- A section and two settings are left out of settings with a host of their own: then the host too,
or there is none. -/
theorem settings_survive_removal_of_some :
    let c : BridgeConfig := { io.workerThreads := 4, server.bindHost := some "::1" }
    let paths := [["resolver"], ["io", "thread_name"], ["server", "port"]]
    let gone : Removal := paths.contains
    (c.toData.Agrees gone (toData {}) ∧ ofData? .record (c.toData.without gone) = some c) ∧
      ofData? .record (c.toData.without (gone.also bindHostPath)) =
        some { io.workerThreads := 4 } ∧
      (c.toData.put bindHostPath .null).Agrees gone (toData {}) ∧
      ofData? .record ((c.toData.put bindHostPath .null).without gone) =
        some { io.workerThreads := 4, server.bindHost := none } := by
  intro c paths gone
  have agrees : c.toData.Agrees gone (toData {}) :=
    .of_paths (List.forall_mem_cons.mpr ⟨rfl, List.forall_mem_cons.mpr ⟨rfl,
      List.forall_mem_singleton.mpr rfl⟩⟩)
  have agrees' : (c.toData.put bindHostPath .null).Agrees gone (toData {}) :=
    .of_paths (List.forall_mem_cons.mpr ⟨rfl, List.forall_mem_cons.mpr ⟨rfl,
      List.forall_mem_singleton.mpr rfl⟩⟩)
  obtain ⟨-, survives, null⟩ := settings_survive_removal .record c
  obtain ⟨same, hosted⟩ := survives gone agrees
  exact ⟨⟨agrees, same⟩, hosted, agrees', null gone agrees'⟩

end SocketBridge
