/-!
# Settings

What the bridge, the resolver, the echo daemon and the logs can be told, with their defaults.
-/

namespace SocketBridge

structure ResolverConfig where
  /-- IPv4 comes before IPv6 in the solution table and for a missing host. -/
  preferIpv4 : Bool := false
deriving DecidableEq

structure IoConfig where
  workerThreads : UInt64 := 2
  threadName : String := "netbridge-io"
  readBufferSize : UInt64 := 32768
  listenBacklog : UInt32 := 128
deriving DecidableEq

structure ServerConfig where
  /-- The host to bind, resolved passively; without one every local family is bound. -/
  bindHost : Option String := some "localhost"
  port : UInt16 := 7070
deriving DecidableEq

structure ObservabilityConfig where
  logLevel : String := "info"
  metricsEnabled : Bool := false
  metricsAddress : String := "127.0.0.1:9090"
deriving DecidableEq

structure BridgeConfig where
  resolver : ResolverConfig := {}
  io : IoConfig := {}
  server : ServerConfig := {}
  observability : ObservabilityConfig := {}
deriving DecidableEq

namespace ObservabilityConfig

/-- The level in lower case; only ASCII letters have one here. -/
def lowerLevel (c : ObservabilityConfig) : String := c.logLevel.map Char.toLower

/-- The log filter a level stands for. -/
def directive (c : ObservabilityConfig) : String := "netbridge=" ++ c.lowerLevel

end ObservabilityConfig

end SocketBridge
