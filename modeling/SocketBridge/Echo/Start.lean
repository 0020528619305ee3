import SocketBridge.Cli.Run
import SocketBridge.Echo.Daemon

/-!
# Starting the echo daemon

From settings to a daemon that listens. The first step that fails ends it.
-/

namespace SocketBridge

open Cli (Ending Failure)

/-- What the address to bind is resolved with. -/
def bindHints : Hints :=
  { type := .stream, protocol := .tcp, flags := { addrconfig := true, passive := true } }

namespace Daemon

/-- The settings of a daemon that is given a file or none. -/
def settings (file : Option (Option (List UInt8))) : Except Failure BridgeConfig :=
  match file with
  | none => .ok {}
  | some content => (BridgeConfig.ofFile content).mapError Failure.config

/-- The address to bind: the first candidate there is. -/
def bindAddress (h : Host) (c : BridgeConfig) : Except Failure Address := do
  let r : Resolver := ⟨⟨c.resolver.preferIpv4⟩, h.service⟩
  let found ← (r.resolve h.interfaces c.server.bindHost c.server.port bindHints).result.mapError
    Failure.resolve
  match found with
  | first :: _ => return first.address
  | [] => throw (.text "bind host resolved to no usable address")

/-- Opens the listener that shows the metrics, if there is to be one. -/
def openMetrics (n : Network) (c : ObservabilityConfig) : Except Failure Unit :=
  match c.metricsEnabled, SocketAddr.ofText? c.metricsAddress.toList with
  | true, some address => (n.bind address).map (fun _ => ()) |>.mapError Failure.metricsListener
  | _, _ => .ok ()

/-- Starts a daemon on a host. -/
def launch (h : Host) (n : Network) (c : BridgeConfig) : Except Failure Daemon := do
  let (w, bridge) ← (World.addBridge {} c.io).mapError Failure.channel
  openMetrics n c.observability
  let address := (← bindAddress h c).toSocketAddr
  let (w, listener) ← (w.listen bridge address c.io.listenBacklog
    ((n.bind address).mapError (ListenCall.bind, ·))).mapError Failure.channel
  return start w listener

/-- Starts a daemon as its command line says, or tells how it ends. The command line may name a
file; `read` gives the bytes of a file that is there. -/
def ofArguments (h : Host) (n : Network) (read : String → Option (List UInt8))
    (args : List String) : Except Ending Daemon :=
  match Cli.daemonGrammar.read {} args with
  | .error .help => .error { code := 0, out := Cli.daemonGrammar.help }
  | .error .usage => .error .usage
  | .ok r =>
    (settings ((r.flag? "config").map read) >>= launch h n).mapError fun f =>
      { code := 1, err := some (f.line ++ "\n") }

end Daemon

end SocketBridge
