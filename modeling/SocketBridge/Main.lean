import SocketBridge.Cli.Run
import SocketBridge.Echo.Start
import SocketBridge.Engine
import Std.Async.Signal

/-!
# The programs

With a command, the diagnostic program; with settings or nothing, the echo daemon.
-/

namespace SocketBridge

open Std.Async.TCP.Socket (Client Server)
open Cli (Ending)

/-- What the running host knows about its interfaces, and about one name. -/
def readHost (name : Option String) : IO Host := do
  let listing ← try IO.FS.readFile "/proc/net/dev" catch _ => pure ""
  let names := (listing.splitOn "\n").filterMap fun line => match line.splitOn ":" with
    | name :: _ :: _ => some (String.ofList (name.toList.dropWhile (· == ' ')))
    | _ => none
  let entries ← names.filterMapM fun name => do
    let index ← try IO.FS.readFile ("/sys/class/net/" ++ name ++ "/ifindex") catch _ => pure ""
    return (String.ofList (index.toList.takeWhile Char.isDigit)).toNat?.map fun n =>
      (name, UInt32.ofNat n)
  let addresses ← try pure (some (← Std.Net.interfaceAddresses).toList) catch _ => pure none
  let found ← match name with
    | some n => pure [(n, ← lookupHost n)]
    | none => pure []
  return {
    interfaces := ⟨entries⟩
    addresses := addresses.map (·.map fun a => some (Ip.ofSystem a.address).family)
    names := found }

/-- The name that a request asks the host about. -/
def nameOf : Cli.Request → Option String
  | .run _ (.resolve host ..) => host
  | _ => none

/-- Lets the engine run until a queue has a record or an alarm rings. -/
partial def await (alarm queue : Nat) (e : Engine String) : IO (Engine String) := do
  if 0 < e.world.queues.length queue then return e
  match ← e.turn with
  | (e, .alarm n) => if n = alarm then return e else await alarm queue e
  | (e, _) => await alarm queue e

def say (e : Ending) : IO UInt32 := do
  IO.print e.out
  IO.eprint (e.err.getD "error: invalid command line; for more information, try '--help'.\n")
  return UInt32.ofNat e.code

/-- Runs the diagnostic program. -/
def diagnose (args : List String) : IO UInt32 := do
  let request := Cli.readRequest false args
  let engine ← IO.mkRef (← Engine.new {})
  let settle : Cli.Settle IO := fun time queue world => do
    let (e, alarm) ← { ← engine.get with world }.setAlarm time
    let e ← await alarm queue e
    engine.set e
    return e.world
  say (← Cli.respond (← readHost (nameOf request)) settle request)

/-- Binds a server to an address. -/
def openServer (address : SocketAddr) (backlog : UInt32) :
    IO (Except OsError (Server × SocketAddr)) := do
  try
    let server ← Server.mk
    server.bind address.toSystem
    server.listen backlog
    return .ok (server, .ofSystem (← server.getSockName))
  catch e => return .error (OsError.ofText (toString e))

/-- Answers every client of a server with the metrics of the moment. -/
partial def showMetrics (server : Server) (metrics : IO.Ref Metrics) : IO Unit := do
  let client ← server.accept.block
  let _ ← (client.recv? 4096).block
  let body := String.join ((← metrics.get).lines.map (· ++ "\n"))
  let head := "HTTP/1.1 200 OK\r\nContent-Type: text/plain\r\nConnection: close\r\n" ++
    "Content-Length: " ++ toString body.utf8ByteSize ++ "\r\n\r\n"
  (client.send (head ++ body).toUTF8).block
  client.shutdown.block
  showMetrics server metrics

/-- Handles the records that wait. -/
partial def handleAll (d : Daemon) : IO Daemon := do
  match d.next with
  | (d, none) => return d
  | (d, some _) => handleAll d

/-- Runs a daemon until it is told to stop. -/
partial def serveDaemon (e : Engine (List UInt8)) (d : Daemon) (metrics : IO.Ref Metrics) :
    IO Daemon := do
  let d ← handleAll { d with world := e.world }
  metrics.set d.world.metrics
  match ← { e with world := d.world }.turn with
  | (e, .stop) => return { d with world := e.world }
  | (e, _) => serveDaemon e d metrics

/-- Tells the engine to stop when the process is asked to. -/
def watchSignal (e : Engine (List UInt8)) (s : Std.Async.Signal) : IO Unit := do
  let waiter ← Std.Async.Signal.Waiter.mk s false
  let arrival ← waiter.wait
  let work : IO Unit := do
    let _ ← arrival.block
    e.notices.send .stop
  let _ ← IO.asTask work Task.Priority.dedicated

/-- Runs the echo daemon. -/
def serve (args : List String) : IO UInt32 := do
  let path := match Cli.daemonGrammar.read {} args with
    | .ok r => r.flag? "config"
    | .error _ => none
  let content ← match path with
    | none => pure none
    | some p => try pure (some (← IO.FS.readBinFile p).toList) catch _ => pure none
  let settings := (Daemon.settings (path.map fun _ => content)).toOption.getD {}
  let host ← readHost settings.server.bindHost
  let address := (Daemon.bindAddress host settings).toOption.map Address.toSocketAddr
  let opened ← match address with
    | some a => openServer a settings.io.listenBacklog
    | none => pure (.error .addressNotAvailable)
  let shown ← match settings.observability.metricsEnabled,
      SocketAddr.ofText? settings.observability.metricsAddress.toList with
    | true, some a => openServer a 16
    | _, _ => pure (.error .addressNotAvailable)
  let network : Network := {
    bind := fun a => if address == some a then opened.map Prod.snd else shown.map Prod.snd
    connect := fun _ => .error .networkUnreachable
    lookup := host.lookupName }
  match Daemon.ofArguments host network (fun _ => content) args with
  | .error ending => say ending
  | .ok d =>
    let e ← Engine.new d.world
    let servers := opened.toOption.toList.map fun (server, _) => (d.listener, server)
    let metrics ← IO.mkRef d.world.metrics
    if let .ok (server, _) := shown then
      let _ ← IO.asTask (showMetrics server metrics) Task.Priority.dedicated
    watchSignal e .sigterm
    watchSignal e .sigint
    IO.eprintln s!"{settings.observability.directive}: listening"
    let d ← serveDaemon { e with servers } d metrics
    let d := d.teardown
    let left := d.world.activeHandles 0
    IO.eprintln s!"{settings.observability.directive}: stopped, {left} handles left"
    return 0

/-- Whether a command line is the diagnostic program's. -/
def isDiagnostic (args : List String) : Bool :=
  match args with
  | [] => false
  | arg :: _ => !(arg.startsWith "-c" || arg.startsWith "--config")

end SocketBridge

open SocketBridge in
def main (args : List String) : IO UInt32 := if isDiagnostic args then diagnose args else serve args
