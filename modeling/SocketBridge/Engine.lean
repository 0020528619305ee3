import SocketBridge.Bridge.Want
import SocketBridge.Host.Running
import SocketBridge.Resolve.Service
import Std.Async.DNS
import Std.Async.TCP
import Std.Sync.Channel

/-!
# Engine

Runs a bridge on the running host. Whatever something started waits for is done in the background;
when the host answers, the bridge makes its turn. All decisions are the bridge's.
-/

namespace SocketBridge

open Std.Async.TCP.Socket (Client Server)

/-- What has come in. -/
inductive Notice (α : Type)
  /-- The answer to what something started waited for, and the stream that came with it. -/
  | answer (of : Spawned) (step : Step α) (client : Option Client)
  | alarm (number : Nat)
  | stop

instance {α : Type} : Inhabited (Notice α) := ⟨.stop⟩

structure Engine (α : Type) where
  world : World α
  notices : Std.Channel.Sync (Notice α)
  clients : List (Nat × Client) := []
  servers : List (Nat × Server) := []
  /-- What the host was asked about and has not answered. -/
  asked : List Spawned := []
  alarms : Nat := 0

/-- Looks a name up; the running host tells no more than that it failed. -/
def lookupHost (name : String) : IO (Except LookupFailure (List SocketAddr)) := do
  try
    let found ← (Std.Async.DNS.getAddrInfo name "").block
    return .ok (found.toList.eraseDups.map fun a => .ofIp (.ofSystem a) 0)
  catch _ => return .error .unknown

/-- The two ends of a stream. -/
def linkOf (c : Client) : IO Link := do
  return ⟨.ofSystem (← c.getSockName), .ofSystem (← c.getPeerName)⟩

def textOf (e : IO.Error) : String := (OsError.ofText (toString e)).message

/-- The result of a call, or the text of its error. -/
def attempt {β : Type} (call : IO β) : IO (Except String β) := do
  return (← call.toBaseIO).mapError textOf

def answerOf {β : Type} (call : IO β) : IO (Poll β String) := do
  return { ready := some (← attempt call) }

/-- The answer of a call that ends in a stream, with the stream. -/
def streamAnswer (call : IO Client) : IO (Poll (Except String Link) String × Option Client) := do
  match ← attempt call with
  | .error text => return ({ ready := some (.error text) }, none)
  | .ok client => return ({ ready := some (.ok (← attempt (linkOf client))) }, some client)

namespace Engine

variable {α : Type}

def new (world : World α) : IO (Engine α) := do
  let notices ← Std.Channel.Sync.new
  return { world, notices }

/-- Asks the host in the background. -/
def ask (e : Engine α) (s : Spawned) (call : IO (Step α × Option Client)) : IO (Engine α) := do
  let work : IO Unit := do
    let (step, client) ← call
    e.notices.send (.answer s step client)
  let _ ← IO.asTask work Task.Priority.dedicated
  return { e with asked := s :: e.asked }

/-- Rings after some milliseconds; gives the number by which the alarm is known. -/
def setAlarm (e : Engine α) (milliseconds : Nat) : IO (Engine α × Nat) := do
  let work : IO Unit := do
    IO.sleep (UInt32.ofNat (min milliseconds 4294967295))
    e.notices.send (.alarm e.alarms)
  let _ ← IO.asTask work Task.Priority.dedicated
  return ({ e with alarms := e.alarms + 1 }, e.alarms)

/-- Does what something started waits for. -/
def serve (e : Engine α) (s : Spawned) : IO (Engine α) := do
  match s, e.world.want s with
  | _, .turn step => return { e with world := e.world.step step }
  | s, want =>
    if e.asked.contains s then return e
    match s, want with
    | .connect c, .lookup host =>
      e.ask s do return (.pollConnect c (.found (← lookupHost host)), none)
    | .connect c, .connect address =>
      e.ask s do
        let (poll, client) ← streamAnswer do
          let client ← Client.mk
          (client.connect address.toSystem).block
          return client
        return (.pollConnect c (.attempted poll), client)
    | .accept l i, .client =>
      match e.servers.lookup l with
      | none => return e
      | some server =>
        e.ask s do
          let (poll, client) ← streamAnswer server.accept.block
          return (.pollAccept l i poll, client)
    | .read n, .receive size =>
      match e.clients.lookup n with
      | none => return e
      | some client =>
        e.ask s do
          let poll ← answerOf do
            let bytes ← (client.recv? (UInt64.ofNat size)).block
            return (bytes.map ByteArray.toList).getD []
          return (.pollRead n poll, none)
    | .write n, .send data =>
      match e.clients.lookup n with
      | none => return e
      | some client =>
        e.ask s do
          let poll ← answerOf do
            (client.send ⟨data.toArray⟩).block
            return data.length
          return (.pollWrite n poll, none)
    | .write n, .halfClose =>
      match e.clients.lookup n with
      | none => return e
      | some client =>
        e.ask s do
          let poll ← answerOf do
            client.shutdown.block
            return 0
          return (.pollWrite n poll, none)
    | _, _ => return e

/-- Lets go of the streams that neither read nor write any more. -/
def prune (e : Engine α) : Engine α :=
  { e with clients := e.clients.filter fun c => match e.world.sockets[c.1]? with
      | some s => s.reading.isSome || s.writer.running
      | none => false }

def serveAll (e : Engine α) : IO (Engine α) := do
  return (← e.world.spawned.foldlM serve e).prune

/-- Makes the turn that an answer is for. A stream belongs to the socket that the turn opens. -/
def take (e : Engine α) (s : Spawned) (step : Step α) (client : Option Client) : Engine α :=
  let opened := e.world.sockets.length
  let world := e.world.step step
  let clients := match client with
    | some c => if opened < world.sockets.length then (opened, c) :: e.clients else e.clients
    | none => e.clients
  { e with world, clients, asked := e.asked.erase s }

/-- Serves everything and waits for one notice, which is handled unless it is no answer. -/
def turn (e : Engine α) : IO (Engine α × Notice α) := do
  let e ← e.serveAll
  let notice ← e.notices.recv
  match notice with
  | .answer s step client => return (e.take s step client, notice)
  | _ => return (e, notice)

end Engine

end SocketBridge
