import SocketBridge.Address.Elements
import SocketBridge.Bridge.Step
import SocketBridge.Cli.Command
import SocketBridge.Cli.Failure
import SocketBridge.Record.Layout
import SocketBridge.Report

/-!
# Running a command

Each command makes one report, whose fields stand in the order of their names. A connect runs on a
bridge; how the bridge is let run is left open, so the same command runs on a network or without
one.
-/

namespace SocketBridge.Cli

def hexByte (b : UInt8) : List Char := [Nat.digitChar (b.toNat / 16), Nat.digitChar (b.toNat % 16)]

def hexText (bytes : List UInt8) : String := String.ofList (bytes.flatMap hexByte)

def maybeText : Option String → Data
  | some s => .text s
  | none => .null

/-- The persisted record of an address. -/
def recordOf (a : Address) : Except Failure (List UInt8) :=
  match a.write Record.writer [] with
  | .ok _ bytes => .ok bytes
  | .error (.oversized n) _ => .error (.oversized n)
  | .error e _ => .error (.text e.message)

def encodeReport (t : Interfaces) (literal : String) (port : UInt16) (width : Nat)
    (hostname : Option String) : Except Failure Data := do
  let some w := ElementWidth.ofBits? width
    | throw (.text s!"unsupported element width: {width}")
  let a ← (Address.ofLiteral t literal port).mapError Failure.address
  let a := hostname.elim a a.withHostname
  let record ← recordOf a
  let elements ← (a.toElements w).mapError Failure.address
  return .fields [("address", .text (a.text t)),
    ("elements", .list (elements.values.map fun (n : Nat) => Data.int n)),
    ("family", .text a.family.name), ("record", .text (hexText record)),
    ("scope_id", match a.scope with
      | some s => .int s.toNat
      | none => .null),
    ("width", .text w.name)]

def candidateReport (t : Interfaces) (r : Resolved) : Data :=
  .fields [("address", .text (r.address.text t)), ("family", .text r.family.name),
    ("hostname", maybeText r.address.hostname), ("port", .int r.address.port.toNat),
    ("solution", .list [.text r.solution.family.name, .text r.solution.type.name,
      .text r.solution.protocol.name])]

def resolveReport (h : Host) (host : Option String) (port : UInt16) (hints : Hints)
    (preferIpv4 : Bool) : Except Failure Data :=
  let r : Resolver := ⟨⟨preferIpv4⟩, h.service⟩
  match (r.resolve h.interfaces host port hints).result with
  | .ok found => .ok (.list (found.map (candidateReport h.interfaces)))
  | .error e => .error (.resolve e)

section Connect

variable {m : Type → Type} [Monad m]

/-- Lets a bridge run until a queue has a record or a time in milliseconds is over. -/
abbrev Settle (m : Type → Type) := (time queue : Nat) → World String → m (World String)

/-- Sends a text and waits for the first record of a reply. -/
def exchange (settle : Settle m) (time : Nat) (w : World String) (socket : Nat) (text : String) :
    ExceptT Failure m (List (String × Data) × List (String × Data)) := do
  let (w, started) := w.read socket .text { schedulee := 2, queue := 1 }
  if let .error e := started then throw (.channel e)
  let w := w.write socket (Utf8.encode text.toList) { schedulee := 3, queue := 2 }
  match (← settle time 2 w).take 2 with
  | (w, some (.write r)) =>
    if let some e := r.error then throw (.text e)
    let sent := [("sent", Data.int r.bytesWritten)]
    match (← settle time 1 w).take 1 with
    | (_, some (.read r)) => return ([("error", maybeText r.error)],
        ("reply", maybeText r.payload) :: sent)
    | _ => return ([], sent)
  | _ => throw (.text "write timed out")

def connectReport (t : Interfaces) (settle : Settle m) (host : String) (port : UInt16)
    (send : Option String) (time : Nat) : ExceptT Failure m Data := do
  let (w, bridge) ← ExceptT.mk (pure
    ((World.addBridge ({} : World String) { workerThreads := 1 }).mapError Failure.channel))
  let (w, _) := w.connect bridge (.toHost { schedulee := 1 } host port)
  match (← settle time 0 w).take 0 with
  | (w, some (.connect r)) =>
    match r.error, (r.connection.bind (w.sockets[·]?)) with
    | none, some s =>
      let (before, after) ← match send with
        | some text => exchange settle time w (r.connection.getD 0) text
        | none => pure ([], [])
      return .fields (before ++ [("handle", .text s.guard.text),
        ("local", .text ((Address.ofSocketAddr s.link.near).text t)),
        ("peer", .text ((Address.ofSocketAddr s.link.far).text t))] ++ after)
    | error, _ => throw (.text (error.getD "connect failed"))
  | _ => throw (.text "connect timed out")

/-- How a program ends: its code and what it writes. Nothing is said of what it writes about a
command line that it does not understand. -/
structure Ending where
  code : Nat
  out : String := ""
  err : Option String := some ""
deriving DecidableEq

def Ending.ofReport (json : Bool) : Except Failure Data → Ending
  | .ok d => { code := 0, out := if json then d.pretty 0 ++ "\n" else d.plain }
  | .error f => { code := 1, err := some (f.line ++ "\n") }

def Ending.usage : Ending := { code := 2, err := none }

/-- Answers a request on a host. -/
def respond (h : Host) (settle : Settle m) : Request → m Ending
  | .usage => pure .usage
  | .help text => pure { code := 0, out := text }
  | .run json (.resolve host port hints preferIpv4) =>
    pure (.ofReport json (resolveReport h host port hints preferIpv4))
  | .run json (.encode literal port width hostname) =>
    pure (.ofReport json (encodeReport h.interfaces literal port width hostname))
  | .run json (.connect host port send time) => do
    return .ofReport json (← (connectReport h.interfaces settle host port send time).run)

end Connect

end SocketBridge.Cli
