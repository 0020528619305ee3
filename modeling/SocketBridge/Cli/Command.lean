import SocketBridge.Cli.Grammar
import SocketBridge.Resolve.Hints

/-!
# Commands

What the diagnostic program and the echo daemon can be told on their command lines.
-/

namespace SocketBridge.Cli

/-- A command of the diagnostic program. -/
inductive Command
  | resolve (host : Option String) (port : UInt16) (hints : Hints) (preferIpv4 : Bool)
  | connect (host : String) (port : UInt16) (send : Option String) (timeout : Nat)
  | encode (literal : String) (port : UInt16) (width : Nat) (hostname : Option String)

/-- A whole decimal number with an optional sign, in a range. A minus sign needs `signed`. -/
def readNumber (signed : Bool) (limit : Nat) (s : String) : Option Nat :=
  let (negative, digits) := match s.toList with
    | '+' :: r => (false, r)
    | '-' :: r => (signed, if signed then r else '-' :: r)
    | r => (false, r)
  if digits.isEmpty || !digits.all Char.isDigit then none
  else
    let n := digits.foldl (fun n c => 10 * n + (c.toNat - '0'.toNat)) 0
    if n < limit && (!negative || n == 0) then some n else none

def readPort : String → Option Nat := readNumber true 0x10000

def readWidth : String → Option Nat := readNumber true 0x100000000

def readTimeout : String → Option Nat := readNumber false 0x10000000000000000

/-- It may stand before or behind the command, and every help shows it first. -/
def jsonFlag : Flag := { long := "json", help := "Print machine-readable JSON" }

def portFlag : Flag :=
  { long := "port", short := some 'p', value := some "PORT", default := some "0"
    accepts := fun s => (readPort s).isSome }

/-- An option that names a member of an enumeration. -/
def memberFlag (α : Type) [Enumeration α] (long value default : String) : Flag :=
  { long, value := some value, default := some default
    accepts := fun s => (Enumeration.ofName α s).isOk }

def memberOf (α : Type) [Enumeration α] (r : Reading) (long : String) : α :=
  match (r.flag? long).map (Enumeration.ofName α) with
  | some (.ok a) => a
  | _ => Enumeration.wildcard

def resolveGrammar : Grammar where
  usage := "netbridge-cli resolve"
  about := "Resolve a host into (family, address, solution) candidates"
  places := [{ name := "HOST", required := false,
               help := "Host to resolve; omit for the local literal" }]
  flags := [jsonFlag, portFlag, memberFlag Family "family" "FAMILY" "PF_UNSPEC",
    memberFlag SocketType "type" "SOCKET_TYPE" "SOCK_ANY",
    memberFlag Protocol "protocol" "PROTOCOL" "IPPROTO_ANY",
    { long := "passive" }, { long := "addrconfig" }, { long := "prefer-ipv4" }]

def connectGrammar : Grammar where
  usage := "netbridge-cli connect"
  about := "Connect through the I/O bridge, optionally send text and print the reply"
  places := [{ name := "HOST" }, { name := "PORT", accepts := fun s => (readPort s).isSome }]
  flags := [jsonFlag, { long := "send", value := some "SEND" },
    { long := "timeout-ms", value := some "TIMEOUT_MS", default := some "5000"
      accepts := fun s => (readTimeout s).isSome }]

def encodeGrammar : Grammar where
  usage := "netbridge-cli encode"
  about := "Show the persisted record and element buffer of an address literal"
  places := [{ name := "LITERAL" }]
  flags := [jsonFlag, portFlag,
    { long := "width", value := some "WIDTH", default := some "8"
      help := "Element width in bits (8, 16, 32 or 64)", accepts := fun s => (readWidth s).isSome },
    { long := "hostname", value := some "HOSTNAME" }]

def numberOf (read : String → Option Nat) (text : Option String) (default : Nat) : Nat :=
  (text.bind read).getD default

def portOf (text : Option String) : UInt16 := UInt16.ofNat (numberOf readPort text 0)

def resolveCommand (r : Reading) : Command :=
  .resolve (r.place? 0) (portOf (r.flag? "port"))
    { family := memberOf Family r "family", type := memberOf SocketType r "type"
      protocol := memberOf Protocol r "protocol"
      flags := ⟨r.has "addrconfig", r.has "passive"⟩ }
    (r.has "prefer-ipv4")

def connectCommand (r : Reading) : Command :=
  .connect ((r.place? 0).getD "") (portOf (r.place? 1)) (r.flag? "send")
    (numberOf readTimeout (r.flag? "timeout-ms") 5000)

def encodeCommand (r : Reading) : Command :=
  .encode ((r.place? 0).getD "") (portOf (r.flag? "port"))
    (numberOf readWidth (r.flag? "width") 8) (r.flag? "hostname")

/-- The commands by name. -/
def commands : List (String × Grammar × (Reading → Command)) :=
  [("resolve", resolveGrammar, resolveCommand), ("connect", connectGrammar, connectCommand),
    ("encode", encodeGrammar, encodeCommand)]

def helpAbout : String := "Print this message or the help of the given subcommand(s)"

/-- The help of the word that asks for help. -/
def helpHelp : String :=
  helpAbout ++ "\n\nUsage: netbridge-cli help [COMMAND]...\n" ++
    table "Arguments" [("", "[COMMAND]...", "Print help for the subcommand(s)")]

/-- The help of the whole program. -/
def helpText : String :=
  let rows := commands.map fun c => ("", c.1, c.2.1.about)
  let flags := [jsonFlag, helpFlag].map fun f => (f.margin, f.text, f.about)
  "Resolution, connection and address-encoding diagnostics\n\n" ++
    "Usage: netbridge-cli [OPTIONS] <COMMAND>\n" ++
    table "Commands" (rows ++ [("", "help", helpAbout)]) ++
    table "Options" flags

/-- What a command line asks for. -/
inductive Request
  | run (json : Bool) (command : Command)
  | help (text : String)
  | usage

/-- Help by the names that follow the word. -/
def readHelp : List String → Request
  | [] => .help helpText
  | ["help"] => .help helpHelp
  | [name] => match commands.lookup name with
    | some (g, _) => .help g.help
    | none => .usage
  | _ => .usage

/-- Reads a command line; switches that go before the command are its own. -/
def readRequest (json : Bool) : List String → Request
  | [] => .usage
  | arg :: rest =>
    if arg = "--json" then if json then .usage else readRequest true rest
    else if arg = "help" then readHelp rest
    else if isFlagLike arg then if Grammar.isHelp arg then .help helpText else .usage
    else match commands.lookup arg with
      | none => .usage
      | some (g, command) => match g.read {} rest with
        | .ok r => .run (json || r.has "json") (command r)
        | .error .help => .help g.help
        | .error .usage => .usage

/-- The command line of the echo daemon: perhaps a file of settings. -/
def daemonGrammar : Grammar where
  usage := "netbridge"
  about := "Echo daemon built on the netbridge I/O bridge"
  flags := [{ long := "config", short := some 'c', value := some "CONFIG"
              help := "Path to a TOML configuration file", accepts := fun s => s != "" }]

end SocketBridge.Cli
