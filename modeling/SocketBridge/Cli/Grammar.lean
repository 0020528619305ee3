/-!
# Command lines

What a command takes: values in fixed places, options with a value and switches. Reading goes from
left to right, and the first thing that is wrong or asks for help ends it.
-/

namespace SocketBridge.Cli

/-- A value in a fixed place. -/
structure Place where
  name : String
  required : Bool := true
  help : String := ""
  accepts : String → Bool := fun _ => true

/-- An option with a value, or a switch when `value` is missing. -/
structure Flag where
  long : String
  short : Option Char := none
  value : Option String := none
  default : Option String := none
  help : String := ""
  accepts : String → Bool := fun _ => true

/-- What one command takes. -/
structure Grammar where
  usage : String
  about : String
  places : List Place := []
  flags : List Flag

/-- Why reading ended early. -/
inductive Stop
  | usage
  | help
deriving DecidableEq

/-- What was read: values by place, and flags with their values. -/
structure Reading where
  places : List String := []
  flags : List (String × String) := []

namespace Reading

def place? (r : Reading) (n : Nat) : Option String := r.places[n]?

def flag? (r : Reading) (long : String) : Option String := r.flags.lookup long

def has (r : Reading) (long : String) : Bool := (r.flag? long).isSome

end Reading

/-- Whether an argument cannot be the value of the option before it. -/
def isFlagLike (arg : String) : Bool := arg.startsWith "-" && arg != "-"

namespace Grammar

def addPlace (g : Grammar) (r : Reading) (value : String) : Except Stop Reading :=
  match g.places[r.places.length]? with
  | some p =>
    if p.accepts value then .ok { r with places := r.places ++ [value] } else .error .usage
  | none => .error .usage

/-- A flag may be given once. -/
def addFlag (f : Flag) (r : Reading) (value : String) : Except Stop Reading :=
  if f.accepts value && !r.has f.long then .ok { r with flags := r.flags ++ [(f.long, value)] }
  else .error .usage

/-- Whether all places that must be filled are. -/
def finish (g : Grammar) (r : Reading) : Except Stop Reading :=
  if (g.places.drop r.places.length).any Place.required then .error .usage else .ok r

/-- A flag and the value attached to it: behind an equals sign, or right behind a short name. -/
def flagOf? (g : Grammar) (arg : List Char) : Option (Flag × Option String) :=
  match arg with
  | '-' :: '-' :: name =>
    let (long, rest) := name.span (· != '=')
    (g.flags.find? (·.long == String.ofList long)).map fun f =>
      (f, match rest with
        | [] => none
        | _ :: value => some (String.ofList value))
  | '-' :: short :: rest =>
    (g.flags.find? (·.short == some short)).map fun f =>
      (f, match rest with
        | [] => none
        | '=' :: value => some (String.ofList value)
        | value => some (String.ofList value))
  | _ => none

/-- Whether an argument asks for help. -/
def isHelp (arg : String) : Bool := arg == "--help" || arg.startsWith "-h"

/-- Reads the arguments that follow what was read. -/
def read (g : Grammar) (r : Reading) : List String → Except Stop Reading
  | [] => g.finish r
  | arg :: rest =>
    if arg = "--" then rest.foldlM g.addPlace r >>= g.finish
    else if !isFlagLike arg then do (g.read (← g.addPlace r arg) rest)
    else if isHelp arg then .error .help
    else match g.flagOf? arg.toList with
      | none => .error .usage
      | some (f, attached) =>
        match f.value, attached with
        | none, none => do g.read (← addFlag f r "") rest
        | none, some _ => .error .usage
        | some _, some value => do g.read (← addFlag f r value) rest
        | some _, none =>
          match rest with
          | [] => .error .usage
          | value :: rest =>
            if isFlagLike value then .error .usage else do g.read (← addFlag f r value) rest

end Grammar

/-! ## Help -/

def Place.text (p : Place) : String :=
  if p.required then "<" ++ p.name ++ ">" else "[" ++ p.name ++ "]"

def Flag.text (f : Flag) : String :=
  "--" ++ f.long ++ (match f.value with
    | some v => " <" ++ v ++ ">"
    | none => "")

def Flag.margin (f : Flag) : String :=
  match f.short with
  | some c => "-" ++ String.ofList [c] ++ ", "
  | none => "    "

/-- The help of a flag with its default. -/
def Flag.about (f : Flag) : String :=
  let parts := [f.help] ++ (match f.default with
    | some v => ["[default: " ++ v ++ "]"]
    | none => [])
  String.intercalate " " (parts.filter (· != ""))

/-- Rows of two columns under a title, two blanks behind the widest entry of the first. -/
def table (title : String) (rows : List (String × String × String)) : String :=
  let widest := (rows.map fun r => r.2.1.length).foldl max 0
  let line (r : String × String × String) :=
    "  " ++ r.1 ++ r.2.1 ++ String.ofList (List.replicate (widest + 2 - r.2.1.length) ' ') ++ r.2.2
  if rows.isEmpty then ""
  else "\n" ++ title ++ ":\n" ++ String.intercalate "\n" (rows.map line) ++ "\n"

def helpFlag : Flag := { long := "help", short := some 'h', help := "Print help" }

def Grammar.help (g : Grammar) : String :=
  let places := g.places.map fun p => ("", p.text, p.help)
  let flags := (g.flags ++ [helpFlag]).map fun f => (f.margin, f.text, f.about)
  g.about ++ "\n\nUsage: " ++ g.usage ++ " [OPTIONS]" ++
    String.join (g.places.map fun p => " " ++ p.text) ++ "\n" ++
    table "Arguments" places ++ table "Options" flags

end SocketBridge.Cli
