import SocketBridge.Bridge.Error
import SocketBridge.Config.File
import SocketBridge.Record
import SocketBridge.Resolve.Resolver

/-!
# Failures of a program

What ends a program, and how it is shown: the cause by name with what it is about, texts in quotes.
-/

namespace SocketBridge

/-- The kind of an error of the operating system, by its number. -/
def OsError.kind (e : OsError) : String :=
  match e.code with
  | 2 => "NotFound"
  | 13 => "PermissionDenied"
  | 22 => "InvalidInput"
  | 32 => "BrokenPipe"
  | 98 => "AddrInUse"
  | 99 => "AddrNotAvailable"
  | 101 => "NetworkUnreachable"
  | 104 => "ConnectionReset"
  | 111 => "ConnectionRefused"
  | _ => "Uncategorized"

def Family.label : Family → String
  | .unspec => "Unspec"
  | .unix => "Unix"
  | .inet => "Inet"
  | .inet6 => "Inet6"

def ElementWidth.label : ElementWidth → String
  | .u8 => "U8"
  | .u16 => "U16"
  | .u32 => "U32"
  | .u64 => "U64"

namespace Cli

/-- A name with its fields. -/
def labelled (name : String) (fields : List (String × String)) : String :=
  name ++ " \x7b " ++ String.intercalate ", " (fields.map fun f => f.1 ++ ": " ++ f.2) ++ " \x7d"

/-- A name with one thing. -/
def wrapped (name content : String) : String := name ++ "(" ++ content ++ ")"

def osDetail (e : OsError) : String :=
  labelled "Os" [("code", toString e.code), ("kind", e.kind), ("message", Text.quoted e.text)]

def addressDetail : AddressError → String
  | .format literal => labelled "Format" [("literal", Text.quoted literal)]
  | .length family width expected actual =>
    labelled "Length" [("family", family.label), ("width", width.label),
      ("expected", toString expected), ("actual", toString actual)]
  | .width family width => labelled "Width" [("family", family.label), ("width", width.label)]
  | .scopeOnInet => "ScopeOnInet"
  | .unknownInterface name => wrapped "UnknownInterface" (Text.quoted name)
  | .unsupportedFamily family => wrapped "UnsupportedFamily" family.label

def resolveDetail : ResolveError → String
  | .lookup text => wrapped "Lookup" (Text.quoted text)
  | e => wrapped "Validation" (Text.quoted e.message)

def violationDetail (v : Violation) : String :=
  labelled "ValidationError" [("field", Text.quoted v.field), ("message", Text.quoted v.message)]

def violationsDetail (vs : List Violation) : String :=
  "[" ++ String.intercalate ", " (vs.map violationDetail) ++ "]"

def configDetail : ConfigError → String
  | .missing => wrapped "Io" (osDetail .notFound)
  | .notText => wrapped "Io" (labelled "Error"
      [("kind", "InvalidData"), ("message", Text.quoted "stream did not contain valid UTF-8")])
  | .notConfig => wrapped "Parse" "Error"
  | .invalid vs => wrapped "Validation" (violationsDetail vs)

def channelDetail : ChannelError → String
  | .bind address e =>
    labelled "Bind" [("address", String.ofList address.text), ("source", osDetail e)]
  | .backlog address =>
    labelled "Listen" [("address", String.ofList address.text),
      ("source", labelled "Custom" [("kind", "InvalidInput"),
        ("error", Text.quoted "backlog must be positive")])]
  | .listen address e =>
    labelled "Listen" [("address", String.ofList address.text), ("source", osDetail e)]
  | .alreadyReading => "AlreadyReading"
  | .closed => "Closed"
  | .noPeer => "NoPeer"
  | .invalidConfig vs => wrapped "InvalidConfig" (violationsDetail vs)
  | .noRuntime => "Runtime"
  | .io e => wrapped "Io" (osDetail e)

/-- Why a program ends. -/
inductive Failure
  | text (s : String)
  | address (error : AddressError)
  | resolve (error : ResolveError)
  | oversized (length : Nat)
  | config (error : ConfigError)
  | channel (error : ChannelError)
  | metricsListener (error : OsError)
deriving DecidableEq

def Failure.detail : Failure → String
  | text s => Text.quoted s
  | address e => addressDetail e
  | resolve e => resolveDetail e
  | oversized length => wrapped "Oversized" (toString length)
  | config e => configDetail e
  | channel e => channelDetail e
  | metricsListener e => wrapped "FailedToCreateHTTPListener" (Text.quoted e.message)

/-- The last line of a program that fails. -/
def Failure.line (f : Failure) : String := "Error: " ++ f.detail

end Cli

end SocketBridge
