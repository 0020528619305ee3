import SocketBridge.Config.Form
import SocketBridge.Config.Rules
import SocketBridge.Text.Utf8
import SocketBridge.Toml.Document

/-!
# The configuration file

A file is read as UTF-8 text, the text as a document, the document as settings, and the settings are
held against the rules.
-/

namespace SocketBridge

/-- Why a file gives no settings. -/
inductive ConfigError
  | missing
  | notText
  | notConfig
  | invalid (violations : List Violation)
deriving DecidableEq

namespace BridgeConfig

/-- Settings from the text of a file. -/
def ofText (text : String) : Except ConfigError BridgeConfig :=
  match (Toml.read text).bind (ofData? .file) with
  | none => .error .notConfig
  | some c => if c.violations = [] then .ok c else .error (.invalid c.violations)

/-- Settings from the bytes of a file, if there is one. -/
def ofFile (content : Option (List UInt8)) : Except ConfigError BridgeConfig :=
  match content with
  | none => .error .missing
  | some bytes =>
    match Utf8.decode? bytes with
    | none => .error .notText
    | some cs => ofText (String.ofList cs)

end BridgeConfig

/-- What is said of settings that break rules. -/
def violationsText (vs : List Violation) : String :=
  "Validation failed: " ++ String.intercalate ", " (vs.map Violation.text)

end SocketBridge
