import SocketBridge.Data
import SocketBridge.Text.Escaped

/-!
# Reports

Three ways to show data: on one line, indented, and as plain lines for reading. Fields are shown
in the order of the data.
-/

namespace SocketBridge.Data

/-- Data that have no parts. -/
def leaf : Data → String
  | bool b => toString b
  | int n => toString n
  | text s => Text.escaped s
  | _ => "null"

mutual

/-- Everything on one line, without blanks. -/
def compact : Data → String
  | list items => "[" ++ String.intercalate "," (compactItems items) ++ "]"
  | fields items => "\x7b" ++ String.intercalate "," (compactFields items) ++ "\x7d"
  | d => d.leaf

def compactItems : List Data → List String
  | [] => []
  | d :: ds => compact d :: compactItems ds

def compactFields : List (String × Data) → List String
  | [] => []
  | (k, d) :: ds => (Text.escaped k ++ ":" ++ compact d) :: compactFields ds

end

/-- Lines between brackets, each behind two blanks a level; nothing between them if there are
none. -/
def block (depth : Nat) (left right : String) (lines : List String) : String :=
  if lines.isEmpty then left ++ right
  else
    let margin (n : Nat) := "\n" ++ String.ofList (List.replicate (2 * n) ' ')
    left ++ margin (depth + 1) ++ String.intercalate ("," ++ margin (depth + 1)) lines ++
      margin depth ++ right

mutual

/-- Every part on a line of its own. -/
def pretty (depth : Nat) : Data → String
  | list items => block depth "[" "]" (prettyItems (depth + 1) items)
  | fields items => block depth "\x7b" "\x7d" (prettyFields (depth + 1) items)
  | d => d.leaf

def prettyItems (depth : Nat) : List Data → List String
  | [] => []
  | d :: ds => pretty depth d :: prettyItems depth ds

def prettyFields (depth : Nat) : List (String × Data) → List String
  | [] => []
  | (k, d) :: ds => (Text.escaped k ++ ": " ++ pretty depth d) :: prettyFields depth ds

end

/-- One field on a line; texts stand without quotes, and nothing is shown of what is null. -/
def plainField (key : String) : Data → String
  | null => ""
  | text s => key ++ ": " ++ s ++ "\n"
  | d => key ++ ": " ++ compact d ++ "\n"

mutual

/-- Fields line by line, and a blank line behind each item of a list. -/
def plain : Data → String
  | list items => plainItems items
  | fields items => String.join (items.map fun e => plainField e.1 e.2)
  | d => compact d ++ "\n"

def plainItems : List Data → String
  | [] => ""
  | d :: ds => plain d ++ "\n" ++ plainItems ds

end

end SocketBridge.Data
