/-!
# Domain names

Labels of letters, digits, hyphens and underscores with points between them. A point may stand
behind the last one, and a point alone names the root.
-/

namespace SocketBridge

/-- The longest label, in characters. -/
def maxLabel : Nat := 63

/-- The longest name, counted with one more for each label and one more at the end. -/
def maxDomainName : Nat := 255

/-- The labels of a name, the empty one behind a last point left out. -/
def labelsOf (name : String) : List String :=
  let labels := name.splitOn "."
  if 1 < labels.length ∧ labels.getLast? = some "" then labels.dropLast else labels

def isLabel (label : String) : Bool :=
  0 < label.length && label.length ≤ maxLabel &&
    label.toList.all fun c => c.isAlphanum || c == '-' || c == '_'

/-- Whether a host can have this name. A hyphen may not be the first of its characters. -/
def isDomainName (name : String) : Bool :=
  let labels := labelsOf name
  name == "." || !name.startsWith "-" && labels.all isLabel &&
    labels.foldl (fun n l => n + l.length + 1) 0 < maxDomainName

end SocketBridge
