import SocketBridge.Text.Digits

/-!
# Metrics

Counters by label and one gauge for live handles, with the lines in which they are shown. Something
never counted has no line.
-/

namespace SocketBridge

/-- The kinds of operation whose completions are counted. -/
inductive Operation
  | connect | accept | read | write
deriving DecidableEq, Repr

def Operation.label : Operation → String
  | connect => "connect"
  | accept => "accept"
  | read => "read"
  | write => "write"

/-- The label of a success or a failure. -/
def outcomeLabel (ok : Bool) : String := if ok then "ok" else "error"

inductive Counter
  | completions (operation outcome : String)
  | bytes (direction : String)
  | resolutions (outcome : String)
deriving DecidableEq

/-- What is counted at one place of the program: that an operation has ended, or bytes. -/
inductive Mark
  | completion (operation : Operation) (ok : Bool)
  | bytesRead (n : Nat)
  | bytesWritten (n : Nat)
deriving DecidableEq

structure Metrics where
  counts : List (Counter × Nat) := []
  /-- How many more handles were opened than closed, once there was any. -/
  handles : Option Int := none
deriving DecidableEq

namespace Metrics

def count (m : Metrics) (c : Counter) : Nat := (m.counts.lookup c).getD 0

/-- Adds to a counter, which from then on is shown even if it is zero. -/
def add (m : Metrics) (c : Counter) (n : Nat) : Metrics :=
  if m.counts.any (·.1 == c) then
    { m with counts := m.counts.map fun e => if e.1 == c then (c, e.2 + n) else e }
  else { m with counts := m.counts ++ [(c, n)] }

def completed (m : Metrics) (op : Operation) (ok : Bool) : Metrics :=
  m.add (.completions op.label (outcomeLabel ok)) 1

def resolved (m : Metrics) (ok : Bool) : Metrics := m.add (.resolutions (outcomeLabel ok)) 1

def bytesRead (m : Metrics) (n : Nat) : Metrics := m.add (.bytes "read") n

def bytesWritten (m : Metrics) (n : Nat) : Metrics := m.add (.bytes "written") n

def mark (m : Metrics) : Mark → Metrics
  | .completion op ok => m.completed op ok
  | .bytesRead n => m.bytesRead n
  | .bytesWritten n => m.bytesWritten n

def opened (m : Metrics) : Metrics := { m with handles := some (m.handles.getD 0 + 1) }

def closed (m : Metrics) : Metrics := { m with handles := some (m.handles.getD 0 - 1) }

/-- A label value with line feeds and quotes escaped. A backslash is escaped unless it already
escapes a quote or another backslash; `pending` says that one is waiting. -/
def escapeLabel : (pending : Bool) → List Char → List Char
  | pending, [] => if pending then ['\\', '\\'] else []
  | pending, c :: cs =>
    if c = '\n' then '\\' :: 'n' :: escapeLabel pending cs
    else if c = '"' then '\\' :: '"' :: escapeLabel false cs
    else if c = '\\' then
      if pending then '\\' :: '\\' :: escapeLabel false cs else escapeLabel true cs
    else if pending then '\\' :: '\\' :: c :: escapeLabel false cs
    else c :: escapeLabel false cs

/-- One label with its value. -/
def labelText (name value : String) : String :=
  name ++ "=\"" ++ String.ofList (escapeLabel false value.toList) ++ "\""

/-- The name and labels of a counter. -/
def counterText : Counter → String
  | .completions op outcome =>
    "netbridge_completions_total\x7b" ++ labelText "op" op ++ "," ++ labelText "outcome" outcome ++
      "\x7d"
  | .bytes direction => "netbridge_bytes_total\x7b" ++ labelText "direction" direction ++ "\x7d"
  | .resolutions outcome =>
    "netbridge_resolutions_total\x7b" ++ labelText "outcome" outcome ++ "\x7d"

/-- Counters are shown in 64 bits. -/
def counterLimit : Nat := 18446744073709551616

/-- All sample lines, sorted. -/
def lines (m : Metrics) : List String :=
  let counters := m.counts.map fun e =>
    counterText e.1 ++ " " ++ String.ofList (Text.decimal (e.2 % counterLimit))
  let gauge := m.handles.toList.map fun n => s!"netbridge_active_handles {n}"
  (counters ++ gauge).mergeSort fun a b => a ≤ b

end Metrics

end SocketBridge
