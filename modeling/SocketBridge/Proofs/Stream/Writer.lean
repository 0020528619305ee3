import SocketBridge.Stream.Write

/-!
# Turns of a writer

While a socket is not cancelled, a turn of its writer carries out the first command in line, waits
for the host, or finds the line empty. Only then, and if no handle is left, it stops.
-/

namespace SocketBridge

/-- A command that the host was asked to carry out, with its answer. -/
structure Performed where
  command : WriteCommand
  outcome : Except String Nat

namespace Performed

/-- The record of a write, with its queue. A half-close has none. -/
def record? (p : Performed) : Option (Nat × WriteRecord) :=
  match p.command, p.outcome with
  | .write _ task, .ok n => some (task.queue, { schedulee := task.schedulee, bytesWritten := n })
  | .write _ task, .error text =>
    some (task.queue, { schedulee := task.schedulee, error := some text, bytesWritten := 0 })
  | .shutdown, _ => none

/-- The bytes that the record says were taken, from the front of the data. -/
def bytes (p : Performed) : List UInt8 :=
  match p.command, p.record? with
  | .write data _, some r => data.take r.2.bytesWritten
  | _, _ => []

/-- Every write has a record. -/
theorem record_of_write {p : Performed} {data : List UInt8} {task : Task}
    (command : p.command = .write data task) :
    ∃ r, p.record? = some (task.queue, r) ∧ r.schedulee = task.schedulee := by
  obtain ⟨_, outcome⟩ := p
  obtain rfl := command
  cases outcome <;> exact ⟨_, rfl, rfl⟩

/-- Whether the stream is half-closed by it. -/
def halfCloses (p : Performed) : Bool :=
  match p.command, p.outcome with
  | .shutdown, .ok _ => true
  | _, _ => false

end Performed

namespace Writer

variable {w : Writer} {unreachable : Bool} {answer : Poll Nat String}

/-- What may come of a turn that is not cancelled. -/
inductive Turns (w : Writer) (unreachable : Bool) (answer : Poll Nat String) : WriteTurn → Prop
  | idles (line : w.commands = []) :
    Turns w unreachable answer ⟨if unreachable then w.stop else w, none, []⟩
  | waits (line : w.commands ≠ []) (pending : answer.ready = none) :
    Turns w unreachable answer ⟨w, none, []⟩
  | performs (p : Performed) (rest : List WriteCommand) (line : w.commands = p.command :: rest)
      (ready : answer.ready = some p.outcome) (record : Option (Task × WriteRecord))
      (told : record.map (fun r => (r.1.queue, r.2)) = p.record?) (marks : List Mark) :
    Turns w unreachable answer
      ⟨{ w with commands := rest, taken := w.taken ++ p.bytes
                halfClosed := w.halfClosed || p.halfCloses }, record, marks⟩

theorem turn_does (w : Writer) (unreachable : Bool) (live : answer.cancels = false) :
    w.Turns unreachable answer (w.turn false unreachable answer) := by
  obtain ⟨cancels, ready⟩ := answer
  obtain rfl := live
  obtain ⟨commands, running, taken, halfClosed⟩ := w
  cases commands with
  | nil => exact .idles rfl
  | cons command rest =>
    cases ready with
    | none => cases command <;> exact .waits nofun rfl
    | some outcome =>
      have performs := fun record told marks =>
        @Turns.performs ⟨command :: rest, running, taken, halfClosed⟩ unreachable
          ⟨false, some outcome⟩ ⟨command, outcome⟩ rest rfl rfl record told marks
      cases command with
      | write data task =>
        cases outcome with
        | ok n =>
          simpa [turn, race, Performed.bytes, Performed.record?, Performed.halfCloses]
            using performs _ rfl [.completion .write true, .bytesWritten n]
        | error text =>
          simpa [turn, race, Performed.bytes, Performed.record?, Performed.halfCloses]
            using performs _ rfl [.completion .write false]
      | shutdown =>
        cases outcome <;>
          simpa [turn, race, Performed.bytes, Performed.record?, Performed.halfCloses]
            using performs none rfl []

/-- No turn puts anything in line, and what it tells is of a write in line. -/
theorem line_of_turn (w : Writer) (cancelled unreachable : Bool) (answer : Poll Nat String) :
    (w.turn cancelled unreachable answer).next.commands ⊆ w.commands ∧
      ∀ task q, (w.turn cancelled unreachable answer).record = some (task, q) →
        ∃ data, .write data task ∈ w.commands := by
  obtain ⟨commands, running, taken, halfClosed⟩ := w
  cases cancelled with
  | true => exact ⟨List.nil_subset _, nofun⟩
  | false =>
    cases commands with
    | nil => cases unreachable <;> exact ⟨List.nil_subset _, nofun⟩
    | cons command rest =>
      have shorter : rest ⊆ command :: rest := List.subset_cons_self ..
      simp only [turn]
      cases command with
      | write data owner =>
        rcases race false answer with _ | n | text | _
        · exact ⟨fun _ member => member, nofun⟩
        · exact ⟨shorter, fun task q told => by cases told; exact ⟨data, List.mem_cons_self⟩⟩
        · exact ⟨shorter, fun task q told => by cases told; exact ⟨data, List.mem_cons_self⟩⟩
        · exact ⟨List.nil_subset _, nofun⟩
      | shutdown =>
        rcases race false answer with _ | n | text | _
        · exact ⟨fun _ member => member, nofun⟩
        all_goals exact ⟨shorter, nofun⟩

end Writer

end SocketBridge
