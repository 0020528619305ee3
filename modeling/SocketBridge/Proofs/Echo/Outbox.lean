import SocketBridge.Echo.Outbox

/-!
# What an outbox holds

The bytes of an outbox are those of the write that is out, followed by the backlog. No operation
changes their order: a push adds at the end, and a completion takes from the front.
-/

namespace SocketBridge.Outbox

/-- The bytes that are not known to be taken, oldest first. -/
def pending (o : Outbox) : List UInt8 := o.inFlight.getD [] ++ o.backlog.flatten

/-- Either nothing can start, or the oldest chunk of the backlog is put in flight. -/
theorem next_cases (o : Outbox) :
    (o.next = (none, o) ∧ (o.inFlight = none → o.backlog = [])) ∨
    ∃ data rest, o = ⟨none, data :: rest⟩ ∧ o.next = (some data, ⟨some data, rest⟩) := by
  obtain ⟨inFlight, backlog⟩ := o
  cases inFlight with
  | some data => exact Or.inl ⟨rfl, fun h => nomatch h⟩
  | none =>
    cases backlog with
    | nil => exact Or.inl ⟨rfl, fun _ => rfl⟩
    | cons data rest => exact Or.inr ⟨data, rest, rfl, rfl⟩

theorem pending_next (o : Outbox) : o.next.2.pending = o.pending := by
  rcases o.next_cases with ⟨h, _⟩ | ⟨data, rest, ho, h⟩
  · rw [h]
  · rw [h, ho]
    simp [pending]

/-- What a step returns for writing is what it put in flight. -/
theorem inFlight_next (o : Outbox) :
    o.next.2.inFlight.toList = o.inFlight.toList ++ o.next.1.toList := by
  rcases o.next_cases with ⟨h, _⟩ | ⟨data, rest, ho, h⟩
  · simp [h]
  · rw [h, ho]
    rfl

/-- An outbox that asks for nothing while nothing is out has nothing. -/
theorem idle_next (o : Outbox) : o.next.2.inFlight = none → o.next.2.backlog = [] := by
  rcases o.next_cases with ⟨same, idle⟩ | ⟨data, rest, -, started⟩
  · rwa [same]
  · rw [started]
    nofun

theorem pending_push (o : Outbox) (data : List UInt8) :
    (o.push data).2.pending = o.pending ++ data := by
  rw [push, pending_next]
  split
  · rename_i empty
    rw [List.isEmpty_iff.mp empty, List.append_nil]
  · simp [pending]

theorem inFlight_push (o : Outbox) (data : List UInt8) :
    (o.push data).2.inFlight.toList = o.inFlight.toList ++ (o.push data).1.toList := by
  rw [push, inFlight_next]
  split <;> rfl

/-- A completion takes the bytes that were written and keeps all others. -/
theorem pending_complete (o : Outbox) (written : Nat) :
    (o.inFlight.getD []).take written ++ (o.complete written).2.pending = o.pending := by
  rw [complete, pending_next]
  obtain ⟨inFlight, backlog⟩ := o
  cases inFlight with
  | none => simp [pending]
  | some data =>
    by_cases short : written < data.length
    · simp [pending, short, ← List.append_assoc]
    · have whole : data.take written = data := List.take_of_length_le (by omega)
      simp [pending, short, whole]

/-- Whatever was in flight no longer is. -/
theorem inFlight_complete (o : Outbox) (written : Nat) :
    (o.complete written).2.inFlight.toList = (o.complete written).1.toList := by
  rw [complete, inFlight_next]
  obtain ⟨inFlight, backlog⟩ := o
  cases inFlight <;> rfl

theorem drained_iff (o : Outbox) : o.drained = true ↔ o.inFlight = none ∧ o.backlog = [] := by
  simp [drained]

theorem pending_of_drained {o : Outbox} (h : o.drained = true) : o.pending = [] := by
  obtain ⟨flight, empty⟩ := o.drained_iff.mp h
  simp [pending, flight, empty]

end SocketBridge.Outbox
