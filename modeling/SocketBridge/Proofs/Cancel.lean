import SocketBridge.Cancel

/-!
# How raced work ends

A poll of raced work ends it with a success or with a failure. Only a failure that comes together
with the cancel is not told.
-/

namespace SocketBridge

variable {α ε : Type}

/-- How a poll ends work whose race was not cancelled before. -/
def Poll.ending? (p : Poll α ε) : Option (Except ε α) :=
  match p.ready with
  | some (.error e) => if p.cancels then none else some (.error e)
  | ready => ready

theorem race_of_ending? {p : Poll α ε} {ending : Except ε α} (ended : p.ending? = some ending) :
    race false p = some (.ofResult ending) := by
  obtain ⟨cancels, _ | e | a⟩ := p
  · cases ended
  · cases cancels with
    | false =>
      cases ended
      rfl
    | true => cases ended
  · cases ended
    rfl

/-- Work that a poll does not end is pending, or it failed together with the cancel. -/
theorem race_of_unended {p : Poll α ε} (unended : p.ending? = none) :
    race false p = none ∨ race false p = some .cancelled ∧ p.cancels = true := by
  obtain ⟨cancels, _ | e | a⟩ := p
  · exact .inl rfl
  · cases cancels with
    | false => cases unended
    | true => exact .inr ⟨rfl, rfl⟩
  · cases unended

/-- A race succeeds with what the work gives. -/
theorem ready_of_succeeded {cancelled : Bool} {p : Poll α ε} {value : α}
    (came : race cancelled p = some (.succeeded value)) : p.ready = some (.ok value) := by
  cases cancelled with
  | true => cases came
  | false =>
    obtain ⟨cancels, _ | e | a⟩ := p
    · cases came
    · cases cancels <;> cases came
    · cases came
      rfl

end SocketBridge
