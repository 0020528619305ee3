/-!
# Steps that may fail

What the parts of a sequence gave is told from what the whole gave.
-/

namespace SocketBridge

variable {ε δ β γ : Type} {x : Except ε β}

theorem bind_eq_ok {f : β → Except ε γ} {b : γ} (done : x >>= f = .ok b) :
    ∃ a, x = .ok a ∧ f a = .ok b := by
  cases x with
  | error e => cases done
  | ok a => exact ⟨a, rfl, done⟩

theorem bind_eq_error {f : β → Except ε γ} {e : ε} (failed : x >>= f = .error e) :
    x = .error e ∨ ∃ a, x = .ok a ∧ f a = .error e := by
  cases x with
  | error e' => exact Or.inl (congrArg Except.error (Except.error.inj failed))
  | ok a => exact Or.inr ⟨a, rfl, failed⟩

theorem mapError_eq_ok {f : ε → δ} {b : β} (done : x.mapError f = .ok b) : x = .ok b := by
  cases x with
  | error e => cases done
  | ok a => exact congrArg Except.ok (Except.ok.inj done)

theorem mapError_eq_error {f : ε → δ} {d : δ} (failed : x.mapError f = .error d) :
    ∃ e, x = .error e ∧ f e = d := by
  cases x with
  | error e => exact ⟨e, rfl, Except.error.inj failed⟩
  | ok a => cases failed

end SocketBridge
