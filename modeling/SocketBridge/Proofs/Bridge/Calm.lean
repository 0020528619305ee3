import SocketBridge.Proofs.Bridge.Holding
import SocketBridge.Proofs.Bridge.Silence
import SocketBridge.Proofs.Stream.Writer

/-!
# Calm objects

An object is calm if no poll of it can push a record: it is cancelled, or it is a socket without a
read that has nothing but half-closes in line. It stays so until something is asked of it.
-/

namespace SocketBridge

variable {α : Type}

def Socket.Calm (s : Socket α) : Prop :=
  s.cancelled = true ∨ s.reading = none ∧ ∀ command ∈ s.writer.commands, command = .shutdown

/-- Whether a step asks something of an object, or may be what opens it. -/
def Step.Wakes : Step α → Owner → Prop
  | .read n _ _, .socket m | .write n _ _, .socket m => n = m
  | .listen _ _ _ _, .listener _ => True
  | .connect _ _, .connect _ => True
  | _, _ => False

/-- The object that a step cancels through a handle. -/
def Step.cancels? : Step α → Option Owner
  | .cancelSocket n => some (.socket n)
  | .cancelListener l => some (.listener l)
  | _ => none

/-- The steps of a shutdown: handles are cancelled and given up, records are taken, and what runs
is polled. -/
def Step.Closing : Step α → Prop
  | .cancelConnect _ | .cancelListener _ | .dropListener _ | .cancelSocket _ | .dropSocket _
  | .take _ | .pollConnect _ _ | .pollAccept _ _ _ | .pollRead _ _ | .pollWrite _ _ => True
  | _ => False

theorem Step.Closing.asleep {e : Step α} (closing : e.Closing) (o : Owner) : ¬e.Wakes o := by
  cases e with
  | read | write | listen | connect => exact closing.elim
  | _ => exact id

namespace World

variable {w : World α} {e : Step α} {o : Owner}

def Calm (w : World α) : Owner → Prop
  | .socket n => ∀ s, w.sockets[n]? = some s → s.Calm
  | .listener l => ∀ x, w.listeners[l]? = some x → x.cancelled = true
  | .connect c => w.connects[c]? = none

theorem Moves.calm {n : Nat} {s s' : Socket α} (moves : w.Moves n s e s') (calm : s.Calm)
    (asleep : ¬e.Wakes (.socket n)) : s'.Calm := by
  rcases calm with cancelled | ⟨unread, line⟩
  · exact .inl (moves.cancelled cancelled)
  · cases moves with
    | apart | ignores => exact .inr ⟨unread, line⟩
    | reads | writes => exact absurd rfl asleep
    | shuts =>
      refine .inr ⟨unread, fun command member => ?_⟩
      rcases List.mem_append.mp member with old | new
      · exact line command old
      · exact List.mem_singleton.mp new
    | cancels => exact .inl rfl
    | readTurn r reading => cases unread.symm.trans reading
    | writeTurn _ answer =>
      unfold Socket.cancelIf
      split
      · exact .inl rfl
      · refine .inr ⟨unread, fun command member => line command ?_⟩
        exact (s.writer.line_of_turn ..).1 member

/-- A connect is there only if it was started. -/
theorem length_connects_step (w : World α) (unstarted : ¬e.Connects) :
    (w.step e).connects.length = w.connects.length := by
  cases about : e.connect? with
  | none => rw [w.connects_kept about unstarted]
  | some c =>
    cases e with
    | cancelConnect => exact List.length_modify ..
    | pollConnect c answer =>
      simp only [step, pollConnect]
      split
      · split <;> simp [modifyConnect]
      · rfl
    | _ => cases about

/-- A calm object stays so until something is asked of it. -/
theorem Calm.step (calm : w.Calm o) (asleep : ¬e.Wakes o) : (w.step e).Calm o := by
  cases o with
  | socket n =>
    intro s' found'
    obtain ⟨s, found, moves⟩ | ⟨-, guard, link, rfl⟩ := moves_or_opens found'
    · exact moves.calm (calm s found) asleep
    · exact .inr ⟨rfl, nofun⟩
  | listener l =>
    intro x' found'
    cases found : w.listeners[l]? with
    | none =>
      have unlistened : ¬e.Listens := by cases e <;> simp_all [Step.Listens, Step.Wakes]
      have missing : (w.step e).guard? (.listener l) = w.guard? (.listener l) :=
        guard?_listener_step unlistened
      simp [guard?, found, found'] at missing
    | some x =>
      obtain ⟨_, same, moves⟩ := listener_step found e
      obtain rfl := Option.some.inj (found'.symm.trans same)
      exact moves.cancelled (calm x found)
  | connect c =>
    have unstarted : ¬e.Connects := by cases e <;> simp_all [Step.Connects, Step.Wakes]
    have missing : w.connects[c]? = none := calm
    refine List.getElem?_eq_none ?_
    rw [w.length_connects_step unstarted]
    exact List.getElem?_eq_none_iff.mp missing

theorem Calm.run (calm : w.Calm o) {steps : List (Step α)} (asleep : ∀ e ∈ steps, ¬e.Wakes o) :
    (w.run steps).Calm o := by
  induction steps generalizing w with
  | nil => exact calm
  | cons e steps ih =>
    exact ih (calm.step (asleep e List.mem_cons_self)) fun e member =>
      asleep e (List.mem_cons_of_mem _ member)

/-- A shutdown makes no record for what is calm. -/
theorem pushes_of_calm (calm : ∀ o, e.owner? = some o → w.Calm o) (closing : e.Closing) :
    w.pushes e = [] := by
  rcases w.pushes_cases e with silent | ⟨r, -, tells⟩
  · exact silent
  · cases tells with
    | accepts | refused => exact closing.elim
    | @acceptTurn l _ x _ _ result found running turned =>
      have cancelled := calm (.listener l) rfl x found
      rw [cancelled] at turned
      cases turned
    | @connectTurn c slot _ _ result found =>
      have missing : w.connects[c]? = none := calm (.connect c) rfl
      cases missing.symm.trans found
    | @readTurn n s r _ record found reading turned =>
      rcases calm (.socket n) rfl s found with cancelled | ⟨unread, -⟩
      · rw [cancelled] at turned
        cases turned
      · cases unread.symm.trans reading
    | @writeTurn n s _ task record found running turned =>
      rcases calm (.socket n) rfl s found with cancelled | ⟨-, line⟩
      · rw [cancelled] at turned
        cases turned
      · obtain ⟨data, waits⟩ := (s.writer.line_of_turn ..).2 task record turned
        cases line _ waits

/-- A cancel through a handle makes calm. -/
theorem calm_of_cancel (cancels : e.cancels? = some o) (held : w.held o ≠ 0) :
    (w.step e).Calm o := by
  cases e with
  | cancelSocket n =>
    obtain rfl := Option.some.inj cancels
    intro s' found'
    cases found : w.sockets[n]? with
    | none => simp [step, cancelSocket, found] at found'
    | some s =>
      have own : s.held ≠ 0 := by simpa [World.held, found] using held
      have cancelled : some s.cancel = some s' := by
        simpa [step, cancelSocket, found, own] using found'
      rw [← Option.some.inj cancelled]
      exact .inl rfl
  | cancelListener l =>
    obtain rfl := Option.some.inj cancels
    intro x' found'
    cases found : w.listeners[l]? with
    | none => simp [step, cancelListener, getElem?_modifyListener, found] at found'
    | some x =>
      have own : x.held ≠ 0 := by simpa [World.held, found] using held
      have cancelled : some { x with cancelled := true } = some x' := by
        simpa [step, cancelListener, getElem?_modifyListener, found, own] using found'
      rw [← Option.some.inj cancelled]
  | _ => cases cancels

/-- What was never there is calm. -/
theorem calm_of_missing (missing : w.guard? o = none) (unconnected : w.connects = []) :
    w.Calm o := by
  cases o with
  | socket n =>
    intro s found
    simp [guard?, found] at missing
  | listener l =>
    intro x found
    simp [guard?, found] at missing
  | connect c => simp [Calm, unconnected]

end World

end SocketBridge
