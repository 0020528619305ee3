import SocketBridge.Proofs.Bridge.Accounting

/-!
# The handles of the program

Few steps change which handles the program holds: it gets those onto what it opens or clones and
those in a record that it takes, and it gives up one at a time.
-/

namespace SocketBridge

variable {α : Type}

/-- Whether a step may change which handles the program holds. -/
def Step.Transfers : Step α → Prop
  | .listen _ _ _ _ | .cloneSocket _ | .cloneListener _ | .dropSocket _ | .dropListener _
  | .take _ => True
  | _ => False

def Step.Listens : Step α → Prop
  | .listen _ _ _ _ => True
  | _ => False

/-- The object onto which a step gives up a handle. -/
def Step.drops? : Step α → Option Owner
  | .dropSocket n => some (.socket n)
  | .dropListener l => some (.listener l)
  | _ => none

namespace World

variable {w : World α} {e : Step α} {o : Owner} {queue : Nat} {c : Completion α}

/-- What was never opened is not held. -/
theorem held_of_missing (missing : w.guard? o = none) : w.held o = 0 := by
  cases o with
  | socket n =>
    have absent : w.sockets[n]? = none := Option.map_eq_none_iff.mp missing
    simp [held, absent]
  | listener l =>
    have absent : w.listeners[l]? = none := Option.map_eq_none_iff.mp missing
    simp [held, absent]
  | connect c => rfl

/-- A socket that a poll opens is held by its record alone. -/
theorem Admits.held (admits : w.Admits e) : (w.step e).held = w.held := by
  cases admits with
  | nobody same => exact congrArg Holdings.held same
  | client brings tracker r added =>
    have missing : w.guard? (.socket w.sockets.length) = none := by simp [guard?]
    have updated : (w.step e).held = Function.update w.held (.socket w.sockets.length) 0 :=
      congrArg Holdings.held added
    rw [updated, ← held_of_missing missing, Function.update_eq_self]

theorem held_step (w : World α) (kept : ¬e.Transfers) : (w.step e).held = w.held := by
  cases e with
  | listen | cloneSocket | cloneListener | dropSocket | dropListener | take =>
    exact absurd trivial kept
  | connect | cancelConnect => rfl
  | addBridge config => exact congrArg Holdings.held (holdings_addBridge config)
  | accept l task => exact congrArg Holdings.held (holdings_accept l task)
  | cancelListener l => exact congrArg Holdings.held (holdings_cancelListener l)
  | read n decoder task => exact congrArg Holdings.held (holdings_read n decoder task)
  | write n data task => exact congrArg Holdings.held (holdings_write n data task)
  | shutdownWrite n => exact congrArg Holdings.held (holdings_shutdownWrite n)
  | cancelSocket n => exact congrArg Holdings.held (holdings_cancelSocket n)
  | pollRead n answer => exact congrArg Holdings.held (holdings_pollRead n answer)
  | pollWrite n answer => exact congrArg Holdings.held (holdings_pollWrite n answer)
  | pollConnect c answer => exact (admits_pollConnect c answer).held
  | pollAccept l i answer => exact (admits_pollAccept l i answer).held

/-- One handle less, if there was one. -/
theorem held_drop (w : World α) (drops : e.drops? = some o) :
    (w.step e).held = Function.update w.held o (w.held o - 1) := by
  cases e with
  | dropSocket n =>
    obtain rfl := Option.some.inj drops
    cases found : w.sockets[n]? with
    | none =>
      have none : w.held (.socket n) = 0 := held_of_missing (by simp [guard?, found])
      rw [none, Nat.zero_sub, ← none, Function.update_eq_self]
      simp [step, dropSocket, found]
    | some s =>
      have own : w.held (.socket n) = s.held := by simp [held, found]
      by_cases none : s.held = 0
      · rw [own, none, Nat.zero_sub, ← none, ← own, Function.update_eq_self]
        simp [step, dropSocket, found, none]
      · have moved : (w.step (.dropSocket n)).held =
            (w.modifySocket n fun s => { s with held := s.held - 1 }).held := by
          simp only [step, dropSocket, found, if_neg none]
          split <;> rfl
        rw [moved, held_modifySocket, own, found]
        funext o
        rw [Function.update_apply]
        rfl
  | dropListener l =>
    obtain rfl := Option.some.inj drops
    cases found : w.listeners[l]? with
    | none =>
      have none : w.held (.listener l) = 0 := held_of_missing (by simp [guard?, found])
      rw [none, Nat.zero_sub, ← none, Function.update_eq_self]
      simp [step, dropListener, found]
    | some x =>
      have own : w.held (.listener l) = x.held := by simp [held, found]
      by_cases none : x.held = 0
      · rw [own, none, Nat.zero_sub, ← none, ← own, Function.update_eq_self]
        simp [step, dropListener, found, none]
      · have moved : (w.step (.dropListener l)).held =
            (w.modifyListener l fun x => { x with held := x.held - 1 }).held := by
          simp only [step, dropListener, found, if_neg none]
          split <;> rfl
        rw [moved, held_modifyListener, own, found]
        funext o
        rw [Function.update_apply]
        rfl
  | _ => cases drops

theorem guard?_take (w : World α) (queue : Nat) : (w.take queue).1.guard? = w.guard? := by
  cases w.counts_step (.take queue) with
  | keeps keeps => exact keeps.guards
  | opens brings => exact brings.elim
  | closes drops => exact drops.elim

/-- The program gets the handles that are in a record onto what there is. -/
theorem held_taken (taken : (w.take queue).2 = some c) :
    (w.take queue).1.held o = w.held o + if c.holds o ∧ w.guard? o ≠ none then 1 else 0 := by
  cases found : w.guard? o with
  | none =>
    have still : (w.take queue).1.guard? o = none := by rw [guard?_take, found]
    rw [held_of_missing still, held_of_missing found, if_neg fun both => both.2 rfl]
  | some g =>
    rcases popped : w.queues.pop? queue with ⟨_ | record, queues⟩
    · simp [take, popped] at taken
    · have same : record = c := by simpa [take, popped] using taken
      rw [held_take popped found, same]
      simp

/-- A record that is taken and thrown away leaves the handles of the program as they were. -/
theorem held_of_discard (taken : (w.take queue).2 = some c)
    (lone : c.connection = none ∨ c.listener = none) :
    ((w.take queue).1.run c.releases).held = w.held := by
  have thrown (m : Owner) (holds : ∀ o, c.holds o = decide (o = m)) (e : Step α)
      (drops : e.drops? = some m) : ((w.take queue).1.step e).held = w.held := by
    funext o
    rw [held_drop _ drops, Function.update_apply, held_taken taken, held_taken taken]
    split
    · rename_i own
      subst own
      have missing := held_of_missing (w := w) (o := o)
      grind
    · rename_i other
      simp [holds, other]
  cases connection : c.connection with
  | some n =>
    have unlisted : c.listener = none := lone.resolve_left (by simp [connection])
    rw [Completion.releases, connection, unlisted]
    refine thrown (.socket n) (fun o => ?_) (.dropSocket n) rfl
    cases o <;> simp [Completion.holds, connection, unlisted, beq_eq_decide, eq_comm]
  | none =>
    cases listener : c.listener with
    | some l =>
      rw [Completion.releases, connection, listener]
      refine thrown (.listener l) (fun o => ?_) (.dropListener l) rfl
      cases o <;> simp [Completion.holds, connection, listener, beq_eq_decide, eq_comm]
    | none =>
      rw [Completion.releases, connection, listener]
      funext o
      have empty : c.holds o = false := by cases o <;> simp [Completion.holds, connection, listener]
      exact (held_taken taken).trans (by simp [empty])

/-- Only a listen opens a listener. -/
theorem guard?_listener_step {l : Nat} (unlistened : ¬e.Listens) :
    (w.step e).guard? (.listener l) = w.guard? (.listener l) := by
  have admitted (admits : w.Admits e) :
      (w.step e).guard? (.listener l) = w.guard? (.listener l) := by
    cases admits with
    | nobody same => exact congrFun (congrArg Holdings.guard? same) (.listener l)
    | client brings tracker r added =>
      have guards : (w.step e).guard? = Function.update w.guard? (.socket w.sockets.length) _ :=
        congrArg Holdings.guard? added
      rw [guards, Function.update_of_ne (by simp)]
  cases w.counts_step e with
  | keeps keeps => rw [keeps.guards]
  | closes drops o g closes => rw [closes.guards]
  | opens brings =>
    cases e with
    | pollConnect c answer => exact admitted (admits_pollConnect c answer)
    | pollAccept l i answer => exact admitted (admits_pollAccept l i answer)
    | listen => exact absurd trivial unlistened
    | _ => exact brings.elim

end World

end SocketBridge
