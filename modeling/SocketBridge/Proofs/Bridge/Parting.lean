import SocketBridge.Proofs.Bridge.Calm

/-!
# Parting with objects

Who is done with an object cancels it and gives up all handles onto it. What a list of such calls
has still to do about an object stays due while anything is polled in between.
-/

namespace SocketBridge

variable {α : Type}

/-- Whether a step cancels something or gives up a handle onto it. -/
def Step.Parts : Step α → Prop
  | .cancelSocket _ | .cancelListener _ | .dropSocket _ | .dropListener _ => True
  | _ => False

theorem Step.Parts.closing {e : Step α} (parts : e.Parts) : e.Closing := by
  cases e with
  | cancelSocket | cancelListener | dropSocket | dropListener => exact trivial
  | _ => exact parts.elim

/-- Whether an object is cancelled before the first handle onto it is given up. -/
def Awaits (o : Owner) : List (Step α) → Prop
  | [] => False
  | e :: calls => e.cancels? = some o ∨ e.drops? ≠ some o ∧ Awaits o calls

theorem Completion.parts_of_releases {c : Completion α} {e : Step α} (member : e ∈ c.releases) :
    e.Parts := by
  unfold releases at member
  cases connection : c.connection <;> cases listener : c.listener <;>
    simp only [connection, listener, Option.map_none, Option.map_some, Option.toList_none,
      Option.toList_some, List.append_nil, List.nil_append, List.cons_append, List.mem_cons,
      List.not_mem_nil, or_false] at member
  · exact member ▸ trivial
  · exact member ▸ trivial
  · rcases member with rfl | rfl <;> exact trivial

theorem Completion.length_releases (c : Completion α) : c.releases.length ≤ 2 := by
  unfold releases
  cases c.connection <;> cases c.listener <;> simp

namespace World

theorem queues_of_parts {w : World α} {e : Step α} (parts : e.Parts) :
    (w.step e).queues = w.queues := by
  cases e with
  | cancelSocket | cancelListener | dropSocket | dropListener => exact queues_of_unowned rfl nofun
  | _ => exact parts.elim

theorem queues_run_of_parts {w : World α} {calls : List (Step α)} (parts : ∀ e ∈ calls, e.Parts) :
    (w.run calls).queues = w.queues := by
  induction calls generalizing w with
  | nil => rfl
  | cons e calls ih =>
    obtain ⟨here, there⟩ := List.forall_mem_cons.mp parts
    rw [run_cons, ih there, queues_of_parts here]

/-- A record that is taken waits no more. -/
theorem length_waiting_of_take {w : World α} {queue : Nat} {c : Completion α}
    (taken : (w.take queue).2 = some c) :
    (w.take queue).1.queues.waiting.length + 1 = w.queues.waiting.length := by
  rcases w.queues_take queue with queues | ⟨empty, -⟩
  · have waits := mem_waiting_of_take taken
    rw [queues, List.length_eraseP_of_mem waits (beq_self_eq_true queue)]
    exact Nat.succ_pred_eq_of_pos (List.length_pos_of_mem waits)
  · have head := head_of_take taken
    rw [empty] at head
    cases head

variable {w : World α} {e : Step α} {calls : List (Step α)} {o : Owner}

/-- What calls have to do about an object: to give up all handles that the program holds onto it,
and before that to cancel it unless it is calm. -/
structure Due (w : World α) (calls : List (Step α)) (o : Owner) : Prop where
  owed : w.held o ≤ calls.countP fun e => decide (e.drops? = some o)
  loud : ¬w.Calm o → w.held o ≠ 0 ∧ Awaits o calls

/-- A step that gives up no handle onto an object leaves those that the program has. -/
theorem held_of_parts (parts : e.Parts) (other : e.drops? ≠ some o) :
    (w.step e).held o = w.held o := by
  cases drops : e.drops? with
  | some m =>
    have apart : o ≠ m := fun same => other (drops.trans (congrArg some same.symm))
    rw [w.held_drop drops, Function.update_of_ne apart]
  | none =>
    have kept : ¬e.Transfers := by
      cases e with
      | cancelSocket | cancelListener => exact id
      | dropSocket | dropListener => cases drops
      | _ => exact parts.elim
    rw [w.held_step kept]

theorem Due.call (due : w.Due (e :: calls) o) (parts : e.Parts) : (w.step e).Due calls o := by
  obtain ⟨owed, loud⟩ := due
  rw [List.countP_cons] at owed
  by_cases drops : e.drops? = some o
  · have less : (w.step e).held o = w.held o - 1 := by
      rw [w.held_drop drops, Function.update_self]
    refine ⟨?_, fun noisy => ?_⟩
    · rw [if_pos (decide_eq_true drops)] at owed
      omega
    · have before : ¬w.Calm o := fun calm => noisy (calm.step (parts.closing.asleep o))
      rcases (loud before).2 with cancels | ⟨kept, -⟩
      · exact absurd (calm_of_cancel cancels (loud before).1) noisy
      · exact absurd drops kept
  · have same : (w.step e).held o = w.held o := held_of_parts parts drops
    refine ⟨?_, fun noisy => ?_⟩
    · rw [if_neg (by simpa using drops)] at owed
      omega
    · have before : ¬w.Calm o := fun calm => noisy (calm.step (parts.closing.asleep o))
      obtain ⟨held, cancels | ⟨-, later⟩⟩ := loud before
      · exact absurd (calm_of_cancel cancels held) noisy
      · exact ⟨same ▸ held, later⟩

theorem Due.poll (due : w.Due calls o) (closing : e.Closing) (kept : ¬e.Transfers) :
    (w.step e).Due calls o := by
  have same : (w.step e).held o = w.held o := congrFun (w.held_step kept) o
  refine ⟨same ▸ due.owed, fun noisy => ?_⟩
  rw [same]
  exact due.loud fun calm => noisy (calm.step (closing.asleep o))

theorem due_nil : w.Due [] o ↔ w.held o = 0 ∧ w.Calm o := by
  constructor
  · rintro ⟨owed, loud⟩
    refine ⟨Nat.le_zero.mp owed, ?_⟩
    by_contra noisy
    exact (loud noisy).2
  · rintro ⟨unheld, calm⟩
    exact ⟨Nat.le_of_eq unheld, fun noisy => absurd calm noisy⟩

/-- When all calls are done, the object is calm and the program has no handle onto it. -/
theorem Due.run (due : w.Due calls o) (parts : ∀ e ∈ calls, e.Parts) :
    (w.run calls).held o = 0 ∧ (w.run calls).Calm o := by
  induction calls generalizing w with
  | nil => exact due_nil.mp due
  | cons e calls ih =>
    exact ih (due.call (parts e List.mem_cons_self)) fun e member =>
      parts e (List.mem_cons_of_mem _ member)

/-- Nothing more is due about an object that is calm and not held. -/
theorem due_of_done (unheld : w.held o = 0) (calm : w.Calm o) (calls : List (Step α)) :
    w.Due calls o :=
  ⟨unheld ▸ Nat.zero_le _, fun noisy => absurd calm noisy⟩

/-- The first handle onto an object is given up right after it was cancelled. -/
theorem due_of_cancel {cancel drop : Step α} (cancels : cancel.cancels? = some o)
    (drops : drop.drops? = some o) (held : w.held o = 1) (calls : List (Step α)) :
    w.Due (cancel :: drop :: calls) o := by
  refine ⟨?_, fun _ => ⟨by omega, .inl cancels⟩⟩
  rw [List.countP_cons, List.countP_cons, if_pos (decide_eq_true drops), held]
  omega

/-- Calls about another object come first. -/
theorem Due.later (due : w.Due calls o) (other : e.drops? ≠ some o) : w.Due (e :: calls) o := by
  refine ⟨?_, fun noisy => ⟨(due.loud noisy).1, .inr ⟨other, (due.loud noisy).2⟩⟩⟩
  rw [List.countP_cons_of_neg (by simpa using other)]
  exact due.owed

/-- The handles in a record that is taken are given up next. -/
theorem Due.take {queue : Nat} {c : Completion α} (due : w.Due [] o)
    (taken : (w.take queue).2 = some c) : (w.step (.take queue)).Due c.releases o := by
  obtain ⟨unheld, calm⟩ := due_nil.mp due
  refine ⟨?_, fun noisy => absurd (calm.step (e := .take queue) id) noisy⟩
  have gained : (w.step (.take queue)).held o ≤ if c.holds o then 1 else 0 := by
    rw [step, held_taken taken, unheld, Nat.zero_add]
    split
    · rename_i both
      rw [if_pos both.1]
    · exact Nat.zero_le _
  refine Nat.le_trans gained ?_
  split
  · rename_i holds
    refine List.countP_pos_iff.mpr ?_
    cases o with
    | socket n =>
      have names : c.connection = some n := beq_iff_eq.mp holds
      exact ⟨.dropSocket n, by simp [Completion.releases, names], by simp [Step.drops?]⟩
    | listener l =>
      have names : c.listener = some l := beq_iff_eq.mp holds
      exact ⟨.dropListener l, by simp [Completion.releases, names], by simp [Step.drops?]⟩
    | connect => cases holds
  · exact Nat.zero_le _

end World

end SocketBridge
