import SocketBridge.Proofs.Shutdown.Step

/-!
# Which listeners a shutdown reaches

A history of a coordinator and its listeners tells for each listener that is there what was done
since it subscribed, and that decides whether it has fired.
-/

namespace SocketBridge

namespace Shutdown

variable {s : Shutdown} {id : Nat}

/-- A listener that is there after a history, with what was done since it subscribed: the history
parts at the call that gave it its number, which came before the coordinator went. -/
def Since (history : List ShutdownEvent) (id : Nat) (after : List ShutdownEvent) : Prop :=
  ∃ before, history = before ++ .subscribe :: after ∧ .dropCoordinator ∉ before ∧
    before.count .subscribe = id ∧ .drop id ∉ after

theorem since_concat {history after : List ShutdownEvent} {e : ShutdownEvent} :
    Since (history ++ [e]) id after ↔
      (e = .subscribe ∧ after = [] ∧ .dropCoordinator ∉ history ∧
        history.count .subscribe = id) ∨
      ∃ earlier, Since history id earlier ∧ after = earlier ++ [e] ∧ e ≠ .drop id := by
  constructor
  · rintro ⟨before, parted, here, number, kept⟩
    rcases List.eq_nil_or_concat after with rfl | ⟨earlier, last, rfl⟩
    · obtain ⟨rfl, same⟩ := List.append_inj' parted rfl
      exact Or.inl ⟨List.singleton_inj.mp same, rfl, here, number⟩
    · rw [List.concat_eq_append, ← List.cons_append, ← List.append_assoc] at parted
      obtain ⟨rfl, same⟩ := List.append_inj' parted rfl
      obtain rfl := List.singleton_inj.mp same
      rw [List.concat_eq_append, List.mem_append, List.mem_singleton, not_or] at kept
      exact Or.inr ⟨earlier, ⟨before, rfl, here, number, kept.1⟩, List.concat_eq_append,
        Ne.symm kept.2⟩
  · rintro (⟨rfl, rfl, here, number⟩ | ⟨earlier, ⟨before, rfl, here, number, kept⟩, rfl, other⟩)
    · exact ⟨history, rfl, here, number, List.not_mem_nil⟩
    · refine ⟨before, by simp, here, number, ?_⟩
      rw [List.mem_append, List.mem_singleton, not_or]
      exact ⟨kept, Ne.symm other⟩

theorem closed_run (history : List ShutdownEvent) :
    (run history).channel.closed = decide (.dropCoordinator ∈ history) := by
  induction history using List.reverseRecOn with
  | nil => rfl
  | append_singleton history e ih =>
    rw [run_concat, closed_step, ih]
    simp [eq_comm]

theorem subscribed_run {history : List ShutdownEvent} (here : .dropCoordinator ∉ history) :
    (run history).subscribed = history.count .subscribe := by
  induction history using List.reverseRecOn with
  | nil => rfl
  | append_singleton history e ih =>
    rw [List.mem_append, not_or] at here
    rw [run_concat, subscribed_step, ih here.1, closed_run, List.count_append]
    by_cases new : e = .subscribe <;> simp [new, here.1]

/-- What a listener finds is told by the history since it subscribed. -/
theorem sees?_run {history : List ShutdownEvent} {found : Bool} :
    (run history).sees? id = some found ↔
      ∃ after, Since history id after ∧ found = after.any ShutdownEvent.fires := by
  induction history using List.reverseRecOn generalizing found with
  | nil =>
    refine ⟨nofun, ?_⟩
    rintro ⟨after, ⟨before, parted, -⟩, -⟩
    simp at parted
  | append_singleton history e ih =>
    rw [run_concat, (Sound.run history).sees?_step_eq_some]
    constructor
    · rintro (⟨rfl, here, rfl, rfl⟩ | ⟨was, there, rfl, other⟩)
      · rw [closed_run, decide_eq_false_iff_not] at here
        exact ⟨[], since_concat.mpr (Or.inl ⟨rfl, rfl, here, (subscribed_run here).symm⟩), rfl⟩
      · obtain ⟨after, since, rfl⟩ := ih.mp there
        refine ⟨after ++ [e], since_concat.mpr (Or.inr ⟨after, since, rfl, other⟩), ?_⟩
        rw [List.any_append, List.any_cons, List.any_nil, Bool.or_false]
    · rintro ⟨after, since, rfl⟩
      rcases since_concat.mp since with ⟨rfl, rfl, here, rfl⟩ | ⟨earlier, before, rfl, other⟩
      · refine Or.inl ⟨rfl, ?_, (subscribed_run here).symm, rfl⟩
        rw [closed_run, decide_eq_false_iff_not]
        exact here
      · refine Or.inr ⟨_, ih.mpr ⟨earlier, before, rfl⟩, ?_, other⟩
        rw [List.any_append, List.any_cons, List.any_nil, Bool.or_false]

theorem mem_ids_run {history : List ShutdownEvent} :
    id ∈ (run history).listeners.map (·.id) ↔ ∃ after, Since history id after := by
  rw [← not_iff_not, ← sees?_eq_none_iff, Option.eq_none_iff_forall_ne_some]
  constructor
  · rintro missing ⟨after, since⟩
    exact missing _ (sees?_run.mpr ⟨after, since, rfl⟩)
  · intro none found there
    obtain ⟨after, since, -⟩ := sees?_run.mp there
    exact none ⟨after, since⟩

/-- Asking leaves no trace: a history without some of the questions comes to the same. -/
theorem run_filter {keep : ShutdownEvent → Bool} (asks : ∀ e, keep e = false → e.asks = true)
    (history : List ShutdownEvent) :
    (run (history.filter keep)).subscribed = (run history).subscribed ∧
    (run (history.filter keep)).channel.closed = (run history).channel.closed ∧
    ∀ id, (run (history.filter keep)).sees? id = (run history).sees? id := by
  induction history using List.reverseRecOn with
  | nil => exact ⟨rfl, rfl, fun _ => rfl⟩
  | append_singleton history e ih =>
    obtain ⟨number, closed, found⟩ := ih
    rw [List.filter_append, List.filter_singleton, run_concat]
    cases kept : keep e with
    | true =>
      rw [cond_true, run_concat]
      refine ⟨?_, ?_, fun id => ?_⟩
      · rw [subscribed_step, subscribed_step, number, closed]
      · rw [closed_step, closed_step, closed]
      · rw [(Sound.run _).sees?_step, (Sound.run _).sees?_step, number, closed, found]
    | false =>
      have question := asks e kept
      have other : e ≠ .subscribe ∧ e ≠ .dropCoordinator := by
        constructor <;> rintro rfl <;> cases question
      rw [cond_false, List.append_nil]
      refine ⟨?_, ?_, fun id => ?_⟩
      · rw [subscribed_step, if_neg fun both => other.1 both.1]
        exact number
      · rw [closed_step, decide_eq_false other.2, Bool.or_false]
        exact closed
      · rw [sees?_step_of_asks question]
        exact found id

theorem Since.append {history after later : List ShutdownEvent} (since : Since history id after)
    (kept : .drop id ∉ later) : Since (history ++ later) id (after ++ later) := by
  obtain ⟨before, rfl, here, number, still⟩ := since
  refine ⟨before, by simp, here, number, ?_⟩
  rw [List.mem_append, not_or]
  exact ⟨still, kept⟩

end Shutdown

theorem ShutdownEvent.any_fires (events : List ShutdownEvent) :
    events.any ShutdownEvent.fires =
      decide (.trigger ∈ events ∨ .dropCoordinator ∈ events) := by
  rw [Bool.eq_iff_iff, List.any_eq_true, decide_eq_true_iff]
  constructor
  · rintro ⟨e, member, fires⟩
    cases e with
    | trigger => exact Or.inl member
    | dropCoordinator => exact Or.inr member
    | subscribe | look | wait | drop => cases fires
  · rintro (member | member)
    · exact ⟨_, member, rfl⟩
    · exact ⟨_, member, rfl⟩

/-- Whatever was done with a coordinator and its listeners, and in whatever order: a listener that
is there has fired, for a look as for a wait, exactly if a trigger came after it subscribed or the
coordinator is gone. Triggers before that count for nothing, and further ones, which overrun the
channel, take nothing away. A listener that was found to have fired stays so as long as it is there.
No question put to any listener makes a difference to what is found later. A new listener gets the
next number, and a trigger tells how many listeners are there, whether they have fired or not. -/
theorem listener_fires_iff (history : List ShutdownEvent) :
    let s := Shutdown.run history
    (∀ id after, Shutdown.Since history id after →
      let fired := decide (.trigger ∈ after ∨ .dropCoordinator ∈ after)
      (s.look id).2 = some fired ∧ (s.wait id).2 = some fired) ∧
    (∀ id later, (s.look id).2 = some true ∨ (s.wait id).2 = some true → .drop id ∉ later →
      let s' := Shutdown.run (history ++ later)
      (s'.look id).2 = some true ∧ (s'.wait id).2 = some true) ∧
    (∀ keep : ShutdownEvent → Bool, (∀ e, keep e = false → ∃ id, e = .look id ∨ e = .wait id) →
      let s' := Shutdown.run (history.filter keep)
      (∀ id, (s'.look id).2 = (s.look id).2 ∧ (s'.wait id).2 = (s.wait id).2) ∧
        s'.trigger.2 = s.trigger.2) ∧
    (.dropCoordinator ∉ history →
      s.subscribe.2 = some (history.count .subscribe) ∧
      ∃ ids : List Nat, ids.Nodup ∧ (∀ id, id ∈ ids ↔ ∃ after, Shutdown.Since history id after) ∧
        s.trigger.2 = some ids.length) := by
  intro s
  have sound : s.Sound := Shutdown.Sound.run history
  refine ⟨fun id after since => ?_, fun id later fired kept => ?_, fun keep asks => ?_,
    fun here => ⟨?_, s.listeners.map (·.id), sound.ids, ?_, ?_⟩⟩
  · rw [s.wait_eq_look, s.look_answer, ← ShutdownEvent.any_fires]
    have found := Shutdown.sees?_run.mpr ⟨after, since, rfl⟩
    exact ⟨found, found⟩
  · rw [s.wait_eq_look, or_self, s.look_answer] at fired
    obtain ⟨after, since, fires⟩ := Shutdown.sees?_run.mp fired
    have still : (Shutdown.run (history ++ later)).sees? id = some true := by
      refine Shutdown.sees?_run.mpr ⟨after ++ later, since.append kept, ?_⟩
      rw [List.any_append, ← fires, Bool.true_or]
    intro s'
    rw [s'.wait_eq_look, s'.look_answer]
    exact ⟨still, still⟩
  · have questions : ∀ e, keep e = false → e.asks = true := by
      intro e dropped
      obtain ⟨id, rfl | rfl⟩ := asks e dropped <;> rfl
    obtain ⟨-, closed, found⟩ := Shutdown.run_filter questions history
    have sound' := Shutdown.Sound.run (history.filter keep)
    have same : ((Shutdown.run (history.filter keep)).listeners.map (·.id)).Perm
        (s.listeners.map (·.id)) := by
      rw [List.perm_ext_iff_of_nodup sound'.ids sound.ids]
      intro id
      rw [← not_iff_not, ← Shutdown.sees?_eq_none_iff, ← Shutdown.sees?_eq_none_iff, found]
    refine ⟨fun id => ?_, ?_⟩
    · rw [Shutdown.wait_eq_look, s.wait_eq_look, Shutdown.look_answer, s.look_answer, found]
      exact ⟨rfl, rfl⟩
    · rw [Shutdown.trigger_answer, s.trigger_answer, closed, sound'.receivers_eq,
        sound.receivers_eq, same.length_eq]
  · have alive : s.alive = true := by
      rw [Shutdown.alive, Shutdown.closed_run]
      simpa using here
    simp only [Shutdown.subscribe, alive, if_true]
    rw [Shutdown.subscribed_run here]
  · exact fun id => Shutdown.mem_ids_run
  · rw [s.trigger_answer, Shutdown.closed_run, decide_eq_false here, sound.receivers_eq]
    rfl

end SocketBridge
