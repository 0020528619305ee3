import Mathlib.Algebra.BigOperators.Finprod
import Mathlib.Data.Finset.Card
import SocketBridge.Proofs.Bridge.Handles

/-!
# The accounts of a run

At the start of a run nothing is counted and nothing is alive. Every step keeps the counts of all
bridges, and the gauge above them, equal to what is alive.
-/

namespace SocketBridge

variable {α : Type}

namespace World

variable {w : World α} {o : Owner} {g : Guard}

/-- What is counted agrees with what is alive, and no two objects have one number. -/
structure Accounted (w : World α) : Prop where
  active : ∀ bridge, w.activeHandles bridge = (w.aliveOn bridge).card
  gauge : w.gauge = w.alive.card
  issued : ∀ o g, w.guard? o = some g → g.id ≤ w.handles.issued
  distinct : ∀ o o' g g', w.guard? o = some g → w.guard? o' = some g' → g.id = g'.id → o = o'

variable {w' : World α} {tracker : Nat}

theorem Keeps.alive_eq (keeps : w.Keeps w') : w'.alive = w.alive := by
  ext o
  rw [mem_alive, mem_alive, keeps.guards]
  exact and_congr_right fun ⟨g, found⟩ => not_congr (keeps.alive o g found)

theorem Keeps.accounted (keeps : w.Keeps w') (accounted : w.Accounted) : w'.Accounted := by
  constructor
  · intro bridge
    rw [activeHandles, keeps.handles, aliveOn, keeps.alive_eq, keeps.guards]
    exact accounted.active bridge
  · rw [keeps.gauge, keeps.alive_eq, accounted.gauge]
  · rw [keeps.guards, keeps.handles]
    exact accounted.issued
  · rw [keeps.guards]
    exact accounted.distinct

theorem Opens.not_alive (opens : w.Opens w' tracker o) : o ∉ w.alive := by
  rw [mem_alive, opens.fresh]
  simp

theorem Opens.alive_eq (opens : w.Opens w' tracker o) : w'.alive = insert o w.alive := by
  ext o'
  rw [Finset.mem_insert, mem_alive, mem_alive, opens.guards]
  by_cases own : o' = o
  · subst own
    simpa using opens.alive
  · simp [own, opens.others o' own]

theorem Opens.aliveOn_eq (opens : w.Opens w' tracker o) (bridge : Nat) :
    w'.aliveOn bridge =
      if tracker = bridge then insert o (w.aliveOn bridge) else w.aliveOn bridge := by
  have unmoved : w.alive.filter (fun o' => (w'.guard? o').map Guard.tracker = some bridge) =
      w.aliveOn bridge := by
    refine Finset.filter_congr fun o' living => ?_
    have other : o' ≠ o := fun own => opens.not_alive (own ▸ living)
    rw [opens.guards, Function.update_of_ne other]
  rw [aliveOn, opens.alive_eq, Finset.filter_insert, unmoved, opens.guards, Function.update_self]
  simp only [Option.map_some, Option.some.injEq]
  rfl

/-- Only the new object has the new number. -/
theorem Opens.id_cases (opens : w.Opens w' tracker o) (accounted : w.Accounted) {o' : Owner}
    {g' : Guard} (found : w'.guard? o' = some g') :
    (o' = o ∧ g'.id = w.handles.issued + 1) ∨
      (w.guard? o' = some g' ∧ g'.id ≤ w.handles.issued) := by
  by_cases own : o' = o
  · rw [opens.guards, own, Function.update_self] at found
    cases found
    exact .inl ⟨own, rfl⟩
  · rw [opens.guards, Function.update_of_ne own] at found
    exact .inr ⟨found, accounted.issued o' g' found⟩

theorem Opens.accounted (opens : w.Opens w' tracker o) (accounted : w.Accounted) :
    w'.Accounted := by
  constructor
  · intro bridge
    have before := accounted.active bridge
    have absent : o ∉ w.aliveOn bridge := fun member =>
      opens.not_alive (Finset.mem_filter.mp member).1
    rw [activeHandles, opens.handles, opens.aliveOn_eq]
    by_cases own : tracker = bridge
    · rw [if_pos own, Finset.card_insert_of_notMem absent, ← before]
      exact if_pos own.symm
    · rw [if_neg own, ← before]
      exact if_neg (Ne.symm own)
  · rw [opens.gauge, accounted.gauge, opens.alive_eq, Finset.card_insert_of_notMem opens.not_alive]
    exact (Nat.cast_succ _).symm
  · intro o' g' found
    have issued : w'.handles.issued = w.handles.issued + 1 := by
      rw [opens.handles]
      rfl
    rcases opens.id_cases accounted found with ⟨-, new⟩ | ⟨-, old⟩
    · omega
    · omega
  · intro o₁ o₂ g₁ g₂ found₁ found₂ same
    rcases opens.id_cases accounted found₁ with ⟨own₁, new₁⟩ | ⟨found₁, old₁⟩ <;>
      rcases opens.id_cases accounted found₂ with ⟨own₂, new₂⟩ | ⟨found₂, old₂⟩
    · rw [own₁, own₂]
    · omega
    · omega
    · exact accounted.distinct o₁ o₂ g₁ g₂ found₁ found₂ same

theorem Closes.alive_eq (closes : w.Closes w' o g) : w'.alive = w.alive.erase o := by
  ext o'
  rw [Finset.mem_erase, mem_alive, mem_alive, closes.guards]
  by_cases own : o' = o
  · simp [own, closes.after]
  · simp [own, closes.others o' own]

theorem Closes.aliveOn_eq (closes : w.Closes w' o g) (bridge : Nat) :
    w'.aliveOn bridge = (w.aliveOn bridge).erase o := by
  rw [aliveOn, closes.alive_eq, Finset.filter_erase, closes.guards, aliveOn]

/-- What dies was counted where it is counted no more. -/
theorem Closes.mem_aliveOn_iff (closes : w.Closes w' o g) (bridge : Nat) :
    o ∈ w.aliveOn bridge ↔ bridge = g.tracker := by
  rw [mem_aliveOn]
  constructor
  · rintro ⟨g', found, rfl, -⟩
    rw [Option.some.inj (found.symm.trans closes.found)]
  · rintro rfl
    exact ⟨g, closes.found, rfl, closes.before⟩

theorem Closes.accounted (closes : w.Closes w' o g) (accounted : w.Accounted) :
    w'.Accounted := by
  constructor
  · intro bridge
    have before := accounted.active bridge
    rw [activeHandles, closes.handles, closes.aliveOn_eq]
    simp only [Handles.release]
    split
    · rename_i own
      rw [Finset.card_erase_of_mem ((closes.mem_aliveOn_iff bridge).mpr own), ← before,
        activeHandles]
    · rename_i other
      rw [Finset.erase_eq_of_notMem (mt (closes.mem_aliveOn_iff bridge).mp other)]
      exact before
  · have living : o ∈ w.alive := (w.mem_alive o).mpr ⟨⟨g, closes.found⟩, closes.before⟩
    have counted := Finset.card_erase_add_one living
    rw [closes.gauge, accounted.gauge, closes.alive_eq]
    omega
  · rw [closes.guards, closes.handles]
    exact accounted.issued
  · rw [closes.guards]
    exact accounted.distinct

/-- Every step keeps the accounts right. -/
theorem Accounted.step (accounted : w.Accounted) (e : Step α) : (w.step e).Accounted := by
  cases w.counts_step e with
  | keeps keeps => exact keeps.accounted accounted
  | opens brings tracker o opens => exact opens.accounted accounted
  | closes drops o g closes => exact closes.accounted accounted

/-- A run keeps them right. -/
theorem Accounted.run (accounted : w.Accounted) (steps : List (Step α)) :
    (w.run steps).Accounted := by
  induction steps generalizing w with
  | nil => exact accounted
  | cons e steps ih => exact ih (accounted.step e)

theorem accounted_empty : ({} : World α).Accounted := by
  constructor
  · intro bridge
    rfl
  · rfl
  · intro o g found
    cases o <;> cases found
  · intro o o' g g' found
    cases o <;> cases found

/-- The trackers of what is alive are finitely many, and the gauge is the sum of their counts. -/
theorem Accounted.gauge_eq_sum (accounted : w.Accounted) :
    (Function.support w.activeHandles).Finite ∧
      w.gauge = ∑ᶠ bridge, (w.activeHandles bridge : ℤ) := by
  let tracker (o : Owner) : Nat := ((w.guard? o).map Guard.tracker).getD 0
  have fiber (bridge : Nat) : w.alive.filter (fun o => tracker o = bridge) = w.aliveOn bridge := by
    refine Finset.filter_congr fun o living => ?_
    obtain ⟨⟨g, found⟩, -⟩ := (w.mem_alive o).mp living
    simp [tracker, found]
  have within (bridge : Nat) (counted : w.activeHandles bridge ≠ 0) :
      bridge ∈ w.alive.image tracker := by
    rw [accounted.active, ← fiber] at counted
    obtain ⟨o, member⟩ := Finset.card_ne_zero.mp counted
    obtain ⟨living, on⟩ := Finset.mem_filter.mp member
    exact Finset.mem_image.mpr ⟨o, living, on⟩
  refine ⟨(w.alive.image tracker).finite_toSet.subset within, ?_⟩
  have total : w.alive.card = ∑ bridge ∈ w.alive.image tracker, w.activeHandles bridge := by
    rw [Finset.card_eq_sum_card_image tracker]
    exact Finset.sum_congr rfl fun bridge _ => by rw [fiber, accounted.active]
  rw [accounted.gauge, total, Nat.cast_sum]
  refine (finsum_eq_sum_of_support_subset _ fun bridge counted => ?_).symm
  exact within bridge fun zero => counted (by simp [zero])

/-- The guard of an object stays what it is. -/
theorem guard?_step (found : w.guard? o = some g) (e : Step α) :
    (w.step e).guard? o = some g := by
  cases w.counts_step e with
  | keeps keeps => rw [keeps.guards, found]
  | closes drops o' g' closes => rw [closes.guards, found]
  | opens brings tracker o' opens =>
    have other : o ≠ o' := by
      rintro rfl
      cases found.symm.trans opens.fresh
    rw [opens.guards, Function.update_of_ne other, found]

theorem guard?_run (found : w.guard? o = some g) (steps : List (Step α)) :
    (w.run steps).guard? o = some g := by
  induction steps generalizing w with
  | nil => exact found
  | cons e steps ih => exact ih (guard?_step found e)

/-- Throwing a record away gives up the handles in it one by one. -/
theorem discard_eq_run (w : World α) (c : Completion α) : w.discard c = w.run c.releases := by
  cases connection : c.connection <;> cases listener : c.listener <;>
    simp [discard, Completion.releases, connection, listener, World.step]

/-- Throwing the records of a queue away is a run as well. -/
theorem drain_eq_run (w : World α) (queue count : Nat) :
    ∃ steps, (w.drain queue count).1 = w.run steps := by
  induction count generalizing w with
  | zero => exact ⟨[], rfl⟩
  | succ count ih =>
    rcases taken : w.take queue with ⟨w', _ | c⟩
    · exact ⟨[], by rw [drain, taken]; rfl⟩
    · obtain ⟨steps, rest⟩ := ih (w'.discard c)
      refine ⟨.take queue :: (c.releases ++ steps), ?_⟩
      rw [run_cons, run_append, World.step, taken, ← discard_eq_run, ← rest, drain, taken]

end World

open World in
/-- In every run a bridge counts its live sockets and listeners, the gauge is the sum of all counts,
and no two objects ever have one number. A step changes a count only if it opens what the host
gives, or if it gives up the last handle onto something that was counted: so nothing else does, and
no count falls below zero. Records that are thrown away give their handles up in such steps. -/
theorem handle_accounting (steps : List (Step α)) :
    let w : World α := run {} steps
    (∀ bridge, w.activeHandles bridge = (w.aliveOn bridge).card) ∧
    ((Function.support w.activeHandles).Finite ∧
      w.gauge = ∑ᶠ bridge, (w.activeHandles bridge : ℤ)) ∧
    (∀ e, let next := w.step e
      (next.handles = w.handles ∧ next.gauge = w.gauge) ∨
      (e.Brings ∧ ∃ bridge, next.handles = (w.handles.track bridge).1 ∧
        next.gauge = w.gauge + 1) ∨
      (e.Drops ∧ ∃ g, 0 < w.activeHandles g.tracker ∧ next.handles = w.handles.release g ∧
        next.gauge = w.gauge - 1)) ∧
    (∀ future o o' g g', w.guard? o = some g → (w.run future).guard? o' = some g' →
      g.id = g'.id → o = o') ∧
    ∀ queue count, ∃ more, (w.drain queue count).1 = w.run more := by
  intro w
  have accounted : w.Accounted := accounted_empty.run steps
  refine ⟨accounted.active, accounted.gauge_eq_sum, fun e => ?_, ?_, w.drain_eq_run⟩
  · cases w.counts_step e with
    | keeps keeps => exact .inl ⟨keeps.handles, keeps.gauge⟩
    | opens brings bridge o opens =>
      exact .inr (.inl ⟨brings, bridge, opens.handles, opens.gauge⟩)
    | closes drops o g closes =>
      have counted : 0 < w.activeHandles g.tracker := by
        rw [accounted.active]
        exact Finset.card_pos.mpr ⟨o, (closes.mem_aliveOn_iff _).mpr rfl⟩
      exact .inr (.inr ⟨drops, g, counted, closes.handles, closes.gauge⟩)
  · intro future o o' g g' found found'
    exact (accounted.run future).distinct o o' g g' (guard?_run found future) found'

/-- Two listens of which one fails, an accepted client and one that cannot be told, and a connect
whose socket is cloned, closed and given up. The listener is held by a record only. -/
def accountedSteps : List (Step (List UInt8)) :=
  let near := SocketAddr.near 80
  [.listen 0 near 1 (.ok near), .listen 0 near 0 (.ok near),
    .accept 0 { schedulee := 1 }, .dropListener 0,
    .pollAccept 0 0 { ready := some (.ok (.ok ⟨near, near⟩)) },
    .pollAccept 0 0 { ready := some (.ok (.error "reset")) },
    .connect 1 (.toAddress { schedulee := 2, queue := 1 } near),
    .pollConnect 0 (.attempted { ready := some (.ok (.ok ⟨near, near⟩)) }), .take 1,
    .cloneSocket 1, .cancelSocket 1, .dropSocket 1]

open World in
theorem handle_accounting_of_dropped :
    let w : World (List UInt8) := run {} accountedSteps
    (w.aliveOn 0).card = 2 ∧ (w.aliveOn 1).card = 1 ∧
    ∑ᶠ bridge, (w.activeHandles bridge : ℤ) = 3 ∧
    (w.step (.dropSocket 1)).activeHandles 1 = 0 ∧
    ∀ o, (w.step (.dropSocket 1)).guard? o = some ⟨1, 3⟩ → o = .socket 1 := by
  intro w
  obtain ⟨active, ⟨-, gauge⟩, -, single, -⟩ := handle_accounting accountedSteps
  refine ⟨(active 0).symm, (active 1).symm, gauge.symm, rfl, fun o found => ?_⟩
  exact (single [.dropSocket 1] (.socket 1) o ⟨1, 3⟩ ⟨1, 3⟩ rfl found rfl).symm

end SocketBridge
