import SocketBridge.Proofs.Bridge.Log

/-!
# Who holds a socket

The first handle onto a socket comes with the record that tells of it, and every other one is cloned
from a handle. So a socket that nobody holds is never held again.
-/

namespace SocketBridge.World

variable {α : Type} {w : World α} {n : Nat} {s : Socket α} {e : Step α}

/-- A record that names a socket is pushed by the step that opens it. -/
theorem opens_of_pushes {r : Nat × Completion α} (pushed : r ∈ w.pushes e)
    {m : Nat} (names : r.2.connection = some m) :
    m = w.sockets.length ∧
      ∃ guard link, (w.step e).sockets = w.sockets ++ [{ guard := guard, link }] := by
  cases tells_of_pushes pushed with
  | acceptTurn result found running turned =>
    cases result with
    | error text => cases names
    | ok link =>
      cases names
      refine ⟨rfl, ?_⟩
      simp only [step, pollAccept, found, running, turned]
      exact ⟨_, link, rfl⟩
  | @connectTurn _ slot _ _ result found runs turned =>
    cases result with
    | error text => cases names
    | ok link =>
      cases names
      obtain ⟨bridge, cancelled, _⟩ := slot
      obtain rfl := runs
      refine ⟨rfl, ?_⟩
      simp only [step, pollConnect, found, turned]
      exact ⟨_, link, rfl⟩
  | accepts | readTurn | writeTurn | refused => cases names

/-- A record that waits waited before or is new. -/
theorem mem_waiting_step {r : Nat × Completion α} (waits : r ∈ (w.step e).queues.waiting) :
    r ∈ w.queues.waiting ∨ r ∈ w.pushes e := by
  by_cases taken : ∃ queue, e = .take queue
  · obtain ⟨queue, rfl⟩ := taken
    rw [step] at waits
    rcases w.queues_take queue with queues | ⟨_, same⟩
    · rw [queues] at waits
      exact .inl (List.mem_of_mem_eraseP waits)
    · rw [same] at waits
      exact .inl waits
  · rw [queues_step fun queue he => taken ⟨queue, he⟩] at waits
    exact List.mem_append.mp waits

theorem head_of_take {queue : Nat} {c : Completion α} (taken : (w.take queue).2 = some c) :
    (w.queues.contents queue).head? = some c := by
  unfold take at taken
  split at taken
  · cases taken
  · rename_i popped
    rw [← Option.some.inj taken]
    exact congrArg Prod.fst popped

theorem mem_waiting_of_take {queue : Nat} {c : Completion α} (taken : (w.take queue).2 = some c) :
    (queue, c) ∈ w.queues.waiting := by
  obtain ⟨⟨q, _⟩, waits, rfl⟩ := List.mem_map.mp (List.mem_of_head? (head_of_take taken))
  obtain ⟨member, own⟩ := List.mem_filter.mp waits
  rwa [← beq_iff_eq.mp own]

/-- Nobody holds a socket if the program does not and no record does. -/
theorem socketHandles_eq_zero (found : w.sockets[n]? = some s) :
    w.socketHandles n = 0 ↔
      s.held = 0 ∧ ∀ r ∈ w.queues.waiting, r.2.connection ≠ some n := by
  simp only [socketHandles, found, Option.map_some, Option.getD_some, Nat.add_eq_zero_iff,
    List.countP_eq_zero, beq_iff_eq, ne_eq]

/-- A socket that nobody holds is never held again. -/
theorem socketHandles_step_of_zero (found : w.sockets[n]? = some s) (unheld : w.socketHandles n = 0)
    (e : Step α) : (w.step e).socketHandles n = 0 := by
  obtain ⟨held, unnamed⟩ := (socketHandles_eq_zero found).mp unheld
  obtain ⟨s', found', moves⟩ := moves_step found e
  refine (socketHandles_eq_zero found').mpr ⟨?_, fun r waits names => ?_⟩
  · cases moves with
    | apart e held' other kept source =>
      refine Nat.eq_zero_of_not_pos fun more => ?_
      rcases source (held ▸ more) with had | ⟨queue, c, -, taken, names⟩
      · exact had held
      · exact unnamed _ (mem_waiting_of_take taken) names
    | ignores | reads | writes | shuts | cancels => exact held
    | readTurn | writeTurn =>
      unfold Socket.cancelIf
      split <;> exact held
  · rcases mem_waiting_step waits with waits | pushed
    · exact unnamed r waits names
    · have fresh := (opens_of_pushes pushed names).1
      have bound := (List.getElem?_eq_some_iff.mp found).1
      omega

end SocketBridge.World
