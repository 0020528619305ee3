import SocketBridge.Proofs.Bridge.Calm

/-!
# One queue

A bridge that starts no connects and is asked for everything with one queue puts all its records
there, and no record holds handles onto two objects.
-/

namespace SocketBridge

variable {α : Type} {queue : Nat}

/-- Whether a step asks for something with this queue, if for anything; it is no listen or
connect. -/
def Step.Funnels (queue : Nat) : Step α → Prop
  | .accept _ task | .read _ _ task | .write _ _ task => task.queue = queue
  | .listen _ _ _ _ | .connect _ _ => False
  | _ => True

theorem Step.Closing.funnels {e : Step α} (closing : e.Closing) (queue : Nat) :
    e.Funnels queue := by
  cases e with
  | accept | read | write | listen | connect => exact closing.elim
  | _ => exact trivial

/-- A record of a listener's client, of a read or of a write. -/
structure Completion.Plain (c : Completion α) : Prop where
  unconnected : ∀ q, c ≠ .connect q
  lone : c.connection = none ∨ c.listener = none

/-- A read goes on with its queue. -/
theorem ReadLoop.queue_turn {r next : ReadLoop α} {cancelled : Bool}
    {answer : Poll (List UInt8) String} (turned : (r.turn cancelled answer).next = some next) :
    next.task.queue = r.task.queue := by
  have turns := r.turn_does cancelled answer
  generalize r.turn cancelled answer = turn at turns turned
  cases turns with
  | waits =>
    cases turned
    rfl
  | stops | closes => cases turned
  | receives bytes came nonempty turn outcome =>
    cases outcome with
    | rejects | overflows => cases turned
    | keeps | moves =>
      cases turned
      rfl

namespace World

structure Funnels (queue : Nat) (w : World α) : Prop where
  unconnected : w.connects = []
  reading : ∀ (n : Nat) (s : Socket α) (r : ReadLoop α), w.sockets[n]? = some s →
    s.reading = some r → r.task.queue = queue
  writing : ∀ (n : Nat) (s : Socket α) (data : List UInt8) (task : Task),
    w.sockets[n]? = some s → .write data task ∈ s.writer.commands → task.queue = queue
  accepting : ∀ (l : Nat) (x : Listener) (task : Task), w.listeners[l]? = some x →
    some task ∈ x.loops → task.queue = queue
  waiting : ∀ r ∈ w.queues.waiting, r.1 = queue ∧ r.2.Plain

variable {w : World α} {e : Step α}

theorem Funnels.tells (funnels : w.Funnels queue) (asks : e.Funnels queue)
    {r : Nat × Completion α} (tells : w.Tells e r) : r.1 = queue ∧ r.2.Plain := by
  cases tells with
  | accepts task => exact ⟨asks, nofun, .inl rfl⟩
  | @acceptTurn l i x task _ result found running turned =>
    refine ⟨funnels.accepting l x task found (List.mem_of_getElem? running), nofun, .inr ?_⟩
    cases result <;> rfl
  | connectTurn result found =>
    rw [funnels.unconnected] at found
    cases found
  | @readTurn n s r _ record found reading =>
    exact ⟨funnels.reading n s r found reading, nofun, .inl rfl⟩
  | @writeTurn n s _ task record found running turned =>
    obtain ⟨data, waits⟩ := (s.writer.line_of_turn ..).2 task record turned
    exact ⟨funnels.writing n s data task found waits, nofun, .inl rfl⟩
  | refused data task => exact ⟨asks, nofun, .inl rfl⟩

theorem Funnels.step (funnels : w.Funnels queue) (asks : e.Funnels queue) :
    (w.step e).Funnels queue := by
  have unstarted : ¬e.Connects := by
    cases e with
    | connect => exact asks.elim
    | _ => exact id
  refine ⟨?_, ?_, ?_, ?_, ?_⟩
  · refine List.eq_nil_of_length_eq_zero ?_
    rw [w.length_connects_step unstarted, funnels.unconnected]
    rfl
  · intro n s' r found' reading'
    obtain ⟨s, found, moves⟩ | ⟨-, guard, link, rfl⟩ := moves_or_opens found'
    · cases moves with
      | apart | ignores | writes | shuts | cancels => exact funnels.reading n _ r found reading'
      | reads decoder task =>
        cases reading'
        exact asks
      | readTurn r' reading answer =>
        have turned : (r'.turn s.cancelled answer).next = some r := by
          unfold Socket.cancelIf at reading'
          split at reading' <;> exact reading'
        rw [ReadLoop.queue_turn turned]
        exact funnels.reading n s r' found reading
      | writeTurn running answer =>
        unfold Socket.cancelIf at reading'
        split at reading' <;> exact funnels.reading n s r found reading'
    · cases reading'
  · intro n s' data task found' waits
    obtain ⟨s, found, moves⟩ | ⟨-, guard, link, rfl⟩ := moves_or_opens found'
    · cases moves with
      | apart | ignores | reads | cancels => exact funnels.writing n _ data task found waits
      | writes data' task' =>
        rcases List.mem_append.mp waits with waits | new
        · exact funnels.writing n s data task found waits
        · cases List.mem_singleton.mp new
          exact asks
      | shuts =>
        rcases List.mem_append.mp waits with waits | new
        · exact funnels.writing n s data task found waits
        · cases List.mem_singleton.mp new
      | readTurn r reading answer =>
        unfold Socket.cancelIf at waits
        split at waits <;> exact funnels.writing n s data task found waits
      | writeTurn running answer =>
        have kept := (s.writer.line_of_turn s.cancelled (w.socketHandles n == 0) answer).1
        unfold Socket.cancelIf at waits
        split at waits <;> exact funnels.writing n s data task found (kept waits)
    · cases waits
  · intro l x' task found' loops
    have unlistened : ¬e.Listens := by
      cases e with
      | listen => exact asks.elim
      | _ => exact id
    cases found : w.listeners[l]? with
    | none =>
      have missing : (w.step e).guard? (.listener l) = w.guard? (.listener l) :=
        guard?_listener_step unlistened
      simp [guard?, found, found'] at missing
    | some x =>
      obtain ⟨_, same, moves⟩ := listener_step found e
      obtain rfl := Option.some.inj (found'.symm.trans same)
      have known := funnels.accepting l x task found
      cases moves with
      | apart | ignores | cancels => exact known loops
      | accepts task' =>
        rcases List.mem_append.mp loops with old | new
        · exact known old
        · obtain rfl := Option.some.inj (List.mem_singleton.mp new)
          exact asks
      | turns i task' running answer =>
        simp only at loops
        split at loops
        · exact known loops
        · rcases List.mem_or_eq_of_mem_set loops with old | ended
          · exact known old
          · cases ended
  · intro r waits
    rcases mem_waiting_step waits with old | pushed
    · exact funnels.waiting r old
    · exact funnels.tells asks (tells_of_pushes pushed)

theorem Funnels.run (funnels : w.Funnels queue) {steps : List (Step α)}
    (asks : ∀ e ∈ steps, e.Funnels queue) : (w.run steps).Funnels queue := by
  induction steps generalizing w with
  | nil => exact funnels
  | cons e steps ih =>
    exact ih (funnels.step (asks e List.mem_cons_self)) fun e member =>
      asks e (List.mem_cons_of_mem _ member)

/-- All that waits is on the queue, so nothing waits when there is nothing to take. -/
theorem Funnels.waiting_of_take (funnels : w.Funnels queue) (empty : (w.take queue).2 = none) :
    w.queues.waiting = [] := by
  rcases popped : w.queues.pop? queue with ⟨_ | c, queues⟩
  · have none : w.queues.contents queue = [] :=
      List.head?_eq_none_iff.mp (congrArg Prod.fst popped)
    refine List.eq_nil_iff_forall_not_mem.mpr fun r waits => ?_
    have listed : r.2 ∈ w.queues.contents queue := List.mem_map.mpr
      ⟨r, List.mem_filter.mpr ⟨waits, beq_iff_eq.mpr (funnels.waiting r waits).1⟩, rfl⟩
    rw [none] at listed
    cases listed
  · simp [take, popped] at empty

end World

end SocketBridge
