import SocketBridge.Proofs.Bridge.Log
import SocketBridge.Proofs.Bridge.Objects

/-!
# Silence after a cancel

A cancelled object pushes nothing any more, however the run goes on. Each kind of operation is
silenced in its own way: a read and a connect end at their next poll, a writer drops its line, an
accept loop ends, and what is asked for later is refused.
-/

namespace SocketBridge

variable {α : Type}

@[simp] theorem race_cancelled {β ε : Type} (poll : Poll β ε) :
    race true poll = some .cancelled := rfl

@[simp] theorem ReadLoop.turn_cancelled (r : ReadLoop α) (answer : Poll (List UInt8) String) :
    r.turn true answer = {} := rfl

@[simp] theorem Writer.turn_cancelled (w : Writer) (unreachable : Bool)
    (answer : Poll Nat String) : w.turn true unreachable answer = ⟨w.stop, none, []⟩ := rfl

@[simp] theorem acceptTurn_cancelled (answer : Poll (Except String Link) String) :
    acceptTurn true answer = ⟨false, none⟩ := rfl

@[simp] theorem Connect.turn_cancelled (c : Connect) (answer : ConnectAnswer) :
    c.turn true answer = {} := rfl

namespace World

/-- What every step keeps holds in the end, and what every step's records are all records are. -/
theorem log_induction {P : World α → Prop} {Q : LogEntry α → Prop}
    (keeps : ∀ w e, P w → P (w.step e) ∧ ∀ entry ∈ w.entries e, Q entry) {w : World α} (holds : P w)
    (steps : List (Step α)) : P (w.run steps) ∧ ∀ entry ∈ w.log steps, Q entry := by
  induction steps generalizing w with
  | nil => exact ⟨holds, nofun⟩
  | cons e steps ih =>
    obtain ⟨next, here⟩ := keeps w e holds
    obtain ⟨last, there⟩ := ih next
    refine ⟨last, fun entry member => ?_⟩
    rcases List.mem_append.mp member with member | member
    · exact here entry member
    · exact there entry member

variable {w : World α} {n l c : Nat} {s : Socket α} {x : Listener} {slot : ConnectSlot} {e : Step α}

theorem not_tells_of_cancelled_socket (found : w.sockets[n]? = some s)
    (cancelled : s.cancelled = true) (own : e.owner? = some (.socket n))
    {r : Nat × Completion α} : ¬w.Tells e r := by
  intro tells
  cases tells with
  | accepts | acceptTurn | connectTurn => cases own
  | readTurn record found' reading turned =>
    cases own
    obtain rfl := Option.some.inj (found.symm.trans found')
    rw [cancelled] at turned
    cases turned
  | writeTurn task record found' running turned =>
    cases own
    obtain rfl := Option.some.inj (found.symm.trans found')
    rw [cancelled] at turned
    cases turned
  | refused data task found' held closed live =>
    cases own
    obtain rfl := Option.some.inj (found.symm.trans found')
    exact absurd cancelled (by simp [live])

/-- Of a cancelled listener only accept calls push something, the record that they begin with. -/
theorem tells_of_cancelled_listener (found : w.listeners[l]? = some x)
    (cancelled : x.cancelled = true) (own : e.owner? = some (.listener l))
    {r : Nat × Completion α} (tells : w.Tells e r) :
    ∃ schedulee, r.2 = .accept { schedulee, listener := some l } := by
  cases tells with
  | accepts task =>
    cases own
    exact ⟨task.schedulee, rfl⟩
  | acceptTurn result found' running turned =>
    cases own
    obtain rfl := Option.some.inj (found.symm.trans found')
    rw [cancelled] at turned
    cases turned
  | connectTurn | readTurn | writeTurn | refused => cases own

/-- A connect that has ended tells nothing either. -/
theorem not_tells_of_connect (found : w.connects[c]? = some slot)
    (ended : slot.running = none ∨ slot.cancelled = true) (own : e.owner? = some (.connect c))
    {r : Nat × Completion α} : ¬w.Tells e r := by
  intro tells
  cases tells with
  | connectTurn result found' runs turned =>
    cases own
    obtain rfl := Option.some.inj (found.symm.trans found')
    rcases ended with finished | cancelled
    · cases finished.symm.trans runs
    · rw [cancelled] at turned
      cases turned
  | accepts | acceptTurn | readTurn | writeTurn | refused => cases own

theorem silent_of_cancelled_socket (found : w.sockets[n]? = some s) (cancelled : s.cancelled = true)
    (steps : List (Step α)) :
    (∃ s', (w.run steps).sockets[n]? = some s' ∧ s'.cancelled = true) ∧
      ∀ entry ∈ w.log steps, entry.owner ≠ .socket n := by
  refine log_induction (P := fun w => ∃ s, w.sockets[n]? = some s ∧ s.cancelled = true) ?_
    ⟨s, found, cancelled⟩ steps
  rintro w e ⟨s, found, cancelled⟩
  obtain ⟨s', found', moves⟩ := moves_step found e
  refine ⟨⟨s', found', moves.cancelled cancelled⟩, fun entry member own => ?_⟩
  obtain ⟨owner, pushed⟩ := mem_entries member
  exact not_tells_of_cancelled_socket found cancelled (owner.trans (congrArg some own))
    (tells_of_pushes pushed)

theorem silent_of_cancelled_listener (found : w.listeners[l]? = some x)
    (cancelled : x.cancelled = true) (steps : List (Step α)) :
    (∃ x', (w.run steps).listeners[l]? = some x' ∧ x'.cancelled = true) ∧
      ∀ entry ∈ w.log steps, entry.owner = .listener l →
        ∃ schedulee, entry.record = .accept { schedulee, listener := some l } := by
  refine log_induction (P := fun w => ∃ x, w.listeners[l]? = some x ∧ x.cancelled = true) ?_
    ⟨x, found, cancelled⟩ steps
  rintro w e ⟨x, found, cancelled⟩
  obtain ⟨x', found', moves⟩ := listener_step found e
  refine ⟨⟨x', found', moves.cancelled cancelled⟩, fun entry member own => ?_⟩
  obtain ⟨owner, pushed⟩ := mem_entries member
  exact tells_of_cancelled_listener found cancelled (owner.trans (congrArg some own))
    (tells_of_pushes pushed)

theorem silent_of_cancelled_connect (found : w.connects[c]? = some slot)
    (cancelled : slot.cancelled = true) (steps : List (Step α)) :
    ∀ entry ∈ w.log steps, entry.owner ≠ .connect c := by
  refine (log_induction (P := fun w => ∃ slot, w.connects[c]? = some slot ∧ slot.cancelled = true)
    ?_ ⟨slot, found, cancelled⟩ steps).2
  rintro w e ⟨slot, found, cancelled⟩
  obtain ⟨slot', found', moves⟩ := connect_step found e
  refine ⟨⟨slot', found', moves.cancelled cancelled⟩, fun entry member own => ?_⟩
  obtain ⟨owner, pushed⟩ := mem_entries member
  exact not_tells_of_connect found (.inr cancelled) (owner.trans (congrArg some own))
    (tells_of_pushes pushed)

end World

open World in
/-- Whatever the state in which a socket, a listener or a connect is cancelled and however the run
goes on: no record of the socket or the connect is pushed any more, nor any of the listener but
those with which accept calls begin. Later reads are refused, later writes leave no record, and an
accept call does nothing but push its one record. -/
theorem silent_after_cancel (w : World α) (future : List (Step α)) :
    ((w.run future).queues.pushed =
      w.queues.pushed ++ (w.log future).map fun entry => (entry.queue, entry.record)) ∧
    (∀ n s, w.sockets[n]? = some s → s.held ≠ 0 →
      let after := w.step (.cancelSocket n)
      let later := after.run future
      (∀ entry ∈ after.log future, entry.owner ≠ .socket n) ∧
      (∀ decoder task, later.read n decoder task = (later, .error .closed)) ∧
      ∀ data task, (later.write n data task).queues = later.queues) ∧
    (∀ l x, w.listeners[l]? = some x → x.held ≠ 0 →
      let after := w.step (.cancelListener l)
      let later := after.run future
      (∀ entry ∈ after.log future, entry.owner = .listener l →
        ∃ schedulee, entry.record = .accept { schedulee, listener := some l }) ∧
      ∃ x', later.listeners[l]? = some x' ∧ ∀ task, later.accept l task =
        if x'.held = 0 then later
        else later.emit task.queue
          (.accept { schedulee := task.schedulee, listener := some l })) ∧
    ∀ c slot, w.connects[c]? = some slot →
      ∀ entry ∈ (w.step (.cancelConnect c)).log future, entry.owner ≠ .connect c := by
  refine ⟨w.pushed_run future, ?_, ?_, ?_⟩
  · intro n s found held after later
    have cancelled : after.sockets[n]? = some s.cancel := by
      simp [after, step, cancelSocket, found, held]
    obtain ⟨⟨s', found', cancelled'⟩, silent⟩ := silent_of_cancelled_socket cancelled rfl future
    refine ⟨silent, fun decoder task => ?_, fun data task => ?_⟩
    · simp [later, World.read, found', cancelled']
    · simp only [later, World.write, found', cancelled', if_true]
      split
      · rfl
      · split <;> rfl
  · intro l x found held after later
    have cancelled : after.listeners[l]? = some { x with cancelled := true } := by
      simp [after, step, cancelListener, getElem?_modifyListener, found, held]
    obtain ⟨⟨x', found', cancelled'⟩, silent⟩ :=
      silent_of_cancelled_listener cancelled rfl future
    refine ⟨silent, x', found', fun task => ?_⟩
    simp only [later, World.accept, found', cancelled', if_true]
  · intro c slot found
    have cancelled : (w.step (.cancelConnect c)).connects[c]? =
        some { slot with cancelled := true } := by
      simp [step, cancelConnect, getElem?_modifyConnect, found]
    exact silent_of_cancelled_connect cancelled rfl future

/-- A socket that reads and has a write in line, a listener with an accept loop, and a connect. -/
def busySteps : List (Step (List UInt8)) :=
  let near := SocketAddr.near 80
  [.connect 0 (.toAddress { schedulee := 1 } near),
    .pollConnect 0 (.attempted { ready := some (.ok (.ok ⟨near, near⟩)) }), .take 0,
    .read 0 .bytes { schedulee := 2 }, .write 0 [7] { schedulee := 3 },
    .listen 0 near 1 (.ok near), .accept 0 { schedulee := 4 },
    .connect 0 (.toAddress { schedulee := 5 } near)]

/-- One poll of each, with an answer that is worth a record. -/
def busyPolls : List (Step (List UInt8)) :=
  [.pollRead 0 { ready := some (.error "reset") }, .pollWrite 0 { ready := some (.ok 1) },
    .pollAccept 0 0 { ready := some (.error "aborted") },
    .pollConnect 1 (.attempted { ready := some (.error "refused") })]

open World in
/-- Without a cancel each of the polls pushes a record. -/
theorem silent_after_cancel_of_busy :
    let w : World (List UInt8) := run { buffers := [64] } busySteps
    (w.log busyPolls).map LogEntry.owner =
      [.socket 0, .socket 0, .listener 0, .connect 1] ∧
    (∃ s, w.sockets[0]? = some s ∧ s.held ≠ 0 ∧
      ∀ entry ∈ (w.step (.cancelSocket 0)).log busyPolls, entry.owner ≠ .socket 0) ∧
    (∃ x, w.listeners[0]? = some x ∧ x.held ≠ 0 ∧
      ∀ entry ∈ (w.step (.cancelListener 0)).log busyPolls, entry.owner = .listener 0 →
        ∃ schedulee, entry.record = .accept { schedulee, listener := some 0 }) ∧
    ∃ slot, w.connects[1]? = some slot ∧
      ∀ entry ∈ (w.step (.cancelConnect 1)).log busyPolls, entry.owner ≠ .connect 1 := by
  intro w
  have silent := silent_after_cancel w busyPolls
  exact ⟨rfl, ⟨_, rfl, by decide, (silent.2.1 0 _ rfl (by decide)).1⟩,
    ⟨_, rfl, by decide, (silent.2.2.1 0 _ rfl (by decide)).1⟩, ⟨_, rfl, silent.2.2.2 1 _ rfl⟩⟩

end SocketBridge
