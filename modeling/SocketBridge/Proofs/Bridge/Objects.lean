import SocketBridge.Proofs.Bridge.Step

/-!
# What a step does to a listener and to a connect

As for sockets: a step calls or polls one listener or connect at most.
-/

namespace SocketBridge

variable {α : Type}

/-- The listener that a step calls or polls. -/
def Step.listener? : Step α → Option Nat
  | .accept l _ | .cancelListener l | .pollAccept l _ _ => some l
  | _ => none

/-- The connect that a step cancels or polls. -/
def Step.connect? : Step α → Option Nat
  | .cancelConnect c | .pollConnect c _ => some c
  | _ => none

/-- Whether a step starts a connect. -/
def Step.Connects : Step α → Prop
  | .connect _ _ => True
  | _ => False

/-- Whether a call or a poll leaves a listener as it is. -/
def Listener.Ignores (x : Listener) : Step α → Prop
  | .accept _ _ => x.held = 0 ∨ x.cancelled = true
  | .cancelListener _ => x.held = 0
  | .pollAccept _ i _ => ∀ task, x.loops[i]? ≠ some (some task)
  | _ => False

/-- What a step may make of a listener. -/
inductive Listener.Moves (l : Nat) (x : Listener) : Step α → Listener → Prop
  | apart (e : Step α) (held : Nat) (other : e.listener? ≠ some l) : Moves l x e { x with held }
  | ignores (e : Step α) (own : e.listener? = some l) (ignored : x.Ignores e) : Moves l x e x
  | accepts (task : Task) (held : x.held ≠ 0) (live : x.cancelled = false) :
    Moves l x (.accept l task) { x with loops := x.loops ++ [some task] }
  | cancels (held : x.held ≠ 0) : Moves l x (.cancelListener l) { x with cancelled := true }
  | turns (i : Nat) (task : Task) (running : x.loops[i]? = some (some task))
      (answer : Poll (Except String Link) String) :
    Moves l x (.pollAccept l i answer)
      { x with
        cancelled := x.cancelled || answer.cancels
        loops := if (acceptTurn x.cancelled answer).continues then x.loops
          else x.loops.set i none }

/-- What a step may make of a connect. -/
inductive ConnectSlot.Moves (c : Nat) (slot : ConnectSlot) : Step α → ConnectSlot → Prop
  | apart (e : Step α) (other : e.connect? ≠ some c) : Moves c slot e slot
  | cancels : Moves c slot (.cancelConnect c) { slot with cancelled := true }
  | ended (answer : ConnectAnswer) (finished : slot.running = none) :
    Moves c slot (.pollConnect c answer) slot
  | turns (running : Connect) (runs : slot.running = some running) (answer : ConnectAnswer) :
    Moves c slot (.pollConnect c answer)
      { slot with
        running := (running.turn slot.cancelled answer).next
        cancelled := slot.cancelled || answer.cancels }

namespace World

variable {w : World α} {l c : Nat} {x : Listener} {slot : ConnectSlot}

theorem getElem?_modifyListener (w : World α) (m n : Nat) (f : Listener → Listener) :
    (w.modifyListener m f).listeners[n]? =
      if m = n then (w.listeners[n]?).map f else w.listeners[n]? := by
  simp only [modifyListener, List.getElem?_modify]
  split <;> simp

theorem getElem?_modifyConnect (w : World α) (m n : Nat) (f : ConnectSlot → ConnectSlot) :
    (w.modifyConnect m f).connects[n]? =
      if m = n then (w.connects[n]?).map f else w.connects[n]? := by
  simp only [modifyConnect, List.getElem?_modify]
  split <;> simp

@[simp] theorem listeners_emit (w : World α) (queue : Nat) (r : Completion α) :
    (w.emit queue r).listeners = w.listeners := rfl

@[simp] theorem listeners_mark (w : World α) (marks : List Mark) :
    (w.mark marks).listeners = w.listeners := rfl

@[simp] theorem listeners_tellConnect (w : World α) (task : Task) (record : ConnectRecord) :
    (w.tellConnect task record).listeners = w.listeners := rfl

@[simp] theorem listeners_spawn (w : World α) (s : Spawned) :
    (w.spawn s).listeners = w.listeners := rfl

@[simp] theorem listeners_modifySocket (w : World α) (n : Nat) (f : Socket α → Socket α) :
    (w.modifySocket n f).listeners = w.listeners := rfl

@[simp] theorem listeners_release (w : World α) (guard : Guard) :
    (w.release guard).listeners = w.listeners := rfl

@[simp] theorem listeners_openSocket (w : World α) (bridge : Nat) (link : Link) :
    (w.openSocket bridge link).1.listeners = w.listeners := rfl

@[simp] theorem connects_emit (w : World α) (queue : Nat) (r : Completion α) :
    (w.emit queue r).connects = w.connects := rfl

@[simp] theorem connects_mark (w : World α) (marks : List Mark) :
    (w.mark marks).connects = w.connects := rfl

@[simp] theorem connects_tellConnect (w : World α) (task : Task) (record : ConnectRecord) :
    (w.tellConnect task record).connects = w.connects := rfl

@[simp] theorem connects_openSocket (w : World α) (bridge : Nat) (link : Link) :
    (w.openSocket bridge link).1.connects = w.connects := rfl

/-- Calls and polls of sockets are about nothing else. -/
theorem others_step_of_socket {e : Step α} {n : Nat} (about : e.socket? = some n) :
    (w.step e).listeners = w.listeners ∧ (w.step e).connects = w.connects := by
  cases e with
  | read m decoder task =>
    simp only [step, read]
    split
    · exact ⟨rfl, rfl⟩
    · split
      · exact ⟨rfl, rfl⟩
      · split <;> exact ⟨rfl, rfl⟩
  | write m data task =>
    simp only [step, write]
    split
    · exact ⟨rfl, rfl⟩
    · split
      · exact ⟨rfl, rfl⟩
      · split
        · exact ⟨rfl, rfl⟩
        · split <;> exact ⟨rfl, rfl⟩
  | shutdownWrite m =>
    simp only [step, shutdownWrite]
    split
    · exact ⟨rfl, rfl⟩
    · split <;> exact ⟨rfl, rfl⟩
  | cancelSocket m => exact ⟨rfl, rfl⟩
  | pollRead m answer =>
    simp only [step, pollRead]
    split
    · split <;> exact ⟨rfl, rfl⟩
    · exact ⟨rfl, rfl⟩
  | pollWrite m answer =>
    simp only [step, pollWrite]
    split
    · exact ⟨rfl, rfl⟩
    · split
      · split <;> exact ⟨rfl, rfl⟩
      · exact ⟨rfl, rfl⟩
  | _ => cases about

theorem connects_take (w : World α) (queue : Nat) : (w.take queue).1.connects = w.connects := by
  unfold take
  split
  · rfl
  · rename_i c _ _
    cases c.connection <;> cases c.listener <;> rfl

theorem listener_take (found : w.listeners[l]? = some x) (queue : Nat) :
    ∃ held, (w.take queue).1.listeners[l]? = some { x with held } := by
  unfold take
  split
  · exact ⟨x.held, found⟩
  · rename_i c _ _
    cases c.listener with
    | none => cases c.connection <;> exact ⟨x.held, found⟩
    | some listener =>
      by_cases own : listener = l
      · refine ⟨x.held + 1, ?_⟩
        cases c.connection <;> simp [getElem?_modifyListener, own, found]
      · refine ⟨x.held, ?_⟩
        cases c.connection <;> simp [getElem?_modifyListener, own, found]

theorem listener_accept (found : w.listeners[l]? = some x) (task : Task) :
    ∃ x', (w.step (.accept l task)).listeners[l]? = some x' ∧
      x.Moves (α := α) l (.accept l task) x' := by
  by_cases held : x.held = 0
  · exact ⟨x, by simp [step, accept, found, held], .ignores _ rfl (.inl held)⟩
  · cases live : x.cancelled with
    | true =>
      exact ⟨x, by simp [step, accept, found, held, live], .ignores _ rfl (.inr live)⟩
    | false =>
      refine ⟨_, ?_, .accepts task held live⟩
      simp [step, accept, found, held, live, getElem?_modifyListener]

theorem listener_cancelListener (found : w.listeners[l]? = some x) :
    ∃ x', (w.step (.cancelListener l)).listeners[l]? = some x' ∧
      x.Moves (α := α) l (.cancelListener l) x' := by
  by_cases held : x.held = 0
  · refine ⟨x, ?_, .ignores _ rfl held⟩
    simp [step, cancelListener, getElem?_modifyListener, found, held]
  · refine ⟨_, ?_, .cancels held⟩
    simp [step, cancelListener, getElem?_modifyListener, found, held]

theorem listener_pollAccept (found : w.listeners[l]? = some x) (i : Nat)
    (answer : Poll (Except String Link) String) :
    ∃ x', (w.step (.pollAccept l i answer)).listeners[l]? = some x' ∧
      x.Moves (α := α) l (.pollAccept l i answer) x' := by
  rcases running : x.loops[i]? with _ | _ | task
  · refine ⟨x, by simp [step, pollAccept, found, running], .ignores _ rfl fun task => ?_⟩
    rw [running]
    rintro ⟨⟩
  · refine ⟨x, by simp [step, pollAccept, found, running], .ignores _ rfl fun task => ?_⟩
    rw [running]
    rintro ⟨⟩
  · refine ⟨_, ?_, .turns i task running answer⟩
    simp only [step, pollAccept, found, running]
    split <;> simp [getElem?_modifyListener, found]

/-- A step that is not about a listener may only change how many handles it has. -/
theorem listener_apart (found : w.listeners[l]? = some x) {e : Step α}
    (other : e.listener? ≠ some l) :
    ∃ held, (w.step e).listeners[l]? = some { x with held } := by
  cases e with
  | addBridge config =>
    refine ⟨x.held, ?_⟩
    simp only [step, addBridge]
    split <;> exact found
  | listen bridge address backlog answer =>
    refine ⟨x.held, ?_⟩
    have bound := (List.getElem?_eq_some_iff.mp found).1
    simp only [step, listen]
    split
    · exact found
    · cases answer with
      | error failed => exact found
      | ok near => exact (List.getElem?_append_left bound).trans found
  | accept m task =>
    have own : m ≠ l := fun same => other (congrArg some same)
    refine ⟨x.held, ?_⟩
    simp only [step, accept]
    split
    · exact found
    · split
      · exact found
      · split <;> simp [getElem?_modifyListener, found, own]
  | cancelListener m =>
    have own : m ≠ l := fun same => other (congrArg some same)
    exact ⟨x.held, by simp [step, cancelListener, getElem?_modifyListener, found, own]⟩
  | cloneListener m =>
    by_cases own : m = l
    · by_cases held : x.held = 0
      · have same : (w.step (.cloneListener m)).listeners[l]? = some x := by
          simp [step, cloneListener, getElem?_modifyListener, own, found, held]
        exact ⟨x.held, same⟩
      · exact ⟨x.held + 1,
          by simp [step, cloneListener, getElem?_modifyListener, own, found, held]⟩
    · exact ⟨x.held, by simp [step, cloneListener, getElem?_modifyListener, found, own]⟩
  | dropListener m =>
    by_cases own : m = l
    · subst own
      by_cases held : x.held = 0
      · have same : (w.step (.dropListener m)).listeners[m]? = some x := by
          simp [step, dropListener, found, held]
        exact ⟨x.held, same⟩
      · refine ⟨x.held - 1, ?_⟩
        simp only [step, dropListener, found, if_neg held]
        split <;> simp [getElem?_modifyListener, found]
    · refine ⟨x.held, ?_⟩
      simp only [step, dropListener]
      split
      · exact found
      · split
        · exact found
        · split <;> simp [getElem?_modifyListener, found, own]
  | take queue => exact listener_take found queue
  | dropSocket m =>
    refine ⟨x.held, ?_⟩
    simp only [step, dropSocket]
    split
    · exact found
    · split
      · exact found
      · split <;> exact found
  | pollConnect c answer =>
    refine ⟨x.held, ?_⟩
    simp only [step, pollConnect]
    split
    · split <;> exact found
    · exact found
  | pollAccept m i answer =>
    have own : m ≠ l := fun same => other (congrArg some same)
    refine ⟨x.held, ?_⟩
    simp only [step, pollAccept]
    split
    · exact found
    · split
      · split <;> simp [getElem?_modifyListener, found, own]
      · exact found
  | connect | cancelConnect | cloneSocket => exact ⟨x.held, found⟩
  | read | write | shutdownWrite | cancelSocket | pollRead | pollWrite =>
    exact ⟨x.held, by rw [(others_step_of_socket rfl).1, found]⟩

/-- What any step makes of a listener. -/
theorem listener_step (found : w.listeners[l]? = some x) (e : Step α) :
    ∃ x', (w.step e).listeners[l]? = some x' ∧ x.Moves l e x' := by
  by_cases about : e.listener? = some l
  · cases e with
    | accept m task =>
      obtain rfl := Option.some.inj about
      exact listener_accept found task
    | cancelListener m =>
      obtain rfl := Option.some.inj about
      exact listener_cancelListener found
    | pollAccept m i answer =>
      obtain rfl := Option.some.inj about
      exact listener_pollAccept found i answer
    | _ => cases about
  · obtain ⟨held, same⟩ := listener_apart found about
    exact ⟨_, same, .apart e held about⟩

theorem connect_pollConnect (found : w.connects[c]? = some slot) (answer : ConnectAnswer) :
    ∃ slot', (w.step (.pollConnect c answer)).connects[c]? = some slot' ∧
      slot.Moves (α := α) c (.pollConnect c answer) slot' := by
  cases runs : slot.running with
  | none =>
    obtain ⟨bridge, cancelled, _⟩ := slot
    obtain rfl := runs
    exact ⟨_, by simp [step, pollConnect, found], .ended answer rfl⟩
  | some running =>
    refine ⟨_, ?_, .turns running runs answer⟩
    obtain ⟨bridge, cancelled, _⟩ := slot
    obtain rfl := runs
    simp only [step, pollConnect, found]
    split <;> simp [getElem?_modifyConnect, found]

/-- A step that is about no connect and starts none leaves those that there are. -/
theorem connects_kept (w : World α) {e : Step α} (about : e.connect? = none)
    (unstarted : ¬e.Connects) : (w.step e).connects = w.connects := by
  cases e with
  | cancelConnect | pollConnect => cases about
  | connect => exact absurd trivial unstarted
  | addBridge config =>
    simp only [step, addBridge]
    split <;> rfl
  | listen bridge address backlog answer =>
    simp only [step, listen]
    split
    · rfl
    · cases answer <;> rfl
  | accept l task =>
    simp only [step, accept]
    split
    · rfl
    · split
      · rfl
      · split <;> rfl
  | take queue => exact w.connects_take queue
  | dropListener l =>
    simp only [step, dropListener]
    split
    · rfl
    · split
      · rfl
      · split <;> rfl
  | dropSocket n =>
    simp only [step, dropSocket]
    split
    · rfl
    · split
      · rfl
      · split <;> rfl
  | pollAccept l i answer =>
    simp only [step, pollAccept]
    split
    · rfl
    · split
      · split <;> rfl
      · rfl
  | cancelListener | cloneListener | cloneSocket => rfl
  | read | write | shutdownWrite | cancelSocket | pollRead | pollWrite =>
    exact (others_step_of_socket rfl).2

/-- A step that is about no connect may start another. -/
theorem connects_step (w : World α) {e : Step α} (about : e.connect? = none) :
    w.connects <+: (w.step e).connects := by
  by_cases starts : e.Connects
  · cases e with
    | connect bridge started => exact List.prefix_append ..
    | _ => exact starts.elim
  · exact ⟨[], by rw [List.append_nil, w.connects_kept about starts]⟩

theorem connect_unmoved (found : w.connects[c]? = some slot) {e : Step α}
    (about : e.connect? = none) : (w.step e).connects[c]? = some slot := by
  obtain ⟨more, grown⟩ := w.connects_step about
  rw [← grown, List.getElem?_append_left (List.getElem?_eq_some_iff.mp found).1, found]

/-- What any step makes of a connect. -/
theorem connect_step (found : w.connects[c]? = some slot) (e : Step α) :
    ∃ slot', (w.step e).connects[c]? = some slot' ∧ slot.Moves c e slot' := by
  by_cases about : e.connect? = some c
  · cases e with
    | cancelConnect m =>
      obtain rfl := Option.some.inj about
      exact ⟨_, by simp [step, cancelConnect, getElem?_modifyConnect, found], .cancels⟩
    | pollConnect m answer =>
      obtain rfl := Option.some.inj about
      exact connect_pollConnect found answer
    | _ => cases about
  · refine ⟨slot, ?_, .apart e about⟩
    cases e with
    | cancelConnect m =>
      have own : m ≠ c := fun same => about (congrArg some same)
      simp [step, cancelConnect, getElem?_modifyConnect, found, own]
    | pollConnect m answer =>
      have own : m ≠ c := fun same => about (congrArg some same)
      simp only [step, pollConnect]
      split
      · split <;> simp [getElem?_modifyConnect, found, own]
      · exact found
    | _ => exact connect_unmoved found rfl

end World

/-- A cancelled listener stays so. -/
theorem Listener.Moves.cancelled {l : Nat} {x x' : Listener} {e : Step α} (moves : x.Moves l e x')
    (cancelled : x.cancelled = true) : x'.cancelled = true := by
  cases moves with
  | apart | ignores | accepts => exact cancelled
  | cancels => rfl
  | turns => simp [cancelled]

/-- A cancelled connect stays so. -/
theorem ConnectSlot.Moves.cancelled {c : Nat} {slot slot' : ConnectSlot} {e : Step α}
    (moves : slot.Moves c e slot') (cancelled : slot.cancelled = true) :
    slot'.cancelled = true := by
  cases moves with
  | apart | ended => exact cancelled
  | cancels => rfl
  | turns => simp [cancelled]

end SocketBridge
