import SocketBridge.Bridge.Want
import SocketBridge.Proofs.Bridge.Held

/-!
# What a record reports

A record of a connect or of an accept loop tells a failure or names a socket, which has the ends of
the stream that was opened. What it tells stays true however the run goes on.
-/

namespace SocketBridge

variable {α : Type}

@[simp] theorem ConnectRecord.schedulee_ofResult (schedulee socket : Nat)
    (result : Except String Link) : (ofResult schedulee socket result).schedulee = schedulee := by
  cases result <;> rfl

@[simp] theorem AcceptRecord.schedulee_ofResult (schedulee socket : Nat)
    (result : Except String Link) : (ofResult schedulee socket result).schedulee = schedulee := by
  cases result <;> rfl

namespace World

variable {w : World α} {n : Nat} {s : Socket α} {e : Step α}

/-- The ends of a socket never change. -/
theorem Moves.link {s' : Socket α} (moves : w.Moves n s e s') : s'.link = s.link := by
  cases moves with
  | apart | ignores | reads | writes | shuts | cancels => rfl
  | readTurn | writeTurn =>
    unfold Socket.cancelIf
    split <;> rfl

/-- A record tells a failure, or it names the socket of a stream. It names no listener. -/
def Reports (w : World α) (r : Completion α) (result : Except String Link) : Prop :=
  r.listener = none ∧
    match result with
    | .error text => r.error = some text ∧ r.connection = none
    | .ok link => r.error = none ∧
      ∃ n s, r.connection = some n ∧ w.sockets[n]? = some s ∧ s.link = link

variable {r : Completion α} {result : Except String Link}

theorem Reports.error_or_connection (reports : w.Reports r result) :
    r.error.isSome = r.connection.isNone := by
  cases result with
  | error text =>
    obtain ⟨-, failed, nameless⟩ := reports
    rw [failed, nameless]
    rfl
  | ok link =>
    obtain ⟨-, fine, n, s, names, -⟩ := reports
    rw [fine, names]
    rfl

theorem Reports.step (reports : w.Reports r result) (e : Step α) : (w.step e).Reports r result := by
  obtain ⟨unlisted, tells⟩ := reports
  refine ⟨unlisted, ?_⟩
  cases result with
  | error text => exact tells
  | ok link =>
    obtain ⟨fine, n, s, names, found, ends⟩ := tells
    obtain ⟨s', found', moves⟩ := moves_step found e
    exact ⟨fine, n, s', names, found', moves.link.trans ends⟩

theorem Reports.run (reports : w.Reports r result) (steps : List (Step α)) :
    (w.run steps).Reports r result := by
  induction steps generalizing w with
  | nil => exact reports
  | cons e steps ih => exact ih (reports.step e)

theorem reports_of_opened {link : Link} (guard : Guard)
    (opened : (w.step e).sockets = w.sockets ++ [{ guard := guard, link }])
    (unlisted : r.listener = none) (fine : r.error = none)
    (names : r.connection = some w.sockets.length) : (w.step e).Reports r (.ok link) :=
  ⟨unlisted, fine, _, { guard := guard, link }, names, by simp [opened], rfl⟩

theorem reports_pollConnect {c : Nat} {slot : ConnectSlot} {running : Connect}
    (found : w.connects[c]? = some slot) (runs : slot.running = some running)
    (answer : ConnectAnswer)
    (turned : (running.turn slot.cancelled answer).result = some result) :
    (w.step (.pollConnect c answer)).Reports
      (.connect (.ofResult running.task.schedulee w.sockets.length result)) result := by
  cases result with
  | error text => exact ⟨rfl, rfl, rfl⟩
  | ok link =>
    obtain ⟨bridge, cancelled, _⟩ := slot
    obtain rfl := runs
    refine reports_of_opened (w.track bridge).2 ?_ rfl rfl rfl
    simp only [step, pollConnect, found, turned]
    rfl

theorem reports_pollAccept {l i : Nat} {x : Listener} {task : Task}
    (found : w.listeners[l]? = some x) (running : x.loops[i]? = some (some task))
    (answer : Poll (Except String Link) String)
    (turned : (acceptTurn x.cancelled answer).result = some result) :
    (w.step (.pollAccept l i answer)).Reports
      (.accept (.ofResult task.schedulee w.sockets.length result)) result := by
  cases result with
  | error text => exact ⟨rfl, rfl, rfl⟩
  | ok link =>
    refine reports_of_opened (w.track x.guard.tracker).2 ?_ rfl rfl rfl
    simp only [step, pollAccept, found, running, turned]
    rfl

/-- Nothing is added to a history by steps that keep a condition and add nothing under it. -/
theorem history_eq_nil {β : Type} {added : World α → Step α → List β} {P : World α → Prop}
    (keeps : ∀ w e, P w → P (w.step e) ∧ added w e = []) (holds : P w) (steps : List (Step α)) :
    history added w steps = [] := by
  induction steps generalizing w with
  | nil => rfl
  | cons e steps ih =>
    obtain ⟨next, nothing⟩ := keeps w e holds
    rw [history, nothing, ih next, List.nil_append]

theorem filter_history {β : Type} (added : World α → Step α → List β) (p : β → Bool)
    (w : World α) (steps : List (Step α)) :
    (history added w steps).filter p = history (fun w e => (added w e).filter p) w steps := by
  induction steps generalizing w with
  | nil => rfl
  | cons e steps ih => rw [history, List.filter_append, ih, history]

/-- The records that a step pushes if it starts or carries on something of an owner. -/
def tellsOf (owner : Owner) (w : World α) (e : Step α) : List (Nat × Completion α) :=
  if e.owner? = some owner then w.pushes e else []

/-- All records of what an owner has done, each with its queue. -/
def told (owner : Owner) : World α → List (Step α) → List (Nat × Completion α) :=
  history (tellsOf owner)

end World

end SocketBridge
