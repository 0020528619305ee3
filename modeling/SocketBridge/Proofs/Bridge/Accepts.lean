import Mathlib.Data.List.Forall2
import Mathlib.Data.List.Induction
import SocketBridge.Proofs.Bridge.Reports
import SocketBridge.Proofs.Bridge.Silence
import SocketBridge.Proofs.Cancel

/-!
# The protocol of accept loops

All loops of a listener take clients from the same line. What the host hands over to them and what
they record are two histories of one run, each with the number of the loop, and they match entry by
entry. The history of one loop is its clients and then one failure at most.
-/

namespace SocketBridge

variable {α : Type}

/-- What a loop has of an accept that ended: a client with its ends, or a failure to accept it or to
tell them. -/
def client : Except String (Except String Link) → Except String Link
  | .ok result => result
  | .error text => .error text

/-- What comes of one turn of a loop whose listener was not cancelled before. -/
inductive AcceptTurnsTo (poll : Poll (Except String Link) String) : AcceptTurn → Prop
  | waits (unended : poll.ending? = none) : AcceptTurnsTo poll ⟨true, none⟩
  | stops (unended : poll.ending? = none) (cancels : poll.cancels = true) :
    AcceptTurnsTo poll ⟨false, none⟩
  | gives (link : Link) (ended : poll.ending?.map client = some (.ok link)) :
    AcceptTurnsTo poll ⟨true, some (.ok link)⟩
  | fails (text : String) (ended : poll.ending?.map client = some (.error text)) :
    AcceptTurnsTo poll ⟨false, some (.error text)⟩

theorem acceptTurnsTo (poll : Poll (Except String Link) String) :
    AcceptTurnsTo poll (acceptTurn false poll) := by
  unfold acceptTurn
  cases ended : poll.ending? with
  | none =>
    rcases race_of_unended ended with pending | ⟨stopped, cancels⟩
    · rw [pending]
      exact .waits ended
    · rw [stopped]
      exact .stops ended cancels
  | some ending =>
    rw [race_of_ending? ended]
    rcases ending with text | text | link
    · exact .fails text (by rw [ended]; rfl)
    · exact .fails text (by rw [ended]; rfl)
    · exact .gives link (by rw [ended]; rfl)

/-- The result of a turn is what the poll hands over. -/
theorem result_acceptTurn (poll : Poll (Except String Link) String) :
    (acceptTurn false poll).result = poll.ending?.map client := by
  have turns := acceptTurnsTo poll
  generalize acceptTurn false poll = turn at turns
  cases turns with
  | waits unended | stops unended => rw [unended]; rfl
  | gives link ended | fails text ended => exact ended.symm

/-- The loop of a listener that a step polls, and how. -/
def Step.polled? (l : Nat) : Step α → Option (Nat × Poll (Except String Link) String)
  | .pollAccept m i poll => if m = l then some (i, poll) else none
  | _ => none

theorem Step.eq_pollAccept {l i : Nat} {e : Step α} {poll : Poll (Except String Link) String}
    (polled : e.polled? l = some (i, poll)) : e = .pollAccept l i poll := by
  cases e with
  | pollAccept m j given =>
    by_cases own : m = l
    · rw [polled?, if_pos own] at polled
      obtain ⟨rfl, rfl⟩ := Prod.mk.inj (Option.some.inj polled)
      rw [own]
    · rw [polled?, if_neg own] at polled
      cases polled
  | _ => cases polled

namespace World

/-- What a step hands over to a loop of a listener that waits for a client. -/
def hands (l : Nat) (w : World α) (e : Step α) : List (Nat × Except String Link) :=
  match e.polled? l with
  | none => []
  | some (i, poll) =>
    match w.want (.accept l i) with
    | .client => (poll.ending?.map fun ending => (i, client ending)).toList
    | _ => []

/-- The records that a step pushes if it is a turn of a loop of a listener. -/
def loopTells (l : Nat) (w : World α) (e : Step α) : List (Nat × Nat × Completion α) :=
  match e.polled? l with
  | none => []
  | some (i, _) => (w.pushes e).map (i, ·)

def handed (l : Nat) : World α → List (Step α) → List (Nat × Except String Link) :=
  history (hands l)

def toldByLoops (l : Nat) : World α → List (Step α) → List (Nat × Nat × Completion α) :=
  history (loopTells l)

variable {w : World α} {l i : Nat} {x x' : Listener} {task : Task} {e : Step α}

/-- Whether no turn of a loop takes a client: it does not run, or its listener is cancelled. -/
def LoopIdle (w : World α) (l i : Nat) : Prop :=
  ∀ x task, w.listeners[l]? = some x → x.loops[i]? = some (some task) → x.cancelled = true

theorem want_of_running (found : w.listeners[l]? = some x) (live : x.cancelled = false)
    (running : x.loops[i]? = some (some task)) : w.want (.accept l i) = .client := by
  simp [want, found, wantOfLoop, running, live]

theorem want_of_loopIdle (idle : w.LoopIdle l i) : w.want (.accept l i) ≠ .client := by
  cases found : w.listeners[l]? with
  | none => simp [want, found]
  | some x =>
    rcases running : x.loops[i]? with _ | _ | task
    · simp [want, found, wantOfLoop, running]
    · simp [want, found, wantOfLoop, running]
    · simp [want, found, wantOfLoop, running, idle x task found running]

theorem silent_of_unpolled (unpolled : e.polled? l = none) :
    w.hands l e = [] ∧ w.loopTells l e = [] := by
  rw [hands, loopTells, unpolled]
  exact ⟨rfl, rfl⟩

theorem silent_of_loopIdle (idle : w.LoopIdle l i) (poll : Poll (Except String Link) String) :
    w.hands l (.pollAccept l i poll) = [] ∧ w.loopTells l (.pollAccept l i poll) = [] := by
  have own : (Step.pollAccept (α := α) l i poll).polled? l = some (i, poll) := if_pos rfl
  rw [hands, loopTells, own]
  have silent (r : Nat × Completion α) : r ∉ w.pushes (.pollAccept l i poll) := by
    intro pushed
    cases tells_of_pushes pushed with
    | acceptTurn result found running turned =>
      rw [idle _ _ found running] at turned
      cases turned
  refine ⟨?_, List.map_eq_nil_iff.mpr (List.eq_nil_iff_forall_not_mem.mpr silent)⟩
  have unwanted := want_of_loopIdle idle
  dsimp only
  split
  · rename_i wanted
    exact absurd wanted unwanted
  · rfl

/-- A turn of a loop that runs tells what is handed over. -/
theorem turn_of_running (found : w.listeners[l]? = some x) (live : x.cancelled = false)
    (running : x.loops[i]? = some (some task)) (poll : Poll (Except String Link) String) :
    w.hands l (.pollAccept l i poll) =
        ((acceptTurn false poll).result.map fun result => (i, result)).toList ∧
      w.loopTells l (.pollAccept l i poll) =
        ((acceptTurn false poll).result.map fun result =>
          (i, task.queue, .accept (.ofResult task.schedulee w.sockets.length result))).toList := by
  have own : (Step.pollAccept (α := α) l i poll).polled? l = some (i, poll) := if_pos rfl
  refine ⟨?_, ?_⟩
  · rw [hands, own, result_acceptTurn, Option.map_map]
    dsimp only
    rw [want_of_running found live running]
    rfl
  · rw [loopTells, own]
    dsimp only
    rw [pushes_eq (queues_pollAccept found running poll), live]
    cases (acceptTurn false poll).result <;> rfl

/-- Whether a record is the one of what was handed over: it is of the same loop and reports it. -/
def Matches (w : World α) (a : Nat × Except String Link) (r : Nat × Nat × Completion α) : Prop :=
  a.1 = r.1 ∧ w.Reports r.2.2 a.2

/-- Each client or failure that a step hands over has its record. -/
theorem matches_step (w : World α) (l : Nat) (e : Step α) :
    List.Forall₂ (w.step e).Matches (w.hands l e) (w.loopTells l e) := by
  cases polled : e.polled? l with
  | none =>
    obtain ⟨nothing, silent⟩ := silent_of_unpolled (w := w) polled
    rw [nothing, silent]
    exact .nil
  | some p =>
    obtain ⟨i, poll⟩ := p
    obtain rfl := Step.eq_pollAccept polled
    by_cases idle : w.LoopIdle l i
    · obtain ⟨nothing, silent⟩ := silent_of_loopIdle idle poll
      rw [nothing, silent]
      exact .nil
    · simp only [LoopIdle, not_forall, Bool.not_eq_true] at idle
      obtain ⟨x, task, found, running, live⟩ := idle
      obtain ⟨hands, tells⟩ := turn_of_running found live running poll
      rw [hands, tells]
      cases turned : (acceptTurn false poll).result with
      | none => exact .nil
      | some result =>
        exact .cons ⟨rfl, reports_pollAccept found running poll (live ▸ turned)⟩ .nil

theorem matches_run (w : World α) (l : Nat) (steps : List (Step α)) :
    List.Forall₂ (w.run steps).Matches (w.handed l steps) (w.toldByLoops l steps) := by
  induction steps generalizing w with
  | nil => exact .nil
  | cons e steps ih =>
    refine List.rel_append ?_ (ih (w.step e))
    exact (w.matches_step l e).imp fun a r same => ⟨same.1, same.2.run steps⟩

/-- A step that hands nothing over to one loop, and that is not a turn of it with a record. -/
structure Quiet (w : World α) (l i : Nat) (e : Step α) : Prop where
  hands : (w.hands l e).filter (·.1 = i) = []
  tells : (w.loopTells l e).filter (·.1 = i) = []

theorem quiet_of_loopIdle (idle : ∀ poll, e = .pollAccept l i poll → w.LoopIdle l i) :
    w.Quiet l i e := by
  cases polled : e.polled? l with
  | none =>
    obtain ⟨nothing, silent⟩ := silent_of_unpolled (w := w) polled
    exact ⟨by rw [nothing]; rfl, by rw [silent]; rfl⟩
  | some p =>
    obtain ⟨j, poll⟩ := p
    by_cases own : j = i
    · obtain rfl := own
      obtain rfl := Step.eq_pollAccept polled
      obtain ⟨nothing, silent⟩ := silent_of_loopIdle (idle poll rfl) poll
      exact ⟨by rw [nothing]; rfl, by rw [silent]; rfl⟩
    · refine ⟨List.filter_eq_nil_iff.mpr fun a member => ?_,
        List.filter_eq_nil_iff.mpr fun r member => ?_⟩
      · rw [World.hands, polled] at member
        dsimp only at member
        split at member
        · obtain ⟨ending, -, rfl⟩ := Option.map_eq_some_iff.mp (Option.mem_toList.mp member)
          simpa using own
        · cases member
      · rw [loopTells, polled] at member
        obtain ⟨r, -, rfl⟩ := List.mem_map.mp member
        simpa using own

/-- Only its own turn ends a loop, and what has ended stays so. -/
theorem loop_step {entry : Option Task} (found : w.listeners[l]? = some x)
    (kept : x.loops[i]? = some entry)
    (unpolled : ∀ poll, e = .pollAccept l i poll → entry = none) :
    ∃ x', (w.step e).listeners[l]? = some x' ∧ x'.loops[i]? = some entry := by
  obtain ⟨x', found', moves⟩ := listener_step found e
  refine ⟨x', found', ?_⟩
  have bound := (List.getElem?_eq_some_iff.mp kept).1
  cases moves with
  | apart | ignores | cancels => exact kept
  | accepts task held live => exact (List.getElem?_append_left bound).trans kept
  | turns j task running answer =>
    have other : j ≠ i := by
      rintro rfl
      cases unpolled answer rfl
      cases kept.symm.trans running
    dsimp only
    split
    · exact kept
    · exact (List.getElem?_set_ne other).trans kept

theorem cancelled_step (found : w.listeners[l]? = some x) (cancelled : x.cancelled = true)
    (e : Step α) : ∃ x', (w.step e).listeners[l]? = some x' ∧ x'.cancelled = true := by
  obtain ⟨x', found', moves⟩ := listener_step found e
  exact ⟨x', found', moves.cancelled cancelled⟩

/-- What a turn of a loop that runs makes of its listener. -/
theorem listener_turn (found : w.listeners[l]? = some x) (live : x.cancelled = false)
    (running : x.loops[i]? = some (some task)) (poll : Poll (Except String Link) String) :
    (w.step (.pollAccept l i poll)).listeners[l]? = some { x with
      cancelled := poll.cancels
      loops := if (acceptTurn false poll).continues then x.loops else x.loops.set i none } := by
  obtain ⟨x', found', moves⟩ := listener_pollAccept found i poll
  cases moves with
  | apart e held other => exact absurd rfl other
  | ignores e own ignored => exact absurd running (ignored task)
  | turns i task running poll => rwa [live, Bool.false_or] at found'

/-- Nothing more is to come of a loop. -/
def LoopDone (w : World α) (l i : Nat) : Prop :=
  ∃ x, w.listeners[l]? = some x ∧ (x.cancelled = true ∨ x.loops[i]? = some none)

theorem LoopDone.idle (done : w.LoopDone l i) : w.LoopIdle l i := by
  obtain ⟨x, found, ended⟩ := done
  intro x' task found' running
  obtain rfl := Option.some.inj (found.symm.trans found')
  rcases ended with cancelled | ended
  · exact cancelled
  · cases ended.symm.trans running

theorem LoopDone.step (done : w.LoopDone l i) (e : Step α) : (w.step e).LoopDone l i := by
  obtain ⟨x, found, cancelled | ended⟩ := done
  · obtain ⟨x', found', cancelled'⟩ := cancelled_step found cancelled e
    exact ⟨x', found', .inl cancelled'⟩
  · obtain ⟨x', found', ended'⟩ := loop_step (e := e) found ended fun _ _ => rfl
    exact ⟨x', found', .inr ended'⟩

/-- After its end a loop is handed nothing and tells nothing. -/
theorem LoopDone.frozen (done : w.LoopDone l i) (future : List (Step α)) :
    (w.handed l future).filter (·.1 = i) = [] ∧ (w.toldByLoops l future).filter (·.1 = i) = [] := by
  have quiet (w : World α) (e : Step α) (done : w.LoopDone l i) : w.Quiet l i e :=
    quiet_of_loopIdle fun _ _ => done.idle
  rw [handed, toldByLoops, filter_history, filter_history]
  exact ⟨history_eq_nil (fun w e done => ⟨done.step e, (quiet w e done).hands⟩) done future,
    history_eq_nil (fun w e done => ⟨done.step e, (quiet w e done).tells⟩) done future⟩

/-- Where a loop stands, in terms of what was handed over to it: it runs or was cancelled after some
clients, or it has ended with a failure after them. -/
inductive LoopStands (w : World α) (l i : Nat) (task : Task) : List (Except String Link) → Prop
  | runs (x : Listener) (found : w.listeners[l]? = some x)
      (running : x.loops[i]? = some (some task)) (clients : List Link) :
    LoopStands w l i task (clients.map .ok)
  | stopped (x : Listener) (found : w.listeners[l]? = some x) (cancelled : x.cancelled = true)
      (clients : List Link) :
    LoopStands w l i task (clients.map .ok)
  | failed (x : Listener) (found : w.listeners[l]? = some x) (ended : x.loops[i]? = some none)
      (clients : List Link) (text : String) :
    LoopStands w l i task (clients.map .ok ++ [.error text])

/-- The records of a step are those of a loop's task. -/
def OfTask (task : Task) (r : Nat × Nat × Completion α) : Prop :=
  r.2.1 = task.queue ∧ r.2.2.schedulee = task.schedulee

/-- What a step hands over to one loop. -/
def handsTo (l i : Nat) (w : World α) (e : Step α) : List (Except String Link) :=
  ((w.hands l e).filter (·.1 = i)).map Prod.snd

theorem Quiet.handsTo (quiet : w.Quiet l i e) : w.handsTo l i e = [] := by
  rw [World.handsTo, quiet.hands, List.map_nil]

/-- A turn of a loop that runs adds a client, or nothing, or the failure that ends the loop. -/
theorem loopStands_of_turn (found : w.listeners[l]? = some x) (live : x.cancelled = false)
    (running : x.loops[i]? = some (some task)) (clients : List Link)
    (poll : Poll (Except String Link) String) :
    (w.step (.pollAccept l i poll)).LoopStands l i task
      (clients.map .ok ++ w.handsTo l i (.pollAccept l i poll)) := by
  have bound := (List.getElem?_eq_some_iff.mp running).1
  have hands : w.handsTo l i (.pollAccept l i poll) = (acceptTurn false poll).result.toList := by
    rw [handsTo, (turn_of_running found live running poll).1]
    cases (acceptTurn false poll).result <;> simp
  have turns := acceptTurnsTo poll
  have found' := listener_turn found live running poll
  rw [hands]
  generalize acceptTurn false poll = turn at turns found'
  cases turns with
  | waits unended =>
    rw [Option.toList_none, List.append_nil]
    exact .runs _ found' running clients
  | stops unended cancels =>
    rw [Option.toList_none, List.append_nil]
    exact .stopped _ found' cancels clients
  | gives link ended =>
    have one : clients.map Except.ok ++ (some (Except.ok (ε := String) link)).toList =
        (clients ++ [link]).map .ok := by simp
    rw [one]
    exact .runs _ found' running (clients ++ [link])
  | fails text ended =>
    exact .failed _ found' (List.getElem?_set_self bound) clients text

theorem LoopStands.step {results : List (Except String Link)}
    (stands : w.LoopStands l i task results) (e : Step α) :
    (w.step e).LoopStands l i task (results ++ w.handsTo l i e) ∧
      ∀ r ∈ (w.loopTells l e).filter (·.1 = i), OfTask task r := by
  have passing (quiet : w.Quiet l i e) (stands' : (w.step e).LoopStands l i task results) :
      (w.step e).LoopStands l i task (results ++ w.handsTo l i e) ∧
        ∀ r ∈ (w.loopTells l e).filter (·.1 = i), OfTask task r := by
    rw [quiet.handsTo, quiet.tells, List.append_nil]
    exact ⟨stands', nofun⟩
  have rests (done : w.LoopDone l i) : w.Quiet l i e := quiet_of_loopIdle fun _ _ => done.idle
  cases stands with
  | failed x found ended clients text =>
    obtain ⟨x', found', ended'⟩ := loop_step (e := e) found ended fun _ _ => rfl
    exact passing (rests ⟨x, found, .inr ended⟩) (.failed x' found' ended' clients text)
  | stopped x found cancelled clients =>
    obtain ⟨x', found', cancelled'⟩ := cancelled_step found cancelled e
    exact passing (rests ⟨x, found, .inl cancelled⟩) (.stopped x' found' cancelled' clients)
  | runs x found running clients =>
    cases live : x.cancelled with
    | true =>
      -- the loop may still be there, but its next turn ends it without a record
      obtain ⟨x', found', cancelled'⟩ := cancelled_step found live e
      exact passing (rests ⟨x, found, .inl live⟩) (.stopped x' found' cancelled' clients)
    | false =>
      by_cases turn : ∃ poll, e = .pollAccept l i poll
      · obtain ⟨poll, rfl⟩ := turn
        refine ⟨loopStands_of_turn found live running clients poll, fun r member => ?_⟩
        have told := List.mem_of_mem_filter member
        rw [(turn_of_running found live running poll).2] at told
        obtain ⟨result, -, rfl⟩ := Option.map_eq_some_iff.mp (Option.mem_toList.mp told)
        exact ⟨rfl, AcceptRecord.schedulee_ofResult ..⟩
      · have other (poll : Poll (Except String Link) String) (same : e = .pollAccept l i poll) :
            False := turn ⟨poll, same⟩
        obtain ⟨x', found', running'⟩ := loop_step found running fun poll same =>
          (other poll same).elim
        exact passing (quiet_of_loopIdle fun poll same => (other poll same).elim)
          (.runs x' found' running' clients)

theorem LoopStands.run {results : List (Except String Link)}
    (stands : w.LoopStands l i task results) (steps : List (Step α)) :
    (w.run steps).LoopStands l i task
        (results ++ ((w.handed l steps).filter (·.1 = i)).map Prod.snd) ∧
      ∀ r ∈ (w.toldByLoops l steps).filter (·.1 = i), OfTask task r := by
  induction steps generalizing w results with
  | nil =>
    refine ⟨?_, nofun⟩
    rw [handed, history, List.filter_nil, List.map_nil, List.append_nil]
    exact stands
  | cons e steps ih =>
    obtain ⟨next, here⟩ := stands.step e
    obtain ⟨last, there⟩ := ih next
    rw [handed, toldByLoops, history, history, List.filter_append, List.filter_append,
      List.map_append, ← List.append_assoc]
    refine ⟨last, fun r member => ?_⟩
    rcases List.mem_append.mp member with member | member
    · exact here r member
    · exact there r member

/-- Of the records of a listener, its loops push all but those with which accept calls begin. -/
theorem tellsOf_listener (w : World α) (l : Nat) (e : Step α) :
    (w.tellsOf (.listener l) e).filter (·.2.listener.isNone) = (w.loopTells l e).map Prod.snd := by
  cases polled : e.polled? l with
  | none =>
    rw [(silent_of_unpolled polled).2, List.map_nil]
    refine List.filter_eq_nil_iff.mpr fun r member => ?_
    unfold tellsOf at member
    split at member
    · rename_i own
      cases tells_of_pushes member with
      | accepts => simp [Completion.listener]
      | acceptTurn =>
        cases own
        simp [Step.polled?] at polled
      | connectTurn | readTurn | writeTurn | refused => cases own
    · cases member
  | some p =>
    obtain ⟨i, poll⟩ := p
    obtain rfl := Step.eq_pollAccept polled
    rw [tellsOf, Step.owner?, if_pos rfl, loopTells, polled]
    dsimp only
    rw [List.map_map, List.filter_eq_self.mpr fun r member => ?_]
    · exact (List.map_id _).symm
    · cases tells_of_pushes member with
      | acceptTurn result => cases result <;> rfl

theorem told_listener (w : World α) (l : Nat) (steps : List (Step α)) :
    (w.told (.listener l) steps).filter (·.2.listener.isNone) =
      (w.toldByLoops l steps).map Prod.snd := by
  induction steps generalizing w with
  | nil => rfl
  | cons e steps ih =>
    rw [told, toldByLoops, history, history, List.filter_append, List.map_append,
      w.tellsOf_listener l e]
    exact congrArg _ (ih (w.step e))

/-- A step names no socket in its record, or the one that it opens. -/
theorem connections_entries (w : World α) (e : Step α) :
    ((w.entries e).filterMap (·.record.connection) = [] ∧
      w.sockets.length ≤ (w.step e).sockets.length) ∨
    ((w.entries e).filterMap (·.record.connection) = [w.sockets.length] ∧
      w.sockets.length < (w.step e).sockets.length) := by
  have grows : w.sockets.length ≤ (w.step e).sockets.length := by
    rcases w.opens_step e with same | ⟨guard, link, grown⟩
    · exact Nat.le_of_eq same.symm
    · simp [grown]
  unfold entries
  cases owned : e.owner? with
  | none => exact .inl ⟨rfl, grows⟩
  | some owner =>
    rcases w.pushes_cases e with silent | ⟨r, one, -⟩
    · exact .inl ⟨by rw [silent]; rfl, grows⟩
    · cases names : r.2.connection with
      | none => exact .inl ⟨by simp [one, names], grows⟩
      | some n =>
        have pushed : r ∈ w.pushes e := one ▸ List.mem_singleton_self r
        obtain ⟨rfl, guard, link, grown⟩ := opens_of_pushes pushed names
        exact .inr ⟨by simp [one, names], by simp [grown]⟩

/-- A record names a socket that is opened with it, so no two name the same. -/
theorem connections_log (w : World α) (steps : List (Step α)) :
    ((w.log steps).filterMap (·.record.connection)).Nodup ∧
      ∀ n ∈ (w.log steps).filterMap (·.record.connection), w.sockets.length ≤ n := by
  induction steps generalizing w with
  | nil => exact ⟨.nil, nofun⟩
  | cons e steps ih =>
    obtain ⟨distinct, later⟩ := ih (w.step e)
    rw [log, history, List.filterMap_append]
    rcases w.connections_entries e with ⟨nothing, grows⟩ | ⟨one, grows⟩
    · rw [nothing, List.nil_append]
      exact ⟨distinct, fun n member => Nat.le_trans grows (later n member)⟩
    · rw [one, List.singleton_append]
      refine ⟨List.nodup_cons.mpr ⟨fun again => ?_, distinct⟩, fun n member => ?_⟩
      · exact absurd (later _ again) (Nat.not_le.mpr grows)
      · rcases List.mem_cons.mp member with rfl | member
        · exact Nat.le_refl _
        · exact Nat.le_trans (Nat.le_of_lt grows) (later n member)

/-- Each record of an accept holds one thing: the listener, a connection or an error. -/
theorem accept_holds_one {r : Nat × Completion α} (tells : w.Tells e r) {record : AcceptRecord}
    (own : r.2 = .accept record) :
    [record.listener.isSome, record.connection.isSome, record.error.isSome].count true = 1 := by
  cases tells with
  | accepts =>
    cases own
    rfl
  | acceptTurn result =>
    cases own
    cases result <;> rfl
  | connectTurn | readTurn | writeTurn | refused => cases own

theorem matches_filter {handed : List (Nat × Except String Link)}
    {told : List (Nat × Nat × Completion α)} (matching : List.Forall₂ w.Matches handed told)
    (i : Nat) : List.Forall₂ w.Matches (handed.filter (·.1 = i)) (told.filter (·.1 = i)) := by
  refine List.rel_filter (fun a r same => ?_) matching
  simp only [same.1]

theorem countP_of_matches {handed : List (Nat × Except String Link)}
    {told : List (Nat × Nat × Completion α)} (matching : List.Forall₂ w.Matches handed told) :
    told.countP (·.2.2.connection.isSome) = handed.countP (·.2.isOk) := by
  induction matching with
  | nil => rfl
  | @cons a r _ _ same _ ih =>
    have alike : r.2.2.connection.isSome = a.2.isOk := by
      obtain ⟨i, result⟩ := a
      obtain ⟨-, -, reports⟩ := same
      cases result with
      | error text => rw [reports.2]; rfl
      | ok link =>
        obtain ⟨-, n, s, names, -⟩ := reports
        rw [names]
        rfl
    rw [List.countP_cons, List.countP_cons, ih, alike]

/-- Where the loop of an accept call stands in the end. -/
theorem loopStands_accept (found : w.listeners[l]? = some x) (held : x.held ≠ 0) (task : Task)
    (steps : List (Step α)) :
    let after := w.step (.accept l task)
    (after.run steps).LoopStands l x.loops.length task
        (((after.handed l steps).filter (·.1 = x.loops.length)).map Prod.snd) ∧
      ∀ r ∈ (after.toldByLoops l steps).filter (·.1 = x.loops.length), OfTask task r := by
  intro after
  have begins : after.LoopStands l x.loops.length task [] := by
    obtain ⟨x', found', moves⟩ := listener_accept found task
    cases moves with
    | apart e held other => exact absurd rfl other
    | ignores e own ignored =>
      exact .stopped x found' (ignored.resolve_left held) []
    | accepts task held live =>
      exact .runs _ found' List.getElem?_concat_length []
  exact begins.run steps

end World

open World in
/-- Whatever the state in which a listener is asked to accept, on whatever handle and however often
before, and however the run goes on: the call itself pushes its one record, with the listener. From
then on every client and every failure that the host hands over to a loop of the listener has one
record, which is of the same loop and reports it, in the order in which they were handed over. The
loops push no other records, no socket is named by two records, and each record of an accept holds
one thing. The loop of the call is handed clients and then one failure at most, and its records are
those of its task. It waits for clients until there is a failure or a cancel, and then nothing more
comes of it. -/
theorem accept_protocol {w : World α} {l : Nat} {x : Listener} (found : w.listeners[l]? = some x)
    (held : x.held ≠ 0) (task : Task) (steps : List (Step α)) :
    let i := x.loops.length
    let after := w.step (.accept l task)
    let later := after.run steps
    let handed := after.handed l steps
    let told := after.toldByLoops l steps
    w.pushes (.accept l task) =
      [(task.queue, .accept { schedulee := task.schedulee, listener := some l })] ∧
    List.Forall₂ later.Matches handed told ∧
    told.countP (·.2.2.connection.isSome) = handed.countP (·.2.isOk) ∧
    (after.told (.listener l) steps).filter (·.2.listener.isNone) = told.map Prod.snd ∧
    ((after.log steps).filterMap (·.record.connection)).Nodup ∧
    (∀ entry ∈ after.log steps, ∀ record, entry.record = .accept record →
      [record.listener.isSome, record.connection.isSome, record.error.isSome].count true = 1) ∧
    (∀ r ∈ told.filter (·.1 = i), OfTask task r) ∧
    List.Forall₂ later.Matches (handed.filter (·.1 = i)) (told.filter (·.1 = i)) ∧
    ∃ (x' : Listener) (clients : List Link) (failure : Option String),
      later.listeners[l]? = some x' ∧
      (handed.filter (·.1 = i)).map Prod.snd = clients.map .ok ++ failure.toList.map .error ∧
      (x'.cancelled = false → failure = none → later.want (.accept l i) = .client) ∧
      (x'.cancelled = true ∨ failure ≠ none → ∀ future,
        (later.handed l future).filter (·.1 = i) = [] ∧
        (later.toldByLoops l future).filter (·.1 = i) = []) := by
  intro i after later handed told
  have matching := after.matches_run l steps
  obtain ⟨stands, own⟩ := loopStands_accept found held task steps
  refine ⟨?_, matching, countP_of_matches matching, after.told_listener l steps,
    (after.connections_log steps).1, ?_, own, matches_filter matching i, ?_⟩
  · rw [pushes_eq (queues_accept found task), if_neg held]
  · refine (log_induction (P := fun _ => True) (Q := fun entry => ∀ record,
      entry.record = .accept record → [record.listener.isSome, record.connection.isSome,
        record.error.isSome].count true = 1) (fun w e _ => ⟨trivial, ?_⟩) trivial steps).2
    intro entry member record same
    exact accept_holds_one (tells_of_pushes (mem_entries member).2) same
  · have freezes (done : later.LoopDone l i) := done.frozen
    generalize (handed.filter (·.1 = i)).map Prod.snd = results at stands
    cases stands with
    | runs x' found' running clients =>
      exact ⟨x', clients, none, found', by simp, fun live _ => want_of_running found' live running,
        fun ended => freezes ⟨x', found', .inl (ended.resolve_right fun more => more rfl)⟩⟩
    | stopped x' found' cancelled clients =>
      refine ⟨x', clients, none, found', by simp, fun live => ?_,
        fun _ => freezes ⟨x', found', .inl cancelled⟩⟩
      cases live.symm.trans cancelled
    | failed x' found' ended clients text =>
      exact ⟨x', clients, some text, found', rfl, nofun, fun _ => freezes ⟨x', found', .inr ended⟩⟩

/-- A listener with one loop. -/
def listening : List (Step (List UInt8)) :=
  let near := SocketAddr.near 80
  [.listen 0 near 1 (.ok near), .accept 0 { schedulee := 1 }]

/-- A client for each of two loops, and a failure of the second before the cancel. -/
def arrivals : List (Step (List UInt8)) :=
  let link : Link := ⟨.near 80, .near 81⟩
  [.pollAccept 0 1 { ready := some (.ok (.ok link)) },
    .pollAccept 0 0 { ready := some (.ok (.ok link)) },
    .pollAccept 0 1 { ready := some (.ok (.error "not connected")) }, .cancelListener 0,
    .pollAccept 0 0 { ready := some (.ok (.ok link)) }]

open World in
theorem accept_protocol_of_arrivals :
    let w : World (List UInt8) := run {} listening
    ∃ x, w.listeners[0]? = some x ∧ x.held ≠ 0 ∧
      let after := w.step (.accept 0 { schedulee := 2 })
      (after.handed 0 arrivals).map Prod.fst = [1, 0, 1] ∧
      List.Forall₂ (after.run arrivals).Matches (after.handed 0 arrivals)
        (after.toldByLoops 0 arrivals) ∧
      (after.toldByLoops 0 arrivals).countP (·.2.2.connection.isSome) = 2 := by
  intro w
  have found : w.listeners[0]? = some _ := rfl
  obtain ⟨-, matching, count, -⟩ := accept_protocol found (by decide) { schedulee := 2 } arrivals
  exact ⟨_, found, by decide, rfl, matching, count.trans rfl⟩

end SocketBridge
