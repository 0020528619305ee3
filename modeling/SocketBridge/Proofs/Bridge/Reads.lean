import SocketBridge.Proofs.Bridge.Log
import SocketBridge.Proofs.Happened

/-!
# The one read of a socket

A socket is read once. What a call for a read is told hangs on two things: whether the socket was
cancelled before, and whether a read was asked for before. A call that is refused does nothing at
all, so a run is the same without it.
-/

namespace SocketBridge

variable {α : Type}

/-- Whether a step asks for a read through a handle. -/
def Socket.AsksRead (s : Socket α) (n : Nat) : Step α → Prop
  | .read m _ _ => m = n ∧ s.held ≠ 0
  | _ => False

/-- Whether a step is to cancel a socket: a call through a handle, or a poll of the read or of the
writer during which somebody calls. -/
def Socket.Cancels (s : Socket α) (n : Nat) : Step α → Prop
  | .cancelSocket m => m = n ∧ s.held ≠ 0
  | .pollRead m answer => m = n ∧ s.reading ≠ none ∧ answer.cancels = true
  | .pollWrite m answer => m = n ∧ s.writer.running = true ∧ answer.cancels = true
  | _ => False

theorem Socket.cancelled_cancelIf (s : Socket α) (cancels : Bool) :
    (s.cancelIf cancels).cancelled = true ↔ s.cancelled = true ∨ cancels = true := by
  cases cancels <;> simp [cancelIf, cancel]

theorem Socket.cancelIf_of_live {s : Socket α} {cancels : Bool}
    (live : (s.cancelIf cancels).cancelled = false) : s.cancelIf cancels = s := by
  cases cancels with
  | false => rfl
  | true => cases live

namespace World

variable {w : World α} {n : Nat} {s s' : Socket α} {e : Step α}

/-- A socket is cancelled by the steps that are to cancel it, and by no others. -/
theorem Moves.cancelled_iff (moves : w.Moves n s e s') :
    s'.cancelled = true ↔ s.cancelled = true ∨ s.Cancels n e := by
  cases moves with
  | apart _ _ other =>
    refine (or_iff_left fun cancels => ?_).symm
    cases e with
    | cancelSocket | pollRead | pollWrite => exact other (congrArg some cancels.1)
    | _ => exact cancels
  | ignores _ own ignored =>
    refine (or_iff_left fun cancels => ?_).symm
    cases e with
    | cancelSocket => exact cancels.2 ignored
    | pollRead => exact cancels.2.1 ignored
    | pollWrite => exact absurd (cancels.2.1.symm.trans ignored) (by nofun)
    | _ => exact cancels
  | reads | writes | shuts => exact (or_iff_left id).symm
  | cancels held => exact iff_of_true rfl (.inr ⟨rfl, held⟩)
  | readTurn r reading answer =>
    have running : s.reading ≠ none := by rw [reading]; nofun
    simp [Socket.cancelled_cancelIf, Socket.Cancels, running]
  | writeTurn running answer => simp [Socket.cancelled_cancelIf, Socket.Cancels, running]

/-- As long as a socket is not cancelled, only a call for a read takes its reading half. -/
theorem Moves.readable_iff (moves : w.Moves n s e s') (live : s'.cancelled = false) :
    s'.readable = false ↔ s.readable = false ∨ s.AsksRead n e := by
  cases moves with
  | apart _ _ other =>
    refine (or_iff_left fun asks => ?_).symm
    cases e with
    | read => exact other (congrArg some asks.1)
    | _ => exact asks
  | ignores _ own ignored =>
    cases e with
    | read =>
      rcases ignored with unheld | cancelled | taken
      · exact (or_iff_left fun asks => asks.2 unheld).symm
      · exact absurd (cancelled.symm.trans live) (by nofun)
      · exact iff_of_true taken (.inl taken)
    | _ => exact (or_iff_left id).symm
  | reads decoder task held => exact iff_of_true rfl (.inr ⟨rfl, held⟩)
  | writes | shuts => exact (or_iff_left id).symm
  | cancels => cases live
  | readTurn | writeTurn =>
    rw [Socket.cancelIf_of_live live]
    exact (or_iff_left id).symm

/-- Whether the socket is there and cancelled. -/
def Closed (n : Nat) (w : World α) : Prop := ∃ s, w.sockets[n]? = some s ∧ s.cancelled = true

/-- Whether the socket is there and its reading half is not. -/
def Taken (n : Nat) (w : World α) : Prop := ∃ s, w.sockets[n]? = some s ∧ s.readable = false

def Cancels (n : Nat) (w : World α) (e : Step α) : Prop :=
  ∃ s, w.sockets[n]? = some s ∧ s.Cancels n e

def AsksRead (n : Nat) (w : World α) (e : Step α) : Prop :=
  ∃ s, w.sockets[n]? = some s ∧ s.AsksRead n e

theorem exists_found_iff {P : Socket α → Prop} (found : w.sockets[n]? = some s) :
    (∃ s, w.sockets[n]? = some s ∧ P s) ↔ P s := by
  simp [found]

theorem not_exists_found {P : Socket α → Prop} (missing : w.sockets[n]? = none) :
    ¬∃ s, w.sockets[n]? = some s ∧ P s := by
  simp [missing]

/-- A socket that a step opens is neither cancelled nor read. -/
theorem closed_step (n : Nat) (w : World α) (e : Step α) :
    (w.step e).Closed n ↔ w.Closed n ∨ w.Cancels n e := by
  cases found : w.sockets[n]? with
  | some s =>
    obtain ⟨s', found', moves⟩ := moves_step found e
    simp only [Closed, Cancels, exists_found_iff found, exists_found_iff found']
    exact moves.cancelled_iff
  | none =>
    refine iff_of_false ?_ (not_or.mpr ⟨not_exists_found found, not_exists_found found⟩)
    rintro ⟨s', found', cancelled⟩
    obtain ⟨s, found₀, -⟩ | ⟨-, guard, link, rfl⟩ := moves_or_opens found'
    · cases found.symm.trans found₀
    · cases cancelled

theorem taken_step (n : Nat) (w : World α) (e : Step α) (live : ¬(w.step e).Closed n) :
    (w.step e).Taken n ↔ w.Taken n ∨ w.AsksRead n e := by
  cases found : w.sockets[n]? with
  | some s =>
    obtain ⟨s', found', moves⟩ := moves_step found e
    simp only [Closed, exists_found_iff found', Bool.not_eq_true] at live
    simp only [Taken, AsksRead, exists_found_iff found, exists_found_iff found']
    exact moves.readable_iff live
  | none =>
    refine iff_of_false ?_ (not_or.mpr ⟨not_exists_found found, not_exists_found found⟩)
    rintro ⟨s', found', taken⟩
    obtain ⟨s, found₀, -⟩ | ⟨-, guard, link, rfl⟩ := moves_or_opens found'
    · cases found.symm.trans found₀
    · cases taken

/-! ### What calls for a read are told -/

/-- What a call for a read through a handle is told. -/
def answers (n : Nat) (w : World α) : Step α → List (Except ChannelError Unit)
  | .read m decoder task =>
    if m = n ∧ (w.sockets[n]?).any (·.held ≠ 0) then [(w.read n decoder task).2] else []
  | _ => []

theorem answers_eq_nil (quiet : ¬w.AsksRead n e) : w.answers n e = [] := by
  cases e with
  | read m decoder task =>
    refine if_neg fun asks => quiet ?_
    obtain ⟨s, found, held⟩ := (Option.any_eq_true ..).mp asks.2
    exact ⟨s, found, asks.1, by simpa using held⟩
  | _ => rfl

theorem AsksRead.answers (asks : w.AsksRead n e) :
    ∃ decoder task, e = .read n decoder task ∧ w.answers n e = [(w.read n decoder task).2] := by
  obtain ⟨s, found, asks⟩ := asks
  cases e with
  | read m decoder task =>
    obtain ⟨rfl, held⟩ := asks
    exact ⟨decoder, task, rfl, if_pos ⟨rfl, by simpa [found] using held⟩⟩
  | _ => exact asks.elim

theorem snd_read (found : w.sockets[n]? = some s) (held : s.held ≠ 0) (decoder : Decoder α)
    (task : Task) :
    (w.read n decoder task).2 =
      if s.cancelled then .error .closed
      else if s.readable then .ok () else .error .alreadyReading := by
  simp only [read, found]
  cases s.cancelled <;> cases s.readable <;> simp [held]

/-- A call that is refused does nothing. -/
theorem fst_read {decoder : Decoder α} {task : Task}
    (refused : (w.read n decoder task).2 ≠ .ok ()) : (w.read n decoder task).1 = w := by
  unfold read at refused ⊢
  split
  · rfl
  · split
    · rfl
    · split
      · rfl
      · simp_all

/-- A step unless it is a call for a read that is refused. -/
def heard (w : World α) (e : Step α) : List (Step α) :=
  match e with
  | .read n decoder task => if (w.read n decoder task).2 = .ok () then [e] else []
  | _ => [e]

theorem heard_cases (w : World α) (e : Step α) :
    w.heard e = [e] ∨ w.heard e = [] ∧ w.step e = w ∧ w.entries e = [] := by
  cases e with
  | read n decoder task =>
    by_cases granted : (w.read n decoder task).2 = .ok ()
    · exact .inl (if_pos granted)
    · have silent := pushes_of_same (w.queues_read n decoder task)
      exact .inr ⟨if_neg granted, fst_read granted, congrArg (List.map _) silent⟩
  | _ => exact .inl rfl

/-- A run is the same without the calls that are refused. -/
theorem run_heard (w : World α) (steps : List (Step α)) :
    w.run (history heard w steps) = w.run steps ∧ w.log (history heard w steps) = w.log steps := by
  induction steps generalizing w with
  | nil => exact ⟨rfl, rfl⟩
  | cons e steps ih =>
    obtain ⟨run, log⟩ := ih (w.step e)
    rcases w.heard_cases e with kept | ⟨dropped, same, silent⟩
    · rw [history, kept, List.singleton_append, run_cons, run_cons, run, World.log, history,
        history]
      exact ⟨rfl, congrArg _ log⟩
    · rw [same] at run log
      rw [history, dropped, same, List.nil_append, run_cons, same, run, log]
      refine ⟨rfl, ?_⟩
      rw [World.log, history, silent, same, List.nil_append]

/-! ### Runs -/

/-- Whether a read of a socket was asked for in a run. -/
def ReadAsked (n : Nat) (steps : List (Step α)) : Prop :=
  Happened (fun past e => (({} : World α).run past).AsksRead n e) steps

/-- Whether a socket was cancelled in a run. -/
def SocketCancelled (n : Nat) (steps : List (Step α)) : Prop :=
  Happened (fun past e => (({} : World α).run past).Cancels n e) steps

variable {steps : List (Step α)}

theorem closed_run : (({} : World α).run steps).Closed n ↔ SocketCancelled n steps := by
  induction steps using List.reverseRecOn with
  | nil => exact iff_of_false (not_exists_found rfl) not_happened_nil
  | append_singleton steps e ih =>
    rw [run_concat, closed_step, ih, SocketCancelled, SocketCancelled, happened_concat]

theorem taken_run (live : ¬SocketCancelled n steps) :
    (({} : World α).run steps).Taken n ↔ ReadAsked n steps := by
  induction steps using List.reverseRecOn with
  | nil => exact iff_of_false (not_exists_found rfl) not_happened_nil
  | append_singleton steps e ih =>
    have before : ¬SocketCancelled n steps := fun cancelled =>
      live (happened_concat.mpr (.inl cancelled))
    rw [← closed_run, run_concat] at live
    rw [run_concat, taken_step n _ e live, ih before, ReadAsked, ReadAsked, happened_concat]

/-- A call through a handle is granted if it is the first and the socket was not cancelled. -/
theorem read_run (found : (({} : World α).run steps).sockets[n]? = some s) (held : s.held ≠ 0)
    (decoder : Decoder α) (task : Task) :
    let answer := ((({} : World α).run steps).read n decoder task).2
    (answer = .ok () ↔ ¬SocketCancelled n steps ∧ ¬ReadAsked n steps) ∧
    (answer = .error .alreadyReading ↔ ¬SocketCancelled n steps ∧ ReadAsked n steps) ∧
    (answer = .error .closed ↔ SocketCancelled n steps) := by
  have closed : s.cancelled = true ↔ SocketCancelled n steps :=
    (exists_found_iff found).symm.trans closed_run
  rw [snd_read found held decoder task]
  by_cases cancelled : SocketCancelled n steps
  · simp [closed.mpr cancelled, cancelled]
  · have taken : s.readable = false ↔ ReadAsked n steps :=
      (exists_found_iff found).symm.trans (taken_run cancelled)
    have live : s.cancelled = false := Bool.eq_false_iff.mpr (mt closed.mp cancelled)
    rw [← taken, live]
    cases s.readable <;> simp [cancelled]

theorem asked_of_answers (told : history (answers n) ({} : World α) steps ≠ []) :
    ReadAsked n steps := by
  induction steps using List.reverseRecOn with
  | nil => exact absurd rfl told
  | append_singleton steps e ih =>
    refine happened_concat.mpr ?_
    by_cases asks : (({} : World α).run steps).AsksRead n e
    · exact .inr asks
    · rw [history_concat, answers_eq_nil asks, List.append_nil] at told
      exact .inl (ih told)

/-- Only the first call of all is ever granted. -/
theorem refused_of_tail {answer : Except ChannelError Unit}
    (later : answer ∈ (history (answers n) ({} : World α) steps).tail) : answer ≠ .ok () := by
  induction steps using List.reverseRecOn with
  | nil => cases later
  | append_singleton steps e ih =>
    by_cases asks : (({} : World α).run steps).AsksRead n e
    · obtain ⟨decoder, task, rfl, told⟩ := asks.answers
      obtain ⟨s, found, -, held⟩ := asks
      rw [history_concat, told] at later
      by_cases first : history (answers n) ({} : World α) steps = []
      · rw [first] at later
        cases later
      rw [List.tail_append_of_ne_nil first] at later
      rcases List.mem_append.mp later with earlier | last
      · exact ih earlier
      · obtain rfl := List.mem_singleton.mp last
        intro granted
        exact ((read_run found held decoder task).1.mp granted).2 (asked_of_answers first)
    · rw [history_concat, answers_eq_nil asks, List.append_nil] at later
      exact ih later

end World

open World in
/-- What calls for a read of a socket are told, over any run and through any handles. The first call
is granted unless the socket was cancelled before. Every later call is refused, be the read still
running or at its end, and so is every call after a cancel: with what tells the one from the other.
A refused call changes nothing, so a run does and records the same without all of them. -/
theorem socket_is_read_once (steps : List (Step α)) (n : Nat) :
    let start : World α := {}
    let w := start.run steps
    (∀ s, w.sockets[n]? = some s → s.held ≠ 0 → ∀ decoder task,
      let answer := (w.read n decoder task).2
      (answer = .ok () ↔ ¬SocketCancelled n steps ∧ ¬ReadAsked n steps) ∧
      (answer = .error .alreadyReading ↔ ¬SocketCancelled n steps ∧ ReadAsked n steps) ∧
      (answer = .error .closed ↔ SocketCancelled n steps) ∧
      (answer ≠ .ok () → (w.read n decoder task).1 = w)) ∧
    (∀ answer ∈ (history (answers n) start steps).tail, answer ≠ .ok ()) ∧
    start.run (history heard start steps) = w ∧
      start.log (history heard start steps) = start.log steps := by
  intro start w
  refine ⟨fun s found held decoder task => ?_, fun answer => refused_of_tail,
    start.run_heard steps⟩
  obtain ⟨granted, again, closed⟩ := read_run found held decoder task
  exact ⟨granted, again, closed, fst_read⟩

/-- A socket is connected, cloned and read, once more while it is read, and once more after the end
of its stream; then it is closed and read again. -/
def readAgain : List (Step (List UInt8)) :=
  let near := SocketAddr.near 80
  [.connect 0 (.toAddress { schedulee := 1 } near),
    .pollConnect 0 (.attempted { ready := some (.ok (.ok ⟨near, near⟩)) }), .take 0,
    .cloneSocket 0, .read 0 .bytes { schedulee := 2 }, .read 0 .bytes { schedulee := 3 },
    .pollRead 0 { ready := some (.ok []) }, .read 0 .bytes { schedulee := 4 }, .cancelSocket 0,
    .read 0 .bytes { schedulee := 5 }]

open World in
/-- Of its four calls the first is granted, and the others leave no trace. -/
theorem socket_is_read_once_of_read_again :
    history (answers 0) {} readAgain =
      [.ok (), .error .alreadyReading, .error .alreadyReading, .error .closed] ∧
    (history heard {} readAgain).length = 7 ∧
    log {} (history heard {} readAgain) = log {} readAgain ∧
    ∃ s, (run {} readAgain).sockets[0]? = some s ∧ s.held ≠ 0 ∧
      (read (run {} readAgain) 0 .bytes { schedulee := 6 }).2 = .error .closed ∧
      SocketCancelled 0 readAgain := by
  obtain ⟨calls, -, -, log⟩ := socket_is_read_once readAgain 0
  obtain ⟨-, -, closed, -⟩ := calls _ rfl (by decide) .bytes { schedulee := 6 }
  exact ⟨rfl, rfl, log, _, rfl, by decide, rfl, closed.mp rfl⟩

end SocketBridge
