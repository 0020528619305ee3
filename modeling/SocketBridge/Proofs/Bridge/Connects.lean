import Mathlib.Data.List.Induction
import SocketBridge.Proofs.Bridge.Reports
import SocketBridge.Proofs.Bridge.Silence
import SocketBridge.Proofs.Connect

/-!
# The contract of connects

What the host is asked for a connect, and what is recorded of it, are histories of one run. As long
as there is no record the connect stands where its attempts have brought it, or was cancelled there;
the record tells what they have come to.
-/

namespace SocketBridge

variable {α : Type}

/-- What a step answers to a connect. -/
def Step.answer? (c : Nat) : Step α → Option ConnectAnswer
  | .pollConnect m answer => if m = c then some answer else none
  | _ => none

theorem Step.eq_pollConnect {c : Nat} {e : Step α} {answer : ConnectAnswer}
    (answered : e.answer? c = some answer) : e = .pollConnect c answer := by
  cases e with
  | pollConnect m given =>
    by_cases own : m = c
    · rw [answer?, if_pos own] at answered
      rw [own, Option.some.inj answered]
    · rw [answer?, if_neg own] at answered
      cases answered
  | _ => cases answered

namespace World

/-- What a step tells a connect that waits for its lookup. -/
def learns (c : Nat) (w : World α) (e : Step α) : List LookupAnswer :=
  match w.want (.connect c), e.answer? c with
  | .lookup _, some (.found addresses) => [addresses]
  | _, _ => []

/-- The attempt that a step polls for a connect that waits for it. -/
def tries (c : Nat) (w : World α) (e : Step α) : List (SocketAddr × AttemptPoll) :=
  match w.want (.connect c), e.answer? c with
  | .connect a, some (.attempted poll) => [(a, poll)]
  | _, _ => []

def lookups (c : Nat) : World α → List (Step α) → List LookupAnswer := history (learns c)

def attempts (c : Nat) : World α → List (Step α) → List (SocketAddr × AttemptPoll) :=
  history (tries c)

variable {w : World α} {c : Nat} {slot slot' : ConnectSlot} {e : Step α}

/-- A step that adds nothing to the histories of a connect. -/
structure Passes (w : World α) (c : Nat) (e : Step α) : Prop where
  learns : w.learns c e = []
  tries : w.tries c e = []
  tells : w.tellsOf (.connect c) e = []

theorem passes_of_unpolled (unpolled : e.answer? c = none) : w.Passes c e := by
  refine ⟨?_, ?_, ?_⟩
  · unfold learns
    cases w.want (.connect c) <;> simp [unpolled]
  · unfold tries
    cases w.want (.connect c) <;> simp [unpolled]
  · unfold tellsOf
    split
    · rename_i own
      cases e with
      | pollConnect m answer =>
        cases own
        simp [Step.answer?] at unpolled
      | _ => cases own
    · rfl

theorem want_connect (found : w.connects[c]? = some slot) :
    w.want (.connect c) = wantOfConnect c slot := by
  rw [want, found, Option.elim_some]

/-- Nothing more is to come of a connect: it has ended or is cancelled. -/
def ConnectDone (w : World α) (c : Nat) : Prop :=
  ∃ slot, w.connects[c]? = some slot ∧ (slot.running = none ∨ slot.cancelled = true)

theorem ConnectDone.step (done : w.ConnectDone c) (e : Step α) : (w.step e).ConnectDone c := by
  obtain ⟨slot, found, ended⟩ := done
  obtain ⟨slot', found', moves⟩ := connect_step found e
  refine ⟨slot', found', ?_⟩
  rcases ended with finished | cancelled
  · cases moves with
    | apart | cancels | ended => exact .inl finished
    | turns running runs => cases finished.symm.trans runs
  · exact .inr (moves.cancelled cancelled)

/-- Such a connect asks for nothing. -/
theorem ConnectDone.asks (done : w.ConnectDone c) :
    w.want (.connect c) = .nothing ∨ ∃ e, w.want (.connect c) = .turn e := by
  obtain ⟨slot, found, finished | cancelled⟩ := done
  · rw [want_connect found, wantOfConnect, finished]
    exact .inl rfl
  · rw [want_connect found, wantOfConnect, cancelled]
    cases slot.running with
    | none => exact .inl rfl
    | some running => exact .inr ⟨_, rfl⟩

theorem ConnectDone.passes (done : w.ConnectDone c) (e : Step α) : w.Passes c e := by
  have asks := done.asks
  obtain ⟨slot, found, ended⟩ := done
  refine ⟨?_, ?_, ?_⟩
  · rcases asks with nothing | ⟨_, turn⟩
    · rw [World.learns, nothing]
    · rw [World.learns, turn]
  · rcases asks with nothing | ⟨_, turn⟩
    · rw [World.tries, nothing]
    · rw [World.tries, turn]
  · rw [tellsOf]
    split
    · rename_i own
      exact List.eq_nil_iff_forall_not_mem.mpr fun r pushed =>
        not_tells_of_connect found ended own (tells_of_pushes pushed)
    · rfl

/-- After its end nothing is added to the histories of a connect. -/
theorem ConnectDone.frozen (done : w.ConnectDone c) (future : List (Step α)) :
    w.lookups c future = [] ∧ w.attempts c future = [] ∧ w.told (.connect c) future = [] := by
  have keeps (w : World α) (e : Step α) (done : w.ConnectDone c) :
      (w.step e).ConnectDone c ∧ w.Passes c e := ⟨done.step e, done.passes e⟩
  exact ⟨history_eq_nil (fun w e done => (keeps w e done).imp_right Passes.learns) done future,
    history_eq_nil (fun w e done => (keeps w e done).imp_right Passes.tries) done future,
    history_eq_nil (fun w e done => (keeps w e done).imp_right Passes.tells) done future⟩

/-- A turn of a connect that is not cancelled adds to its histories what its state asks for. -/
theorem histories_pollConnect {running : Connect} (found : w.connects[c]? = some slot)
    (runs : slot.running = some running) (live : slot.cancelled = false) (answer : ConnectAnswer) :
    w.learns c (.pollConnect c answer) = running.learns answer ∧
      w.tries c (.pollConnect c answer) = running.tries answer ∧
      w.tellsOf (.connect c) (.pollConnect c answer) =
        ((running.turn false answer).result.map fun result => (running.task.queue,
          .connect (.ofResult running.task.schedulee w.sockets.length result))).toList := by
  have asks := want_connect found
  have own : (Step.pollConnect (α := α) c answer).answer? c = some answer := if_pos rfl
  obtain ⟨task, stage, tried⟩ := running
  simp only [wantOfConnect, runs, live, Bool.false_eq_true, if_false] at asks
  refine ⟨?_, ?_, ?_⟩
  · rw [World.learns, own, asks]
    rcases stage with _ | ⟨_ | _, _⟩ <;> cases answer <;> rfl
  · rw [World.tries, own, asks]
    rcases stage with _ | ⟨_ | _, _⟩ <;> cases answer <;> rfl
  · rw [tellsOf, Step.owner?, if_pos rfl, pushes_eq (queues_pollConnect found runs answer), live]

variable {dest : Destination} {task : Task} {looked : List LookupAnswer}
  {polls : List (SocketAddr × AttemptPoll)} {told : List (Nat × Completion α)}

/-- Where a connect stands, in terms of its histories: it goes on, or was cancelled before it came
to a result, or its one record tells the result. -/
inductive Stands (w : World α) (dest : Destination) (task : Task) (slot : ConnectSlot)
    (looked : List LookupAnswer) (polls : List (SocketAddr × AttemptPoll)) :
    List (Nat × Completion α) → Prop
  | goesOn (running : Connect) (runs : slot.running = some running)
      (carries : Carries dest task running looked (endings polls)) :
    Stands w dest task slot looked polls []
  | stopped (finished : slot.running = none) (cancelled : slot.cancelled = true)
      (undecided : Undecided dest looked (endings polls)) :
    Stands w dest task slot looked polls []
  | reported (finished : slot.running = none) (targets : List SocketAddr)
      (result : Except String Link) (record : ConnectRecord)
      (known : dest.targets? looked = some targets)
      (concludes : Concludes targets (endings polls) result)
      (own : record.schedulee = task.schedulee) (reports : w.Reports (.connect record) result) :
    Stands w dest task slot looked polls [(task.queue, .connect record)]

/-- A step that does not run a connect leaves it where it stands. -/
theorem Stands.step_of_same (stands : w.Stands dest task slot looked polls told) (e : Step α)
    (same : slot'.running = slot.running)
    (kept : slot.cancelled = true → slot'.cancelled = true) :
    (w.step e).Stands dest task slot' looked polls told := by
  cases stands with
  | goesOn running runs carries => exact .goesOn running (same.trans runs) carries
  | stopped finished cancelled undecided =>
    exact .stopped (same.trans finished) (kept cancelled) undecided
  | reported finished targets result record known concludes own reports =>
    exact .reported (same.trans finished) targets result record known concludes own (reports.step e)

/-- A turn of a connect that is not cancelled carries it on, or ends it with its one record. -/
theorem stands_of_turn {running : Connect} (found : w.connects[c]? = some slot)
    (runs : slot.running = some running) (live : slot.cancelled = false)
    (carries : Carries dest task running looked (endings polls)) (answer : ConnectAnswer) :
    (w.step (.pollConnect c answer)).Stands dest task
      { slot with
        running := (running.turn slot.cancelled answer).next
        cancelled := slot.cancelled || answer.cancels }
      (looked ++ w.learns c (.pollConnect c answer)) (polls ++ w.tries c (.pollConnect c answer))
      (w.tellsOf (.connect c) (.pollConnect c answer)) := by
  obtain ⟨learned, tried, tells⟩ := histories_pollConnect found runs live answer
  have reports {result : Except String Link}
      (turned : (running.turn slot.cancelled answer).result = some result) :=
    reports_pollConnect found runs answer turned
  have turns := carries.turn answer
  rw [← endings_append] at turns
  rw [live] at reports
  rw [learned, tried, tells, live]
  generalize running.turn false answer = turn at turns reports
  cases turns with
  | goesOn next carries => exact .goesOn next rfl carries
  | stops cancels undecided => exact .stopped rfl cancels undecided
  | ends result targets known concludes =>
    rw [Option.map_some, Option.toList_some, carries.task_eq]
    rw [carries.task_eq] at reports
    exact .reported rfl targets result _ known concludes (ConnectRecord.schedulee_ofResult ..)
      (reports rfl)

/-- The histories of a connect agree with its state. -/
structure ConnectAccounts (w : World α) (c : Nat) (dest : Destination) (task : Task)
    (looked : List LookupAnswer) (polls : List (SocketAddr × AttemptPoll))
    (told : List (Nat × Completion α)) : Prop where
  orderly : Orderly dest looked polls
  stands : ∃ slot, w.connects[c]? = some slot ∧ w.Stands dest task slot looked polls told

theorem ConnectAccounts.step (accounts : w.ConnectAccounts c dest task looked polls told)
    (e : Step α) :
    (w.step e).ConnectAccounts c dest task (looked ++ w.learns c e) (polls ++ w.tries c e)
      (told ++ w.tellsOf (.connect c) e) := by
  obtain ⟨orderly, slot, found, stands⟩ := accounts
  obtain ⟨slot', found', moves⟩ := connect_step found e
  have passing (passes : w.Passes c e)
      (stands' : (w.step e).Stands dest task slot' looked polls told) :
      (w.step e).ConnectAccounts c dest task (looked ++ w.learns c e) (polls ++ w.tries c e)
        (told ++ w.tellsOf (.connect c) e) := by
    rw [passes.learns, passes.tries, passes.tells, List.append_nil, List.append_nil,
      List.append_nil]
    exact ⟨orderly, slot', found', stands'⟩
  cases moves with
  | apart e other =>
    refine passing (passes_of_unpolled ?_) (stands.step_of_same e rfl id)
    cases answered : e.answer? c with
    | none => rfl
    | some answer =>
      rw [Step.eq_pollConnect answered] at other
      exact absurd rfl other
  | cancels => exact passing (passes_of_unpolled rfl) (stands.step_of_same _ rfl fun _ => rfl)
  | ended answer finished =>
    exact passing (ConnectDone.passes ⟨_, found, .inl finished⟩ _) (stands.step_of_same _ rfl id)
  | turns running runs answer =>
    -- only here does the connect run, and only if no cancel is found before the poll
    cases stands with
    | stopped finished | reported finished => cases runs.symm.trans finished
    | goesOn _ runs' carries =>
      obtain rfl := Option.some.inj (runs'.symm.trans runs)
      cases cancelled : slot.cancelled with
      | true =>
        rw [cancelled] at found' passing
        exact passing (ConnectDone.passes ⟨_, found, .inr cancelled⟩ _)
          (.stopped rfl rfl carries.undecided)
      | false =>
        have turned := stands_of_turn found runs cancelled carries answer
        obtain ⟨learned, tried, -⟩ := histories_pollConnect found runs cancelled answer
        have orderly' := orderly.turn carries answer
        rw [← learned, ← tried] at orderly'
        rw [cancelled] at turned
        rw [cancelled] at found'
        exact ⟨orderly', _, found', turned⟩

theorem connectAccounts_run (w : World α) (bridge : Nat) (dest : Destination) (task : Task)
    (steps : List (Step α)) :
    let c := w.connects.length
    let start := w.step (.connect bridge (dest.start task))
    (start.run steps).ConnectAccounts c dest task (start.lookups c steps) (start.attempts c steps)
      (start.told (.connect c) steps) := by
  intro c start
  induction steps using List.reverseRecOn with
  | nil =>
    have found : start.connects[c]? = some { bridge, running := some (dest.start task) } :=
      List.getElem?_concat_length
    exact ⟨.nil dest, _, found, .goesOn _ rfl (dest.carries_start task)⟩
  | append_singleton past e ih =>
    rw [run_concat, lookups, attempts, told, history_concat, history_concat, history_concat]
    exact ih.step e

/-- There is no record and no result, or one record that tells the result. -/
theorem Stands.outcome (stands : w.Stands dest task slot looked polls told) :
    (told = [] ∧ ∀ targets, dest.targets? looked = some targets →
      ∀ result, ¬Concludes targets (endings polls) result) ∨
    ∃ targets result record, dest.targets? looked = some targets ∧
      Concludes targets (endings polls) result ∧ told = [(task.queue, .connect record)] ∧
      record.schedulee = task.schedulee ∧ record.error.isSome = record.connection.isNone ∧
      w.Reports (.connect record) result := by
  cases stands with
  | goesOn running runs carries =>
    exact .inl ⟨rfl, fun targets known => carries.undecided.not_concludes known⟩
  | stopped finished cancelled undecided =>
    exact .inl ⟨rfl, fun targets known => undecided.not_concludes known⟩
  | reported finished targets result record known concludes own reports =>
    exact .inr ⟨targets, result, record, known, concludes, rfl, own, reports.error_or_connection,
      reports⟩

/-- What a connect without a record waits for. -/
theorem Stands.asks (found : w.connects[c]? = some slot)
    (stands : w.Stands dest task slot looked polls told) (untold : told = [])
    (live : slot.cancelled = false) :
    (∃ host port, dest = .name host port ∧ dest.targets? looked = none ∧
      w.want (.connect c) = .lookup host) ∨
    ∃ targets a, dest.targets? looked = some targets ∧ Continues targets (endings polls) a ∧
      w.want (.connect c) = .connect a := by
  have asks := want_connect found
  cases stands with
  | stopped finished cancelled undecided => cases live.symm.trans cancelled
  | reported => cases untold
  | goesOn running runs carries =>
    simp only [wantOfConnect, runs, live, Bool.false_eq_true, if_false] at asks
    generalize endings polls = ended at carries
    cases carries with
    | lookup host port named unnumbered =>
      exact .inl ⟨host, port, named, named ▸ Destination.targets?_of_name unnumbered, asks⟩
    | attempts looked failed a after text known =>
      exact .inr ⟨_, a, known, .next failed a after, asks⟩

theorem Stands.done (found : w.connects[c]? = some slot)
    (stands : w.Stands dest task slot looked polls told)
    (ended : told ≠ [] ∨ slot.cancelled = true) : w.ConnectDone c := by
  refine ⟨slot, found, ?_⟩
  cases stands with
  | goesOn => exact .inr (ended.resolve_left fun more => more rfl)
  | stopped finished | reported finished => exact .inl finished

/-- A lookup that finds nothing ends the connect at once. -/
theorem Stands.unresolved (stands : w.Stands dest task slot looked polls told)
    (nowhere : dest.targets? looked = some []) :
    ∃ record, told = [(task.queue, .connect record)] ∧ record.error = some unresolvedHost := by
  have decided : ¬Undecided dest looked (endings polls) := by
    rintro (⟨unknown, -⟩ | ⟨targets, a, known, continues⟩)
    · cases nowhere.symm.trans unknown
    · obtain rfl := Option.some.inj (known.symm.trans nowhere)
      exact not_continues_nil continues
  cases stands with
  | goesOn running runs carries => exact absurd carries.undecided decided
  | stopped finished cancelled undecided => exact absurd undecided decided
  | reported finished targets result record known concludes own reports =>
    obtain rfl := Option.some.inj (known.symm.trans nowhere)
    obtain rfl := concludes.of_nil
    exact ⟨record, rfl, reports.2.1⟩

end World

open World in
/-- However a run goes on after a connect to any destination was started: there is no record of it
and its attempts have come to no result, or there is exactly one, which goes where the task says and
tells their result. Without a record and without a cancel the host is still asked for the lookup or
for the next target. Nothing is tried out of turn, or without a target; and after the record or a
cancel nothing at all is looked up, tried or recorded. -/
theorem connect_contract (w : World α) (bridge : Nat) (dest : Destination) (task : Task)
    (steps : List (Step α)) :
    let c := w.connects.length
    let start := w.step (.connect bridge (dest.start task))
    let later := start.run steps
    let looked := start.lookups c steps
    let polls := start.attempts c steps
    let told := start.told (.connect c) steps
    looked.length ≤ 1 ∧
    (dest.targets? looked = none → polls = []) ∧
    (dest.targets? looked = some [] → polls = [] ∧ ∃ record,
      told = [(task.queue, .connect record)] ∧ record.error = some unresolvedHost) ∧
    (∀ targets, dest.targets? looked = some targets → InTurn targets polls) ∧
    ((told = [] ∧ ∀ targets, dest.targets? looked = some targets →
        ∀ result, ¬Concludes targets (endings polls) result) ∨
      ∃ targets result record, dest.targets? looked = some targets ∧
        Concludes targets (endings polls) result ∧ told = [(task.queue, .connect record)] ∧
        record.schedulee = task.schedulee ∧ record.error.isSome = record.connection.isNone ∧
        later.Reports (.connect record) result) ∧
    ∃ slot, later.connects[c]? = some slot ∧
      (told = [] → slot.cancelled = false →
        (∃ host port, dest = .name host port ∧ dest.targets? looked = none ∧
          later.want (.connect c) = .lookup host) ∨
        ∃ targets a, dest.targets? looked = some targets ∧ Continues targets (endings polls) a ∧
          later.want (.connect c) = .connect a) ∧
      (told ≠ [] ∨ slot.cancelled = true → ∀ future, later.lookups c future = [] ∧
        later.attempts c future = [] ∧ later.told (.connect c) future = []) := by
  intro c start later looked polls told
  obtain ⟨orderly, slot, found, stands⟩ := connectAccounts_run w bridge dest task steps
  refine ⟨orderly.once, orderly.early, fun nowhere => ?_, orderly.inTurn, stands.outcome, slot,
    found, stands.asks found, fun ended => (stands.done found ended).frozen⟩
  exact ⟨(orderly.inTurn [] nowhere).eq_nil, stands.unresolved nowhere⟩

/-- Of three targets the first refuses and the second answers. The third is not tried. -/
example :
    let near := SocketAddr.near 80
    let start : World (List UInt8) :=
      World.step {} (.connect 0 ((Destination.name "host" 80).start { schedulee := 1 }))
    let steps : List (Step (List UInt8)) :=
      [.pollConnect 0 (.found (.ok [near, .near 81, .near 82])),
        .pollConnect 0 (.attempted { ready := some (.error "refused") }),
        .pollConnect 0 (.attempted { ready := some (.ok (.ok ⟨near, near⟩)) }),
        .pollConnect 0 (.attempted { ready := some (.error "refused") })]
    start.told (.connect 0) steps = [(0, .connect { schedulee := 1, connection := some 0 })] ∧
      (endings (start.attempts 0 steps)).length = 2 := by
  decide +kernel

end SocketBridge
