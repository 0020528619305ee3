import Mathlib.Data.List.Induction
import SocketBridge.Proofs.Bridge.Held
import SocketBridge.Proofs.Stream.Writer

/-!
# Writes in the order of issue

What is asked of the writing half of a socket, what of it the host is asked to do, and what is
recorded are three histories of one run. While the socket is not cancelled, the second and the line
make up the first, and the third tells the second.
-/

namespace SocketBridge

variable {α : Type}

/-- Where the record of a write goes and whom it resumes. -/
def WriteCommand.address? : WriteCommand → Option (Nat × Nat)
  | .write _ task => some (task.queue, task.schedulee)
  | .shutdown => none

/-- The record of a write has the queue and the schedulee that the write was issued with. -/
theorem Performed.address_record? (p : Performed) :
    p.record?.map (fun r => (r.1, r.2.schedulee)) = p.command.address? := by
  obtain ⟨_ | _, _ | _⟩ := p <;> rfl

/-- The write or half-close that a step asks of a socket. -/
def Step.command? (n : Nat) : Step α → Option WriteCommand
  | .write m data task => if m = n then some (.write data task) else none
  | .shutdownWrite m => if m = n then some .shutdown else none
  | _ => none

/-- What the host says, in a step, to the first command in line of a socket. -/
def Step.outcome? (n : Nat) : Step α → Option (Except String Nat)
  | .pollWrite m answer => if m = n then answer.ready else none
  | _ => none

theorem Step.apart_of_socket? {e : Step α} {n : Nat} (other : e.socket? ≠ some n) :
    e.command? n = none ∧ ∀ answer, e ≠ .pollWrite n answer := by
  cases e with
  | write m data task =>
    have own : m ≠ n := fun same => other (congrArg some same)
    exact ⟨if_neg own, nofun⟩
  | shutdownWrite m =>
    have own : m ≠ n := fun same => other (congrArg some same)
    exact ⟨if_neg own, nofun⟩
  | pollWrite m answer =>
    refine ⟨rfl, fun _ same => other ?_⟩
    cases same
    rfl
  | _ => exact ⟨rfl, nofun⟩

/-- A write record with its queue. -/
def Completion.writeRecord? (r : Nat × Completion α) : Option (Nat × WriteRecord) :=
  match r.2 with
  | .write record => some (r.1, record)
  | _ => none

/-- A write that is recorded as failed has the count zero. -/
theorem Performed.error_record? (p : Performed) {r : Nat × WriteRecord}
    (told : p.record? = some r) :
    r.2.error = none ∨ r.2.error.isSome ∧ r.2.bytesWritten = 0 := by
  obtain ⟨_ | _, _ | _⟩ := p <;> cases told <;> simp

namespace World

/-- What a step asks of the writing half of a socket onto which the program has a handle. -/
def issues (n : Nat) (w : World α) (e : Step α) : List WriteCommand :=
  match w.sockets[n]? with
  | none => []
  | some s => if s.held = 0 then [] else (e.command? n).toList

/-- What a step asks the host for: the first command in line, once the host has an answer. -/
def performs (n : Nat) (w : World α) (e : Step α) : List Performed :=
  match w.sockets[n]?, e.outcome? n with
  | some s, some outcome =>
    if s.cancelled then [] else (s.writer.commands.head?.map (⟨·, outcome⟩)).toList
  | _, _ => []

/-- The write records that a step pushes for a socket. -/
def writeEntries (n : Nat) (w : World α) (e : Step α) : List (Nat × WriteRecord) :=
  if e.owner? = some (.socket n) then (w.pushes e).filterMap Completion.writeRecord? else []

def issued (n : Nat) : World α → List (Step α) → List WriteCommand := history (issues n)

def performed (n : Nat) : World α → List (Step α) → List Performed := history (performs n)

def writeRecords (n : Nat) : World α → List (Step α) → List (Nat × WriteRecord) :=
  history (writeEntries n)

variable {w : World α} {n : Nat} {s s' : Socket α} {e : Step α}

/-- What a step does to the writing half of a socket that is not cancelled, in terms of what it adds
to the histories. -/
structure Advances (w : World α) (n : Nat) (e : Step α) (a b : Writer) : Prop where
  line : (w.performs n e).map Performed.command ++ b.commands = a.commands ++ w.issues n e
  told : w.writeEntries n e = (w.performs n e).filterMap Performed.record?
  taken : b.taken = a.taken ++ (w.performs n e).flatMap Performed.bytes
  halfClosed : b.halfClosed = (a.halfClosed || (w.performs n e).any Performed.halfCloses)
  stopped : b.running = false → b.commands = [] ∧ w.socketHandles n = 0

theorem issues_of_uncommanded (w : World α) (uncommanded : e.command? n = none) :
    w.issues n e = [] := by
  unfold issues
  cases w.sockets[n]? with
  | none => rfl
  | some s => simp [uncommanded]

theorem performs_of_unanswered (w : World α) (unanswered : e.outcome? n = none) :
    w.performs n e = [] := by
  unfold performs
  cases w.sockets[n]? <;> simp [unanswered]

theorem performs_cases (w : World α) (n : Nat) (e : Step α) :
    w.performs n e = [] ∨ ∃ p, w.performs n e = [p] := by
  unfold performs
  split
  · rename_i s outcome _ _
    split
    · exact .inl rfl
    · cases s.writer.commands.head? with
      | none => exact .inl rfl
      | some command => exact .inr ⟨_, rfl⟩
  · exact .inl rfl

/-- The records of a writer's turn. -/
theorem pushes_pollWrite (found : w.sockets[n]? = some s) (answer : Poll Nat String) :
    w.pushes (.pollWrite n answer) =
      (w.writeEntries n (.pollWrite n answer)).map fun r => (r.1, .write r.2) := by
  simp only [writeEntries, Step.owner?, if_true, pushes_eq (queues_pollWrite found answer)]
  split
  · cases (s.writer.turn s.cancelled (w.socketHandles n == 0) answer).record <;> rfl
  · rfl

theorem writeEntries_eq_nil
    (silent : e.owner? = some (.socket n) → ∀ queue record, ¬w.Tells e (queue, .write record)) :
    w.writeEntries n e = [] := by
  unfold writeEntries
  split
  · rename_i own
    refine List.filterMap_eq_nil_iff.mpr fun r pushed => ?_
    obtain ⟨queue, record⟩ := r
    cases record with
    | connect | accept | read => rfl
    | write record => exact absurd (tells_of_pushes pushed) (silent own queue record)
  · rfl

/-- Without a turn of the writer there is no record, as long as a handle keeps the line open. -/
theorem writeEntries_of_unpolled (unpolled : ∀ answer, e ≠ .pollWrite n answer)
    (found : w.sockets[n]? = some s) (kept : s.held ≠ 0 → s.writer.running = true) :
    w.writeEntries n e = [] := by
  refine writeEntries_eq_nil fun own queue record tells => ?_
  cases tells with
  | writeTurn =>
    cases own
    exact absurd rfl (unpolled _)
  | refused data task found' held closed live =>
    cases own
    obtain rfl := Option.some.inj (found.symm.trans found')
    exact nomatch (kept held).symm.trans closed

/-- A step without a turn of the writer puts in line what it issues. -/
theorem Advances.of_unpolled {a b : Writer} (unpolled : ∀ answer, e ≠ .pollWrite n answer)
    (found : w.sockets[n]? = some s) (kept : s.held ≠ 0 → s.writer.running = true)
    (line : b.commands = a.commands ++ w.issues n e) (taken : b.taken = a.taken)
    (halfClosed : b.halfClosed = a.halfClosed)
    (stopped : b.running = false → b.commands = [] ∧ w.socketHandles n = 0) :
    w.Advances n e a b := by
  have unanswered : w.performs n e = [] := by
    refine w.performs_of_unanswered ?_
    cases e with
    | pollWrite m answer =>
      have own : m ≠ n := fun same => unpolled answer (congrArg (Step.pollWrite · answer) same)
      simp [Step.outcome?, own]
    | _ => rfl
  have untold := writeEntries_of_unpolled unpolled found kept
  refine ⟨?_, ?_, ?_, ?_, stopped⟩
  · simp [unanswered, line]
  · simp [unanswered, untold]
  · simp [unanswered, taken]
  · simp [unanswered, halfClosed]

theorem issues_of_ignored (found : w.sockets[n]? = some s)
    (kept : s.held ≠ 0 → s.writer.running = true) (ignored : s.Ignores e) :
    w.issues n e = [] := by
  simp only [issues, found]
  split
  · rfl
  · rename_i held
    cases e with
    | write | shutdownWrite => exact absurd (kept held) (by simp [ignored.resolve_left held])
    | _ => rfl

/-- A turn of the writer carries out the first command in line, or finds nothing to do. -/
theorem advances_pollWrite (found : w.sockets[n]? = some s) (live : s.cancelled = false)
    (running : s.writer.running = true) (answer : Poll Nat String)
    (live' : answer.cancels = false) :
    w.Advances n (.pollWrite n answer) s.writer
      (s.writer.turn s.cancelled (w.socketHandles n == 0) answer).next := by
  have unasked := w.issues_of_uncommanded (n := n) (e := .pollWrite n answer) rfl
  have told := pushes_eq (queues_pollWrite found answer)
  rw [if_pos running, live] at told
  rw [live]
  have turns := s.writer.turn_does (w.socketHandles n == 0) live'
  generalize s.writer.turn false (w.socketHandles n == 0) answer = turn at turns told
  cases turns with
  | idles line =>
    have unanswered : w.performs n (.pollWrite n answer) = [] := by
      cases ready : answer.ready <;> simp [World.performs, found, Step.outcome?, ready, line]
    have untold : w.writeEntries n (.pollWrite n answer) = [] := by simp [writeEntries, told]
    split
    · rename_i unheld
      refine ⟨?_, ?_, ?_, ?_, fun _ => ⟨rfl, beq_iff_eq.mp unheld⟩⟩ <;>
        simp [unasked, unanswered, untold, Writer.stop, line]
    · refine ⟨?_, ?_, ?_, ?_, fun still => nomatch running.symm.trans still⟩ <;>
        simp [unasked, unanswered, untold]
  | waits line pending =>
    have unanswered := w.performs_of_unanswered (n := n) (e := .pollWrite n answer)
      (by simpa [Step.outcome?] using pending)
    have untold : w.writeEntries n (.pollWrite n answer) = [] := by simp [writeEntries, told]
    refine ⟨?_, ?_, ?_, ?_, fun still => nomatch running.symm.trans still⟩ <;>
      simp [unasked, unanswered, untold]
  | performs p rest line ready record recorded written =>
    have answered : w.performs n (.pollWrite n answer) = [p] := by
      simp [World.performs, found, Step.outcome?, ready, live, line]
    have entries : w.writeEntries n (.pollWrite n answer) = p.record?.toList := by
      rw [← recorded]
      simp only [writeEntries, Step.owner?, if_true, told]
      cases record <;> rfl
    refine ⟨?_, ?_, ?_, ?_, fun still => nomatch running.symm.trans still⟩
    · simp [answered, unasked, line]
    · rw [entries, answered, List.filterMap_cons]
      cases p.record? <;> rfl
    · simp [answered]
    · simp [answered]

/-- A socket that is not cancelled after a step was not cancelled before, if it was there. -/
theorem live_before (found : w.sockets[n]? = some s) (found' : (w.step e).sockets[n]? = some s')
    (live' : s'.cancelled = false) : s.cancelled = false := by
  obtain ⟨_, same, moves⟩ := moves_step found e
  obtain rfl := Option.some.inj (found'.symm.trans same)
  cases cancelled : s.cancelled with
  | false => rfl
  | true => exact nomatch live'.symm.trans (moves.cancelled cancelled)

/-- What a step does to the writing half of a socket that is still not cancelled after it. -/
theorem advances_step (found : w.sockets[n]? = some s)
    (stopped : s.writer.running = false → s.writer.commands = [] ∧ w.socketHandles n = 0)
    (found' : (w.step e).sockets[n]? = some s') (live' : s'.cancelled = false) :
    w.Advances n e s.writer s'.writer := by
  obtain ⟨_, same, moves⟩ := moves_step found e
  obtain rfl := Option.some.inj (found'.symm.trans same)
  have live := live_before found found' live'
  have kept (held : s.held ≠ 0) : s.writer.running = true := by
    cases closed : s.writer.running with
    | true => rfl
    | false => exact absurd ((socketHandles_eq_zero found).mp (stopped closed).2).1 held
  cases moves with
  | apart e held other more source =>
    obtain ⟨uncommanded, unpolled⟩ := Step.apart_of_socket? other
    exact .of_unpolled unpolled found kept (by simp [w.issues_of_uncommanded uncommanded]) rfl rfl
      stopped
  | ignores e own ignored =>
    have unasked := issues_of_ignored found kept ignored
    by_cases polled : ∃ answer, e = .pollWrite n answer
    · obtain ⟨answer, rfl⟩ := polled
      have closed : s.writer.running = false := ignored
      obtain ⟨line, _⟩ := stopped closed
      have unanswered : w.performs n (.pollWrite n answer) = [] := by
        cases ready : answer.ready <;> simp [performs, found, Step.outcome?, ready, line]
      have silent := pushes_eq (queues_pollWrite found answer)
      rw [if_neg (by simp [closed])] at silent
      refine ⟨?_, ?_, ?_, ?_, stopped⟩ <;> simp [unasked, unanswered, writeEntries, silent]
    · exact .of_unpolled (fun answer he => polled ⟨answer, he⟩) found kept (by simp [unasked]) rfl
        rfl stopped
  | reads decoder task held live readable =>
    have unasked := w.issues_of_uncommanded (n := n) (e := .read n decoder task) rfl
    exact .of_unpolled nofun found kept (by simp [unasked]) rfl rfl stopped
  | writes data task held running =>
    refine .of_unpolled nofun found kept ?_ rfl rfl fun still => nomatch running.symm.trans still
    simp [issues, found, held, Step.command?, Writer.push]
  | shuts held running =>
    refine .of_unpolled nofun found kept ?_ rfl rfl fun still => nomatch running.symm.trans still
    simp [issues, found, held, Step.command?, Writer.push]
  | cancels held => cases live'
  | readTurn r reading answer =>
    have same : ({ s with reading := (r.turn s.cancelled answer).next }.cancelIf
        answer.cancels).writer = s.writer := by
      unfold Socket.cancelIf
      split <;> rfl
    rw [same]
    have unasked := w.issues_of_uncommanded (n := n) (e := .pollRead n answer) rfl
    exact .of_unpolled nofun found kept (by simp [unasked]) rfl rfl stopped
  | writeTurn running answer =>
    cases cancels : answer.cancels with
    | true =>
      rw [cancels] at live'
      cases live'
    | false => exact advances_pollWrite found live running answer cancels

/-- The histories of a run in terms of the writing half that it leaves. -/
structure Accounts (n : Nat) (steps : List (Step α)) (s : Socket α) : Prop where
  line : (performed n {} steps).map Performed.command ++ s.writer.commands = issued n {} steps
  told : writeRecords n {} steps = (performed n {} steps).filterMap Performed.record?
  taken : s.writer.taken = (performed n {} steps).flatMap Performed.bytes
  halfClosed : s.writer.halfClosed = (performed n {} steps).any Performed.halfCloses
  stopped : s.writer.running = false →
    s.writer.commands = [] ∧ (run {} steps).socketHandles n = 0

/-- Nothing happens to a socket that was not opened yet. -/
theorem untouched_step (missing : w.sockets[n]? = none) (e : Step α) :
    w.issues n e = [] ∧ w.performs n e = [] ∧ w.writeEntries n e = [] := by
  refine ⟨by simp [issues, missing], by simp [performs, missing], ?_⟩
  refine writeEntries_eq_nil fun own queue record tells => ?_
  cases tells with
  | writeTurn _ _ found | refused _ _ found =>
    cases own
    exact nomatch missing.symm.trans found

theorem missing_of_step (missing : (w.step e).sockets[n]? = none) : w.sockets[n]? = none := by
  cases found : w.sockets[n]? with
  | none => rfl
  | some s =>
    obtain ⟨s', found', -⟩ := moves_step found e
    exact nomatch missing.symm.trans found'

theorem untouched_run (steps : List (Step α)) (missing : (w.run steps).sockets[n]? = none) :
    w.sockets[n]? = none ∧
      w.issued n steps = [] ∧ w.performed n steps = [] ∧ w.writeRecords n steps = [] := by
  induction steps generalizing w with
  | nil => exact ⟨missing, rfl, rfl, rfl⟩
  | cons e steps ih =>
    obtain ⟨next, asked, answered, told⟩ := ih missing
    have missing' := missing_of_step next
    obtain ⟨unasked, unanswered, untold⟩ := untouched_step missing' e
    refine ⟨missing', ?_, ?_, ?_⟩
    · simpa [issued, history, unasked] using asked
    · simpa [performed, history, unanswered] using answered
    · simpa [writeRecords, history, untold] using told

theorem issued_concat (past : List (Step α)) (e : Step α) :
    w.issued n (past ++ [e]) = w.issued n past ++ (w.run past).issues n e :=
  history_concat ..

theorem performed_concat (past : List (Step α)) (e : Step α) :
    w.performed n (past ++ [e]) = w.performed n past ++ (w.run past).performs n e :=
  history_concat ..

theorem writeRecords_concat (past : List (Step α)) (e : Step α) :
    w.writeRecords n (past ++ [e]) = w.writeRecords n past ++ (w.run past).writeEntries n e :=
  history_concat ..

theorem Accounts.step {past : List (Step α)} (accounts : Accounts n past s)
    (found : (run {} past).sockets[n]? = some s)
    (found' : (run {} (past ++ [e])).sockets[n]? = some s') (live' : s'.cancelled = false) :
    Accounts n (past ++ [e]) s' := by
  rw [run_concat] at found'
  have advances := advances_step found accounts.stopped found' live'
  refine ⟨?_, ?_, ?_, ?_, fun closed => ?_⟩
  · rw [performed_concat, issued_concat, ← accounts.line, List.map_append, List.append_assoc,
      advances.line, List.append_assoc]
  · rw [writeRecords_concat, performed_concat, accounts.told, advances.told,
      List.filterMap_append]
  · rw [performed_concat, advances.taken, accounts.taken, List.flatMap_append]
  · rw [performed_concat, advances.halfClosed, accounts.halfClosed, List.any_append]
  · obtain ⟨line, unheld⟩ := advances.stopped closed
    rw [run_concat]
    exact ⟨line, socketHandles_step_of_zero found unheld e⟩

theorem accounts_run (steps : List (Step α)) {s : Socket α}
    (found : (run {} steps).sockets[n]? = some s) (live : s.cancelled = false) :
    Accounts n steps s := by
  induction steps using List.reverseRecOn generalizing s with
  | nil => cases found
  | append_singleton past e ih =>
    cases before : (run {} past).sockets[n]? with
    | some a =>
      have live' := live_before before (by rwa [← run_concat]) live
      exact (ih before live').step before found live
    | none =>
      obtain ⟨-, asked, answered, told⟩ := untouched_run past before
      obtain ⟨unasked, unanswered, untold⟩ := untouched_step before e
      rw [run_concat] at found
      obtain ⟨_, old, -⟩ | ⟨-, guard, link, rfl⟩ := moves_or_opens found
      · exact nomatch before.symm.trans old
      refine ⟨?_, ?_, ?_, ?_, fun closed => ?_⟩
      · simp [performed_concat, issued_concat, *]
      · simp [performed_concat, writeRecords_concat, *]
      · simp [performed_concat, *]
      · simp [performed_concat, *]
      · cases closed

/-- The records go where the commands that were carried out say. -/
theorem Accounts.addresses {steps : List (Step α)} (accounts : Accounts n steps s) :
    (writeRecords n {} steps).map (fun r => (r.1, r.2.schedulee)) =
      ((performed n {} steps).map Performed.command).filterMap WriteCommand.address? := by
  rw [accounts.told, List.map_filterMap, List.filterMap_map]
  simp only [Performed.address_record?, Function.comp_def]

/-- What is carried out next is what was issued after all that was carried out before. -/
theorem issued_of_performs {past : List (Step α)} {p : Performed}
    (performs : p ∈ (run {} past).performs n e) :
    ∃ s, (run {} past).sockets[n]? = some s ∧ Accounts n past s ∧
      ∃ rest, issued n {} past =
        (performed n {} past).map Performed.command ++ p.command :: rest := by
  unfold World.performs at performs
  split at performs
  · rename_i s outcome found answered
    split at performs
    · cases performs
    · rename_i live
      have accounts := accounts_run past found (by simpa using live)
      obtain ⟨command, head, rfl⟩ := Option.map_eq_some_iff.mp (Option.mem_toList.mp performs)
      obtain ⟨rest, line⟩ := List.head?_eq_some_iff.mp head
      exact ⟨s, found, accounts, rest, by rw [← accounts.line, line]⟩
  · cases performs

/-- With every answer of the host one more command is carried out, unless none is left. -/
theorem length_performed {past : List (Step α)} {s : Socket α}
    (found : (run {} past).sockets[n]? = some s) (future : List (Step α)) {s' : Socket α}
    (found' : (run {} (past ++ future)).sockets[n]? = some s') (live' : s'.cancelled = false) :
    min (issued n {} past).length
        ((performed n {} past).length + future.countP fun e => (e.outcome? n).isSome) ≤
      (performed n {} (past ++ future)).length := by
  induction future using List.reverseRecOn generalizing s' with
  | nil =>
    rw [List.append_nil, List.countP_nil, Nat.add_zero]
    exact Nat.min_le_right ..
  | append_singleton future e ih =>
    rw [← List.append_assoc] at found' ⊢
    obtain ⟨a, before⟩ : ∃ a, (run {} (past ++ future)).sockets[n]? = some a := by
      cases before : (run {} (past ++ future)).sockets[n]? with
      | some a => exact ⟨a, rfl⟩
      | none =>
        rw [run_append] at before
        exact nomatch (untouched_run future before).1.symm.trans found
    have live := live_before before (by rwa [← run_concat]) live'
    have ih := ih before live
    rw [performed_concat, List.length_append, List.countP_append, List.countP_singleton]
    cases answered : e.outcome? n with
    | none =>
      simp only [Option.isSome_none, Bool.false_eq_true, if_false]
      omega
    | some outcome =>
      simp only [Option.isSome_some, if_true]
      cases line : a.writer.commands with
      | cons command rest =>
        have one : (performs n (run {} (past ++ future)) e).length = 1 := by
          simp [performs, before, answered, live, line]
        omega
      | nil =>
        -- all that was ever issued is carried out
        have all := congrArg List.length (accounts_run _ before live).line
        rw [line, List.append_nil, List.length_map, issued, history_append, List.length_append]
          at all
        rw [issued] at ih ⊢
        omega

end World

open World in
/-- Whatever was asked of a socket on any handles, however its writer was polled in between and
whatever the host said: as long as the socket is not cancelled, what the host was asked to do and
what is in line are what was issued, in order; of each write there is one record, with the queue and
schedulee it was issued with, which tells the host's answer; and the host took of each write as many
bytes as its record says, none if it failed. A half-close comes after the records of all writes
issued before it. As many answers as there are commands in line are enough to carry all of them out,
whether or not the program still has a handle and whether or not the host fails. -/
theorem writes_in_issue_order (steps : List (Step α)) (n : Nat) (s : Socket α)
    (found : (run {} steps).sockets[n]? = some s) (live : s.cancelled = false) :
    let w : World α := {}
    let address (r : Nat × WriteRecord) := (r.1, r.2.schedulee)
    (w.performed n steps).map Performed.command ++ s.writer.commands = w.issued n steps ∧
    w.writeRecords n steps = (w.performed n steps).filterMap Performed.record? ∧
    (w.writeRecords n steps).map address ++ s.writer.commands.filterMap WriteCommand.address? =
      (w.issued n steps).filterMap WriteCommand.address? ∧
    (∀ r ∈ w.writeRecords n steps,
      r.2.error = none ∨ r.2.error.isSome ∧ r.2.bytesWritten = 0) ∧
    s.writer.taken = (w.performed n steps).flatMap Performed.bytes ∧
    s.writer.halfClosed = (w.performed n steps).any Performed.halfCloses ∧
    (∀ past e, ∀ p ∈ (w.run past).performs n e, p.command = .shutdown →
      ∃ before after, w.issued n past = before ++ .shutdown :: after ∧
        (w.writeRecords n past).map address = before.filterMap WriteCommand.address?) ∧
    ∀ future s', (w.run (steps ++ future)).sockets[n]? = some s' → s'.cancelled = false →
      s.writer.commands.length ≤ future.countP (fun e => (e.outcome? n).isSome) →
        w.issued n steps <+: (w.performed n (steps ++ future)).map Performed.command ∧
        (w.issued n steps).filterMap WriteCommand.address? <+:
          (w.writeRecords n (steps ++ future)).map address := by
  intro w address
  have accounts := accounts_run steps found live
  refine ⟨accounts.line, accounts.told, ?_, ?_, accounts.taken, accounts.halfClosed, ?_, ?_⟩
  · rw [accounts.addresses, ← accounts.line, List.filterMap_append]
  · intro r member
    rw [accounts.told] at member
    obtain ⟨p, -, told⟩ := List.mem_filterMap.mp member
    exact p.error_record? told
  · intro past e p performs shuts
    obtain ⟨a, -, accounts, rest, issued⟩ := issued_of_performs performs
    exact ⟨_, rest, shuts ▸ issued, accounts.addresses⟩
  · intro future s' found' live' enough
    have accounts' := accounts_run (steps ++ future) found' live'
    have reached := length_performed found future found' live'
    have lengths := congrArg List.length accounts.line
    rw [List.length_append, List.length_map] at lengths
    have carried : issued n {} steps <+:
        (performed n {} (steps ++ future)).map Performed.command := by
      refine List.prefix_of_prefix_length_le ⟨_, (history_append ..).symm⟩
        ⟨_, accounts'.line⟩ ?_
      rw [List.length_map]
      omega
    exact ⟨carried, accounts'.addresses ▸ carried.filterMap _⟩

/-- Two writes around a half-close, of which the first is cut short before the handle is gone. -/
def parting : List (Step (List UInt8)) :=
  let near := SocketAddr.near 80
  [.connect 0 (.toAddress { schedulee := 1 } near),
    .pollConnect 0 (.attempted { ready := some (.ok (.ok ⟨near, near⟩)) }), .take 0,
    .write 0 [1, 2, 3] { schedulee := 2 }, .shutdownWrite 0, .write 0 [4] { schedulee := 3 },
    .pollWrite 0 { ready := some (.ok 2) }, .dropSocket 0]

/-- The host half-closes the stream and refuses the second write. -/
def afterParting : List (Step (List UInt8)) :=
  [.pollWrite 0 { ready := some (.ok 0) }, .pollWrite 0 { ready := some (.error "broken pipe") }]

open World in
theorem writes_in_issue_order_of_parting :
    let w : World (List UInt8) := {}
    ∃ s, (w.run parting).sockets[0]? = some s ∧ s.cancelled = false ∧ s.held = 0 ∧
      s.writer.commands = [.shutdown, .write [4] { schedulee := 3 }] ∧ s.writer.taken = [1, 2] ∧
      (w.performed 0 parting).map Performed.command ++ s.writer.commands = w.issued 0 parting ∧
      (w.issued 0 parting).filterMap WriteCommand.address? <+:
        (w.writeRecords 0 (parting ++ afterParting)).map fun r => (r.1, r.2.schedulee) := by
  intro w
  have parted : ((w.run parting).sockets[0]?).map (fun s => (s.cancelled, s.held, s.writer)) =
      some (false, 0,
        { commands := [.shutdown, .write [4] { schedulee := 3 }], taken := [1, 2] }) := by
    decide +kernel
  have after : ((w.run (parting ++ afterParting)).sockets[0]?).map Socket.cancelled =
      some false := by
    decide +kernel
  obtain ⟨s, found, state⟩ := Option.map_eq_some_iff.mp parted
  obtain ⟨s', found', live'⟩ := Option.map_eq_some_iff.mp after
  simp only [Prod.mk.injEq] at state
  obtain ⟨live, held, writer⟩ := state
  obtain ⟨issued, -, -, -, -, -, -, carried⟩ := writes_in_issue_order parting 0 s found live
  refine ⟨s, found, live, held, by rw [writer], by rw [writer], issued, ?_⟩
  exact (carried afterParting s' found' live' (by rw [writer]; decide)).2

end SocketBridge
