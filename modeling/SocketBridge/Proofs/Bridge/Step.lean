import SocketBridge.Bridge.Step
import SocketBridge.Proofs.Stream.Run

/-!
# What a step does to a socket

A bridge is a family of sockets. A step calls or polls one of them at most; of the others it can
only change how many handles there are. What it does to one socket, and when it does nothing, is
said once for all steps.
-/

namespace SocketBridge

variable {α : Type}

/-- Cancels a socket if something says so. -/
def Socket.cancelIf (s : Socket α) (cancels : Bool) : Socket α := if cancels then s.cancel else s

@[simp] theorem Socket.cancelIf_false (s : Socket α) : s.cancelIf false = s := rfl

/-- The socket that a step calls or polls. -/
def Step.socket? : Step α → Option Nat
  | .read n _ _ | .write n _ _ | .shutdownWrite n | .cancelSocket n | .pollRead n _
  | .pollWrite n _ => some n
  | _ => none

/-- Whether a call or a poll leaves a socket as it is: the caller has no handle, or what is asked
for is not to be had, or there is nothing to poll. -/
def Socket.Ignores (s : Socket α) : Step α → Prop
  | .read _ _ _ => s.held = 0 ∨ s.cancelled = true ∨ s.readable = false
  | .write _ _ _ => s.held = 0 ∨ s.writer.running = false
  | .shutdownWrite _ => s.held = 0 ∨ s.writer.running = false
  | .cancelSocket _ => s.held = 0
  | .pollRead _ _ => s.reading = none
  | .pollWrite _ _ => s.writer.running = false
  | _ => False

/-- What a step may make of a socket. A new handle is cloned or comes with a record. -/
inductive World.Moves (w : World α) (n : Nat) (s : Socket α) : Step α → Socket α → Prop
  | apart (e : Step α) (held : Nat) (other : e.socket? ≠ some n)
      (kept : e ≠ .dropSocket n → s.held ≤ held)
      (source : s.held < held → s.held ≠ 0 ∨
        ∃ queue c, e = .take queue ∧ (w.take queue).2 = some c ∧ c.connection = some n) :
    Moves w n s e { s with held }
  | ignores (e : Step α) (own : e.socket? = some n) (ignored : s.Ignores e) : Moves w n s e s
  | reads (decoder : Decoder α) (task : Task) (held : s.held ≠ 0) (live : s.cancelled = false)
      (readable : s.readable = true) :
    Moves w n s (.read n decoder task)
      { s with
        readable := false
        reading := some (.start task decoder (w.buffers.getD s.guard.tracker 0)) }
  | writes (data : List UInt8) (task : Task) (held : s.held ≠ 0)
      (running : s.writer.running = true) :
    Moves w n s (.write n data task) { s with writer := s.writer.push (.write data task) }
  | shuts (held : s.held ≠ 0) (running : s.writer.running = true) :
    Moves w n s (.shutdownWrite n) { s with writer := s.writer.push .shutdown }
  | cancels (held : s.held ≠ 0) : Moves w n s (.cancelSocket n) s.cancel
  | readTurn (r : ReadLoop α) (reading : s.reading = some r)
      (answer : Poll (List UInt8) String) :
    Moves w n s (.pollRead n answer)
      ({ s with reading := (r.turn s.cancelled answer).next }.cancelIf answer.cancels)
  | writeTurn (running : s.writer.running = true) (answer : Poll Nat String) :
    Moves w n s (.pollWrite n answer)
      ({ s with
        writer := (s.writer.turn s.cancelled (w.socketHandles n == 0) answer).next }.cancelIf
          answer.cancels)

namespace World

variable (w : World α)

@[simp] theorem getElem?_modifySocket (m n : Nat) (f : Socket α → Socket α) :
    (w.modifySocket m f).sockets[n]? = if m = n then (w.sockets[n]?).map f else w.sockets[n]? := by
  simp only [modifySocket, List.getElem?_modify]
  split <;> simp

@[simp] theorem sockets_emit (queue : Nat) (c : Completion α) :
    (w.emit queue c).sockets = w.sockets := rfl

@[simp] theorem sockets_spawn (s : Spawned) : (w.spawn s).sockets = w.sockets := rfl

@[simp] theorem sockets_modifyListener (l : Nat) (f : Listener → Listener) :
    (w.modifyListener l f).sockets = w.sockets := rfl

@[simp] theorem sockets_modifyConnect (c : Nat) (f : ConnectSlot → ConnectSlot) :
    (w.modifyConnect c f).sockets = w.sockets := rfl

@[simp] theorem sockets_release (guard : Guard) : (w.release guard).sockets = w.sockets := rfl

@[simp] theorem sockets_openSocket (bridge : Nat) (link : Link) :
    (w.openSocket bridge link).1.sockets =
      w.sockets ++ [{ guard := (w.track bridge).2, link }] := rfl

@[simp] theorem sockets_addBridge (config : IoConfig) :
    (w.step (.addBridge config)).sockets = w.sockets := by
  simp only [step, addBridge]
  split <;> rfl

@[simp] theorem sockets_listen (bridge : Nat) (address : SocketAddr) (backlog : UInt32)
    (answer : Except (ListenCall × OsError) SocketAddr) :
    (w.step (.listen bridge address backlog answer)).sockets = w.sockets := by
  simp only [step, listen]
  split
  · rfl
  · cases answer <;> rfl

@[simp] theorem sockets_accept (listener : Nat) (task : Task) :
    (w.step (.accept listener task)).sockets = w.sockets := by
  simp only [step, accept]
  split
  · rfl
  · split
    · rfl
    · split <;> rfl

@[simp] theorem sockets_dropListener (listener : Nat) :
    (w.step (.dropListener listener)).sockets = w.sockets := by
  simp only [step, dropListener]
  split
  · rfl
  · split
    · rfl
    · split <;> rfl

theorem opens_pollConnect (connect : Nat) (answer : ConnectAnswer) :
    (w.pollConnect connect answer).sockets = w.sockets ∨
      ∃ guard link,
        (w.pollConnect connect answer).sockets = w.sockets ++ [{ guard := guard, link }] := by
  unfold pollConnect
  split
  · dsimp only
    split
    · exact Or.inl rfl
    · exact Or.inl rfl
    · exact Or.inr ⟨_, _, rfl⟩
  · exact Or.inl rfl

theorem opens_pollAccept (listener loop : Nat) (answer : Poll (Except String Link) String) :
    (w.pollAccept listener loop answer).sockets = w.sockets ∨
      ∃ guard link,
        (w.pollAccept listener loop answer).sockets = w.sockets ++ [{ guard := guard, link }] := by
  unfold pollAccept
  split
  · exact Or.inl rfl
  · split
    · dsimp only
      split
      · exact Or.inl rfl
      · exact Or.inl rfl
      · exact Or.inr ⟨_, _, rfl⟩
    · exact Or.inl rfl

@[simp] theorem length_modifySocket (n : Nat) (f : Socket α → Socket α) :
    (w.modifySocket n f).sockets.length = w.sockets.length := List.length_modify ..

/-- A step opens one socket or none. -/
theorem opens_step (e : Step α) :
    (w.step e).sockets.length = w.sockets.length ∨
      ∃ guard link, (w.step e).sockets = w.sockets ++ [{ guard := guard, link }] := by
  cases e with
  | pollConnect c answer =>
    rcases w.opens_pollConnect c answer with same | grown
    · exact Or.inl (congrArg List.length same)
    · exact Or.inr grown
  | pollAccept l loop answer =>
    rcases w.opens_pollAccept l loop answer with same | grown
    · exact Or.inl (congrArg List.length same)
    · exact Or.inr grown
  | addBridge | listen | accept | dropListener => exact Or.inl (by simp)
  | dropSocket n =>
    refine Or.inl ?_
    simp only [step, dropSocket]
    split
    · rfl
    · split
      · rfl
      · split <;> simp
  | read n decoder task =>
    refine Or.inl ?_
    simp only [step, World.read]
    split
    · rfl
    · split
      · rfl
      · split <;> simp
  | write n data task =>
    refine Or.inl ?_
    simp only [step, write]
    split
    · rfl
    · split
      · rfl
      · split
        · simp
        · split <;> rfl
  | shutdownWrite n =>
    refine Or.inl ?_
    simp only [step, shutdownWrite]
    split
    · rfl
    · split <;> simp
  | pollRead n answer =>
    refine Or.inl ?_
    simp only [step, pollRead]
    split
    · split <;> simp
    · rfl
  | pollWrite n answer =>
    refine Or.inl ?_
    simp only [step, pollWrite]
    split
    · rfl
    · split
      · split <;> simp
      · rfl
  | take queue =>
    refine Or.inl ?_
    simp only [step, take]
    split
    · rfl
    · rename_i c _ _
      cases c.connection <;> cases c.listener <;> simp
  | cancelSocket n => exact Or.inl (w.length_modifySocket n _)
  | cloneSocket n => exact Or.inl (w.length_modifySocket n _)
  | connect | cancelConnect | cancelListener | cloneListener => exact Or.inl rfl

variable {w} {n : Nat} {s : Socket α}

theorem moves_take (found : w.sockets[n]? = some s) (queue : Nat) :
    ∃ s', (w.step (.take queue)).sockets[n]? = some s' ∧ w.Moves n s (.take queue) s' := by
  have same : w.Moves n s (.take queue) s :=
    .apart _ s.held nofun (fun _ => Nat.le_refl _) fun more => absurd more (Nat.lt_irrefl _)
  rcases popped : w.queues.pop? queue with ⟨_ | c, queues⟩
  · exact ⟨s, by simp [step, take, popped, found], same⟩
  · cases connection : c.connection with
    | none =>
      refine ⟨s, ?_, same⟩
      cases listener : c.listener <;> simp [step, take, popped, connection, listener, found]
    | some socket =>
      by_cases own : socket = n
      · subst own
        refine ⟨{ s with held := s.held + 1 }, ?_, .apart _ _ nofun (fun _ => Nat.le_succ _)
          fun _ => .inr ⟨queue, c, rfl, by simp [take, popped], connection⟩⟩
        cases listener : c.listener <;> simp [step, take, popped, connection, listener, found]
      · refine ⟨s, ?_, same⟩
        cases listener : c.listener <;>
          simp [step, take, popped, connection, listener, own, found]

/-- A step that is about another socket, if about any, leaves this one. -/
theorem moves_apart {e : Step α} (other : e.socket? ≠ some n)
    (same : (w.step e).sockets[n]? = some s) :
    ∃ s', (w.step e).sockets[n]? = some s' ∧ w.Moves n s e s' :=
  ⟨s, same, .apart e s.held other (fun _ => Nat.le_refl _)
    fun more => absurd more (Nat.lt_irrefl _)⟩

theorem moves_read (found : w.sockets[n]? = some s) (decoder : Decoder α) (task : Task) :
    ∃ s', (w.step (.read n decoder task)).sockets[n]? = some s' ∧
      w.Moves n s (.read n decoder task) s' := by
  by_cases refused : s.held = 0 ∨ s.cancelled = true ∨ s.readable = false
  · refine ⟨s, ?_, .ignores _ rfl refused⟩
    simp only [step, read, found]
    split
    · exact found
    · split
      · exact found
      · grind
  · simp only [not_or, Bool.not_eq_true, Bool.not_eq_false] at refused
    obtain ⟨held, live, readable⟩ := refused
    refine ⟨_, ?_, .reads decoder task held live readable⟩
    simp [step, read, found, held, live, readable]

theorem moves_write (found : w.sockets[n]? = some s) (data : List UInt8) (task : Task) :
    ∃ s', (w.step (.write n data task)).sockets[n]? = some s' ∧
      w.Moves n s (.write n data task) s' := by
  by_cases held : s.held = 0
  · exact ⟨s, by simp [step, write, found, held], .ignores _ rfl (.inl held)⟩
  · cases running : s.writer.running with
    | true => exact ⟨_, by simp [step, write, found, held, running], .writes data task held running⟩
    | false =>
      refine ⟨s, ?_, .ignores _ rfl (.inr running)⟩
      simp only [step, write, found, held, running, if_false, Bool.false_eq_true]
      split <;> simp [found]

theorem moves_shutdownWrite (found : w.sockets[n]? = some s) :
    ∃ s', (w.step (.shutdownWrite n)).sockets[n]? = some s' ∧
      w.Moves n s (.shutdownWrite n) s' := by
  by_cases held : s.held = 0
  · exact ⟨s, by simp [step, shutdownWrite, found, held], .ignores _ rfl (.inl held)⟩
  · cases running : s.writer.running with
    | true =>
      exact ⟨_, by simp [step, shutdownWrite, found, held, running], .shuts held running⟩
    | false =>
      exact ⟨s, by simp [step, shutdownWrite, found, running], .ignores _ rfl (.inr running)⟩

theorem moves_cancelSocket (found : w.sockets[n]? = some s) :
    ∃ s', (w.step (.cancelSocket n)).sockets[n]? = some s' ∧
      w.Moves n s (.cancelSocket n) s' := by
  by_cases held : s.held = 0
  · exact ⟨s, by simp [step, cancelSocket, found, held], .ignores _ rfl held⟩
  · exact ⟨s.cancel, by simp [step, cancelSocket, found, held], .cancels held⟩

theorem moves_dropSocket (found : w.sockets[n]? = some s) (m : Nat) :
    ∃ s', (w.step (.dropSocket m)).sockets[n]? = some s' ∧ w.Moves n s (.dropSocket m) s' := by
  by_cases own : m = n
  · subst own
    by_cases held : s.held = 0
    · exact moves_apart nofun (by simp [step, dropSocket, found, held])
    · refine ⟨{ s with held := s.held - 1 }, ?_, .apart _ _ nofun (fun kept => absurd rfl kept)
        fun _ => .inl held⟩
      simp only [step, dropSocket, found, if_neg held]
      split <;> simp [found]
  · refine moves_apart nofun ?_
    simp only [step, dropSocket]
    split
    · exact found
    · split
      · exact found
      · split <;> simp [found, own]

theorem moves_pollRead (found : w.sockets[n]? = some s) (answer : Poll (List UInt8) String) :
    ∃ s', (w.step (.pollRead n answer)).sockets[n]? = some s' ∧
      w.Moves n s (.pollRead n answer) s' := by
  cases reading : s.reading with
  | none =>
    refine ⟨s, ?_, .ignores _ rfl reading⟩
    obtain ⟨guard, link, held, flag, readable, read, writer⟩ := s
    simp only at reading
    subst reading
    simp [step, pollRead, found]
  | some r =>
    refine ⟨_, ?_, .readTurn r reading answer⟩
    obtain ⟨guard, link, held, flag, readable, read, writer⟩ := s
    simp only at reading
    subst reading
    simp only [step, pollRead, found]
    split <;> simp [found, Socket.cancelIf]

theorem moves_pollWrite (found : w.sockets[n]? = some s) (answer : Poll Nat String) :
    ∃ s', (w.step (.pollWrite n answer)).sockets[n]? = some s' ∧
      w.Moves n s (.pollWrite n answer) s' := by
  cases running : s.writer.running with
  | false => exact ⟨s, by simp [step, pollWrite, found, running], .ignores _ rfl running⟩
  | true =>
    refine ⟨_, ?_, .writeTurn running answer⟩
    simp only [step, pollWrite, found, running, if_true]
    split <;> simp [found, Socket.cancelIf]

/-- What any step makes of a socket. -/
theorem moves_step (found : w.sockets[n]? = some s) (e : Step α) :
    ∃ s', (w.step e).sockets[n]? = some s' ∧ w.Moves n s e s' := by
  have bound : n < w.sockets.length := (List.getElem?_eq_some_iff.mp found).1
  have beside {m : Nat} (own : m ≠ n) {e : Step α} (about : e.socket? = some m) :
      e.socket? ≠ some n := by
    rw [about]
    simpa using own
  cases e with
  | addBridge | listen | accept | dropListener => exact moves_apart nofun (by simpa using found)
  | connect | cancelConnect | cancelListener | cloneListener => exact moves_apart nofun found
  | take queue => exact moves_take found queue
  | cloneSocket m =>
    by_cases own : m = n
    · by_cases held : s.held = 0
      · exact moves_apart nofun (by simp [step, cloneSocket, found, held])
      · refine ⟨{ s with held := s.held + 1 }, ?_, .apart _ _ nofun (fun _ => Nat.le_succ _)
          fun _ => .inl held⟩
        simp [step, cloneSocket, found, own, held]
    · exact moves_apart nofun (by simp [step, cloneSocket, found, own])
  | dropSocket m => exact moves_dropSocket found m
  | pollConnect c answer =>
    refine moves_apart nofun ?_
    rcases w.opens_pollConnect c answer with same | ⟨_, _, grown⟩
    · rw [step, same, found]
    · rw [step, grown, List.getElem?_append_left bound, found]
  | pollAccept l loop answer =>
    refine moves_apart nofun ?_
    rcases w.opens_pollAccept l loop answer with same | ⟨_, _, grown⟩
    · rw [step, same, found]
    · rw [step, grown, List.getElem?_append_left bound, found]
  | read m decoder task =>
    by_cases own : m = n
    · exact own ▸ moves_read (own ▸ found) decoder task
    · refine moves_apart (beside own rfl) ?_
      simp only [step, read]
      split
      · exact found
      · split
        · exact found
        · split <;> simp [found, own]
  | write m data task =>
    by_cases own : m = n
    · exact own ▸ moves_write (own ▸ found) data task
    · refine moves_apart (beside own rfl) ?_
      simp only [step, write]
      split
      · exact found
      · split
        · exact found
        · split
          · simp [found, own]
          · split <;> simp [found]
  | shutdownWrite m =>
    by_cases own : m = n
    · exact own ▸ moves_shutdownWrite (own ▸ found)
    · refine moves_apart (beside own rfl) ?_
      simp only [step, shutdownWrite]
      split
      · exact found
      · split <;> simp [found, own]
  | cancelSocket m =>
    by_cases own : m = n
    · exact own ▸ moves_cancelSocket (own ▸ found)
    · exact moves_apart (beside own rfl) (by simp [step, cancelSocket, found, own])
  | pollRead m answer =>
    by_cases own : m = n
    · exact own ▸ moves_pollRead (own ▸ found) answer
    · refine moves_apart (beside own rfl) ?_
      simp only [step, pollRead]
      split
      · split <;> simp [found, own]
      · exact found
  | pollWrite m answer =>
    by_cases own : m = n
    · exact own ▸ moves_pollWrite (own ▸ found) answer
    · refine moves_apart (beside own rfl) ?_
      simp only [step, pollWrite]
      split
      · exact found
      · split
        · split <;> simp [found, own]
        · exact found

/-- A socket after a step was there before, or is new. -/
theorem moves_or_opens {e : Step α} {s' : Socket α} (found' : (w.step e).sockets[n]? = some s') :
    (∃ s, w.sockets[n]? = some s ∧ w.Moves n s e s') ∨
      (w.sockets[n]? = none ∧ ∃ guard link, s' = { guard := guard, link }) := by
  cases found : w.sockets[n]? with
  | some s =>
    obtain ⟨_, same, moves⟩ := moves_step found e
    obtain rfl := Option.some.inj (found'.symm.trans same)
    exact .inl ⟨s, rfl, moves⟩
  | none =>
    have bound := List.getElem?_eq_none_iff.mp found
    have bound' := (List.getElem?_eq_some_iff.mp found').1
    rcases w.opens_step e with same | ⟨guard, link, grown⟩
    · omega
    · rw [grown, List.getElem?_append_right bound] at found'
      obtain ⟨-, rfl⟩ := List.getElem?_eq_some_iff.mp found'
      exact .inr ⟨rfl, guard, link, by simp⟩

/-- A cancelled socket stays so. -/
theorem Moves.cancelled {e : Step α} {s' : Socket α} (moves : w.Moves n s e s')
    (cancelled : s.cancelled = true) : s'.cancelled = true := by
  cases moves with
  | apart | ignores | reads | writes | shuts => exact cancelled
  | cancels => rfl
  | readTurn | writeTurn =>
    unfold Socket.cancelIf
    split
    · rfl
    · exact cancelled

end World

end SocketBridge
