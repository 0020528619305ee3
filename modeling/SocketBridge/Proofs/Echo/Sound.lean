import SocketBridge.Proofs.Echo.Daemon

/-!
# A bridge that serves open connections

Given which connections are open and where their tokens are at home, a bridge serves them all. Polls
keep it so; a handled record and what it asks for change the connection that it names, or open one,
and leave all others.
-/

namespace SocketBridge

variable {home : Nat → Option Nat} {token : Nat}

namespace World

/-- All open connections are served by the sockets at which their tokens are at home. -/
structure Sound (home : Nat → Option Nat) (opened : Nat → Option EchoConnection)
    (written : Nat → List (List UInt8)) (w : World (List UInt8)) : Prop where
  housed : w.Housed home
  homed : ∀ token c, opened token = some c → home token = some c.socket
  serves : ∀ token c, opened token = some c → w.Serves token c (written c.socket)

variable {w : World (List UInt8)} {e : Step (List UInt8)} {opened : Nat → Option EchoConnection}
  {written : Nat → List (List UInt8)} {c : EchoConnection} {record : Completion (List UInt8)}

/-- A step that is about no open connection. -/
theorem Sound.apart (sound : w.Sound home opened written) (within : e.Within home)
    (kept : ∀ queue, e ≠ .take queue)
    (other : ∀ token c, opened token = some c →
      e.socket? ≠ some c.socket ∧ e ≠ .dropSocket c.socket) :
    (w.step e).Sound home opened written where
  housed := sound.housed.step within
  homed := sound.homed
  serves token c isOpen :=
    (sound.serves token c isOpen).apart sound.housed (sound.homed token c isOpen) within kept
      (other token c isOpen).1 (other token c isOpen).2

/-- What a poll of a writer adds to the data that its socket has written. -/
def added (written : Nat → List (List UInt8)) (w : World (List UInt8)) (e : Step (List UInt8)) :
    Nat → List (List UInt8) :=
  fun n => written n ++ (w.performs n e).filterMap Performed.data?

theorem Sound.pollAccept (sound : w.Sound home opened written) (l i : Nat)
    (answer : Poll (Except String Link) String) :
    (w.step (.pollAccept l i answer)).Sound home opened written :=
  sound.apart trivial nofun fun _ _ _ => ⟨nofun, nofun⟩

theorem Sound.dropListener (sound : w.Sound home opened written) (l : Nat) :
    (w.step (.dropListener l)).Sound home opened written :=
  sound.apart trivial nofun fun _ _ _ => ⟨nofun, nofun⟩

theorem Sound.pollRead (sound : w.Sound home opened written) (n : Nat)
    {answer : Poll (List UInt8) String} (live : answer.cancels = false) :
    (w.step (.pollRead n answer)).Sound home opened written where
  housed := sound.housed.step live
  homed := sound.homed
  serves token c isOpen := by
    have serves := sound.serves token c isOpen
    by_cases own : n = c.socket
    · exact own ▸ serves.pollRead live
    · exact serves.apart sound.housed (sound.homed token c isOpen) live nofun
        (by simpa [Step.socket?] using own) nofun

theorem Sound.pollWrite (sound : w.Sound home opened written) (n : Nat)
    {answer : Poll Nat String} (live : answer.cancels = false) :
    (w.step (.pollWrite n answer)).Sound home opened (added written w (.pollWrite n answer)) where
  housed := sound.housed.step live
  homed := sound.homed
  serves token c isOpen := by
    have serves := sound.serves token c isOpen
    by_cases own : n = c.socket
    · subst own
      exact serves.pollWrite live
    · have unanswered : w.performs c.socket (.pollWrite n answer) = [] :=
        w.performs_of_unanswered (if_neg own)
      rw [added, unanswered, List.filterMap_nil, List.append_nil]
      exact serves.apart sound.housed (sound.homed token c isOpen) live nofun
        (by simpa [Step.socket?] using own) nofun

/-- Commands about a socket that no open connection has. -/
theorem Sound.commands (sound : w.Sound home opened written) {socket : Nat}
    (homed : home token = some socket)
    (others : ∀ token c, opened token = some c → c.socket ≠ socket) (commands : List EchoCommand)
    (about : ∀ command ∈ commands, (∃ data, command = .write socket data token) ∨
      command = .shutdownWrite socket ∨ command = .cancel socket ∨ command = .drop socket) :
    (w.run (commands.map EchoCommand.step)).Sound home opened written := by
  induction commands generalizing w with
  | nil => exact sound
  | cons command commands ih =>
    have rest := fun sound => ih (w := w.step command.step) sound fun command member =>
      about command (List.mem_cons_of_mem _ member)
    refine rest ?_
    have apart : ∀ token c, opened token = some c → some socket ≠ some c.socket :=
      fun token c isOpen same => others token c isOpen (Option.some.inj same).symm
    rcases about command List.mem_cons_self with ⟨data, rfl⟩ | rfl | rfl | rfl
    · exact sound.apart homed nofun fun token c isOpen => ⟨apart token c isOpen, nofun⟩
    · exact sound.apart ⟨token, homed⟩ nofun fun token c isOpen => ⟨apart token c isOpen, nofun⟩
    · exact sound.apart ⟨token, homed⟩ nofun fun token c isOpen => ⟨apart token c isOpen, nofun⟩
    · refine sound.apart ⟨token, homed⟩ nofun fun token c isOpen => ⟨nofun, fun same => ?_⟩
      exact apart token c isOpen (congrArg some (Step.dropSocket.inj same))

/-- To take a record leaves all connections that it does not name. -/
theorem Sound.take (sound : w.Sound home opened written) (taken : (w.take 0).2 = some record)
    (other : ∀ token c, opened token = some c → record.stream? ≠ some token) :
    (w.take 0).1.Sound home opened written where
  housed := sound.housed.step (e := .take 0) trivial
  homed := sound.homed
  serves token c isOpen := by
    obtain ⟨s, found, served⟩ := (sound.serves token c isOpen).take 0
    obtain ⟨reads, writes⟩ := mail_take token taken
    obtain ⟨unread, unwritten⟩ := Completion.for_of_stream (other token c isOpen)
    rw [reads, writes, unread, unwritten] at served
    exact ⟨s, found, served⟩

/-- The one write that a connection may ask for is put in line. -/
theorem run_writeCommand (token : Nat) {s : Socket (List UInt8)}
    (found : w.sockets[c.socket]? = some s)
    (held : s.held ≠ 0) (running : s.writer.running = true) (data : Option (List UInt8)) :
    let after := w.run ((Scheduler.writeCommand c token data).map EchoCommand.step)
    after.sockets[c.socket]? = some (s.putWrites (writesOf token data)) ∧
      after.queues = w.queues := by
  cases data with
  | none => exact ⟨by simpa [Scheduler.writeCommand, writesOf] using found, rfl⟩
  | some data =>
    have put : w.write c.socket data { schedulee := token } = w.modifySocket c.socket fun s =>
        { s with writer := s.writer.push (.write data { schedulee := token }) } := by
      simp [World.write, found, held, running]
    simp only [Scheduler.writeCommand, Option.toList_some, List.map_cons, List.map_nil,
      EchoCommand.step, run_cons, run_nil, World.step, put]
    exact ⟨by simp [found, Socket.putWrites, writesOf, Writer.push], rfl⟩

/-- A connection that is not open any more asks for nothing. -/
theorem Sound.close (sound : w.Sound home opened written) (token : Nat) :
    w.Sound home (fun other => if other = token then none else opened other) written := by
  refine ⟨sound.housed, fun other d found => ?_, fun other d found => ?_⟩
  · split at found
    · cases found
    · exact sound.homed other d found
  · split at found
    · cases found
    · exact sound.serves other d found

/-- A record that leaves the mail of a connection leads to the next state in which it is served. -/
theorem turn_of_mail {s : Socket (List UInt8)} {d : EchoConnection}
    {reads : List (ReadRecord (List UInt8))} {writes : List WriteRecord}
    {sent : List (List UInt8)} (stream : record.stream? = some token)
    (served : c.Served token s ((record.readFor token).toList ++ reads)
      ((record.writeFor token).toList ++ writes) sent)
    (turned : (c.turn token record).1 = some d) :
    ∃ data, (c.turn token record).2 = Scheduler.writeCommand c token data ∧
      d.Served token (s.putWrites (writesOf token data)) reads writes sent := by
  cases record with
  | connect | accept => cases stream
  | read q =>
    have own : q.schedulee = token := Option.some.inj stream
    simp only [Completion.readFor, Completion.writeFor, if_pos own, Option.toList_some,
      Option.toList_none, List.cons_append, List.nil_append] at served
    exact served.read turned
  | write q =>
    have own : q.schedulee = token := Option.some.inj stream
    simp only [Completion.readFor, Completion.writeFor, if_pos own, Option.toList_some,
      Option.toList_none, List.cons_append, List.nil_append] at served
    exact served.write turned

/-- A record for an open connection was handled: the connection is closed, or served in its new
state. -/
theorem Sound.turn (sound : w.Sound home opened written) (taken : (w.take 0).2 = some record)
    (stream : record.stream? = some token) (isOpen : opened token = some c) :
    ((w.take 0).1.run ((c.turn token record).2.map EchoCommand.step)).Sound home
      (fun other => if other = token then (c.turn token record).1 else opened other) written := by
  have homed := sound.homed token c isOpen
  -- all others go on as if the connection was closed
  have closed : (w.take 0).1.Sound home
      (fun other => if other = token then none else opened other) written := by
    refine (sound.close token).take taken fun other d found => ?_
    split at found
    · cases found
    · rename_i apart
      rw [stream]
      exact fun same => apart (Option.some.inj same).symm
  have after := closed.commands homed (fun other d found same => by
    split at found
    · cases found
    · rename_i apart
      exact apart (sound.housed.single other token c.socket
        (same ▸ sound.homed other d found) homed)) (c.turn token record).2
    (fun command member => EchoConnection.mem_turn stream member)
  cases turned : (c.turn token record).1 with
  | none => exact after
  | some d =>
    have same := EchoConnection.socket_turn stream turned
    -- the record leaves the mail, and what it asks for is put in line
    obtain ⟨s, found, served⟩ := (sound.serves token c isOpen).take 0
    obtain ⟨reads, writes⟩ := mail_take token taken
    rw [reads, writes] at served
    obtain ⟨data, asked, served⟩ := turn_of_mail stream served turned
    obtain ⟨found', queues⟩ := run_writeCommand token found served.held served.running data
    rw [← asked] at found' queues
    refine ⟨after.housed, fun other b isOpen' => ?_, fun other b isOpen' => ?_⟩
    · by_cases own : other = token
      · simp only [if_pos own] at isOpen'
        obtain rfl := Option.some.inj isOpen'
        rw [own, homed, same]
      · exact after.homed other b (by simpa [own] using isOpen')
    · by_cases own : other = token
      · simp only [if_pos own] at isOpen'
        obtain rfl := Option.some.inj isOpen'
        subst own
        rw [same]
        refine ⟨_, same ▸ found', ?_⟩
        rw [readsFor, writesFor, queues]
        exact served
      · exact after.serves other b (by simpa [own] using isOpen')

/-- A token that was not given has no mail. -/
theorem mail_of_free (housed : w.Housed home) (free : home token = none) :
    w.readsFor token = [] ∧ w.writesFor token = [] := by
  have other : ∀ record ∈ w.queues.contents 0, record.stream? ≠ some token := by
    intro record member stream
    obtain ⟨r, waits, rfl⟩ := List.mem_map.mp member
    exact housed.told r (List.mem_filter.mp waits).1 token stream free
  exact ⟨List.filterMap_eq_nil_iff.mpr fun c member =>
      (Completion.for_of_stream (other c member)).1,
    List.filterMap_eq_nil_iff.mpr fun c member =>
      (Completion.for_of_stream (other c member)).2⟩

/-- A client has connected: its read starts, and the connection is served under a new token. -/
theorem Sound.arrival (sound : w.Sound home opened written) (taken : (w.take 0).2 = some record)
    (streamless : record.stream? = none) {n : Nat} (names : record.connection = some n)
    (free : home token = none) :
    Daemon.starts (w.take 0).1 record = true ∧
    ((w.take 0).1.step (.read n .bytes { schedulee := token })).Sound
      (fun other => if other = token then some n else home other)
      (fun other => if other = token then some { socket := n } else opened other) written := by
  obtain ⟨⟨s, before, fresh⟩, unhoused⟩ :=
    sound.housed.fresh _ (mem_waiting_of_take taken) n names
  have unnamed := sound.housed.unnamed_of_take taken names
  have found := held_of_take taken names before
  have alone := sound.take taken fun _ _ _ => by
    simp [streamless]
  generalize (w.take 0).1 = w at found unnamed alone ⊢
  have bound := (List.getElem?_eq_some_iff.mp found).1
  have distinct {other : Nat} {d : EchoConnection} (isOpen : opened other = some d) :
      other ≠ token := by
    rintro rfl
    cases free.symm.trans (alone.homed other d isOpen)
  refine ⟨by simp [Daemon.starts, names, World.read, found, fresh.live, fresh.readable,
    Except.isOk, Except.toBool], ?_⟩
  have given : w.Sound (fun other => if other = token then some n else home other) opened
      written := by
    refine ⟨alone.housed.give free bound unhoused unnamed, fun other d isOpen => ?_, alone.serves⟩
    rw [if_neg (distinct isOpen)]
    exact alone.homed other d isOpen
  have after := given.apart (e := .read n .bytes { schedulee := token }) (if_pos rfl) (by simp)
    fun other d isOpen => by
      refine ⟨fun same => unhoused other ?_, by simp⟩
      exact (alone.homed other d isOpen).trans same.symm
  obtain ⟨reads, writes⟩ := mail_of_free alone.housed free
  refine ⟨after.housed, fun other d isOpen => ?_, fun other d isOpen => ?_⟩
  · by_cases own : other = token
    · simp only [if_pos own] at isOpen ⊢
      rw [← Option.some.inj isOpen]
    · simp only [if_neg own] at isOpen
      exact after.homed other d isOpen
  · by_cases own : other = token
    · simp only [if_pos own] at isOpen
      obtain rfl := Option.some.inj isOpen
      subst own
      have started : (w.step (.read n .bytes { schedulee := other })).sockets[n]? =
          some { s with
            held := s.held + 1
            readable := false
            reading := some (.start { schedulee := other } .bytes
              (w.buffers.getD s.guard.tracker 0)) } := by
        simp [step, World.read, found, fresh.live, fresh.readable]
      refine ⟨_, started, ?_⟩
      rw [readsFor, writesFor, queues_read, ← readsFor, ← writesFor, reads, writes]
      refine ⟨Nat.succ_ne_zero _, fresh.live, fresh.running, ?_, ?_, fun _ => rfl, rfl⟩
      · exact .runs _ _ rfl rfl rfl (by simp)
      · rw [show s.writer.commands = [] from fresh.line]
        exact .idle _
    · simp only [if_neg own] at isOpen
      exact after.serves other d isOpen

end World

end SocketBridge
