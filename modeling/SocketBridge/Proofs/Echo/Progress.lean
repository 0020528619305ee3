import SocketBridge.Echo.Start
import SocketBridge.Proofs.Echo.Sound
import SocketBridge.Proofs.Fallible

/-!
# No stuck connection

While a connection is open, its outbox says which write is out, and something is on its way that
will make the scheduler look at the connection again: its read runs, or a record waits, or a write
is in line.
-/

namespace SocketBridge

variable {home : Nat → Option Nat} {token : Nat}

namespace Scheduler

variable {s : Scheduler} {c : EchoConnection}

theorem mem_put {d : EchoConnection} {e : Nat × EchoConnection}
    (member : e ∈ (s.put token d).connections) : e ∈ s.connections ∨ e = (token, d) := by
  obtain ⟨a, old, same⟩ := List.mem_map.mp member
  split at same
  · exact .inr same.symm
  · exact .inl (same ▸ old)

theorem mem_remove {e : Nat × EchoConnection} (member : e ∈ (s.remove token).connections) :
    e ∈ s.connections := (List.mem_filter.mp member).1

theorem mem_keep {d : EchoConnection} {e : Nat × EchoConnection}
    (member : e ∈ (s.keep token d).1.connections) : e ∈ s.connections ∨ e = (token, d) := by
  unfold keep at member
  split at member
  · exact .inl (mem_remove member)
  · exact mem_put member

/-- No record moves a connection to another socket. -/
theorem mem_handle {starts : Bool} {r : Completion (List UInt8)} (stream : r.stream? = some token)
    (found : s.find? token = some c) {e : Nat × EchoConnection}
    (member : e ∈ (s.handle starts r).1.connections) :
    e ∈ s.connections ∨ e.1 = token ∧ e.2.socket = c.socket := by
  have moved {d : EchoConnection} (either : e ∈ s.connections ∨ e = (token, d))
      (same : d.socket = c.socket) :
      e ∈ s.connections ∨ e.1 = token ∧ e.2.socket = c.socket := by
    rcases either with old | rfl
    · exact .inl old
    · exact .inr ⟨rfl, same⟩
  cases r with
  | connect | accept => cases stream
  | read q =>
    obtain rfl : q.schedulee = token := Option.some.inj stream
    simp only [handle, onRead, found] at member
    split at member
    · exact .inl (mem_remove member)
    · exact moved (mem_put member) rfl
    · exact moved (mem_keep member) rfl
  | write q =>
    obtain rfl : q.schedulee = token := Option.some.inj stream
    simp only [handle, onWrite, found] at member
    split at member
    · exact .inl (mem_remove member)
    · exact moved (mem_keep member) rfl

end Scheduler

namespace Daemon

variable {d : Daemon} {written : Nat → List (List UInt8)}

/-- The home of every token after further sockets have arrived. -/
def homes (home : Nat → Option Nat) (last : Nat) (sockets : List Nat) (token : Nat) : Option Nat :=
  if last < token then sockets[token - last - 1]? else home token

theorem homes_nil (given : ∀ token, d.scheduler.lastToken < token → home token = none) :
    homes home d.scheduler.lastToken [] = home := by
  funext token
  unfold homes
  split
  · rename_i later
    exact (given token later).symm
  · rfl

theorem homes_singleton (given : ∀ token, d.scheduler.lastToken < token → home token = none)
    (n : Nat) : homes home d.scheduler.lastToken [n] = fun token =>
      if token = d.scheduler.lastToken + 1 then some n else home token := by
  funext token
  unfold homes
  by_cases next : token = d.scheduler.lastToken + 1
  · have first : token - d.scheduler.lastToken - 1 = 0 := by omega
    rw [if_pos next, if_pos (by omega), first]
    rfl
  · rw [if_neg next]
    split
    · rename_i later
      rw [given token later, List.getElem?_eq_none (by simp; omega)]
    · rfl

theorem homes_append (last : Nat) (sockets others : List Nat) :
    homes (homes home last sockets) (last + sockets.length) others =
      homes home last (sockets ++ others) := by
  funext token
  unfold homes
  by_cases far : last + sockets.length < token
  · rw [if_pos far, if_pos (by omega), List.getElem?_append_right (by omega)]
    congr 1
    omega
  · rw [if_neg far]
    by_cases near : last < token
    · rw [if_pos near, if_pos near, List.getElem?_append_left (by omega)]
    · rw [if_neg near, if_neg near]

/-- All open connections of a daemon are served. -/
structure Sound (home : Nat → Option Nat) (written : Nat → List (List UInt8)) (d : Daemon) :
    Prop where
  bridge : d.world.Sound home d.scheduler.find? written
  given : ∀ token, d.scheduler.lastToken < token → home token = none
  listed : ∀ e ∈ d.scheduler.connections, home e.1 = some e.2.socket

theorem Sound.ordered (sound : d.Sound home written) : d.scheduler.Ordered := by
  intro token c found
  refine Nat.le_of_not_lt fun later => ?_
  exact nomatch (sound.given token later).symm.trans (sound.bridge.homed token c found)

/-- A record that names no open connection, once it is taken. -/
theorem Sound.stale {record : Completion (List UInt8)} (sound : d.Sound home written)
    (taken : (d.world.take 0).2 = some record)
    (other : ∀ token c, d.scheduler.find? token = some c → record.stream? ≠ some token) :
    Sound home written { d with world := (d.world.take 0).1 } where
  bridge := sound.bridge.take taken other
  given := sound.given
  listed := sound.listed

/-- The oldest record is handled. A read starts on every socket that arrives, which gets the next
token. -/
theorem Sound.handle {record : Completion (List UInt8)} (sound : d.Sound home written)
    (taken : (d.world.take 0).2 = some record) :
    let event := EchoEvent.record (starts (d.world.take 0).1 record) record
    (∀ arrival, event.arrival? = some arrival → arrival.1 = true) ∧
      Sound (homes home d.scheduler.lastToken ((arrived [event]).map Prod.snd)) written
        ({ d with world := (d.world.take 0).1 }.handle record) := by
  intro event
  unfold Daemon.handle
  simp only [obey_commands]
  -- without an arrival every token keeps its home
  have settled (none : event.arrival? = none) :
      homes home d.scheduler.lastToken ((arrived [event]).map Prod.snd) = home := by
    rw [arrived_cons, none]
    exact homes_nil sound.given
  cases stream : record.stream? with
  | some token =>
    have none : event.arrival? = none := EchoEvent.arrival?_of_stream stream
    rw [settled none]
    refine ⟨by simp [none], ?_⟩
    cases found : d.scheduler.find? token with
    | none =>
      rw [Scheduler.handle_stale _ stream found]
      refine sound.stale taken fun other c isOpen same => ?_
      obtain rfl := Option.some.inj (stream.symm.trans same)
      cases found.symm.trans isOpen
    | some c =>
      obtain ⟨commands, last, others⟩ := Scheduler.handle_open
        (starts (d.world.take 0).1 record) stream found
      refine ⟨?_, ?_, fun e member => ?_⟩
      · simp only [commands, funext others]
        exact sound.bridge.turn taken stream found
      · simp only [last]
        exact sound.given
      · rcases Scheduler.mem_handle stream found member with old | ⟨own, same⟩
        · exact sound.listed e old
        · rw [own, same]
          exact sound.bridge.homed token c found
  | none =>
    have alone := sound.stale taken fun token c isOpen => by simp [stream]
    cases record with
    | read | write => cases stream
    | connect r =>
      rw [settled rfl]
      exact ⟨nofun, alone⟩
    | accept r =>
      cases names : r.connection with
      | none =>
        have none : event.arrival? = none := Option.map_eq_none_iff.mpr names
        rw [settled none]
        simp only [Scheduler.handle, Scheduler.onAccept, names]
        refine ⟨by simp [none], ?_, alone.given, alone.listed⟩
        cases r.listener with
        | none => exact alone.bridge
        | some l => exact alone.bridge.dropListener l
      | some n =>
        obtain ⟨begins, bridge⟩ := sound.bridge.arrival taken stream names
          (sound.given (d.scheduler.lastToken + 1) (Nat.lt_succ_self _))
        have arrives : event.arrival? = some (true, n) := by
          simp only [event, EchoEvent.arrival?, names, begins, Option.map_some]
        have extended : homes home d.scheduler.lastToken ((arrived [event]).map Prod.snd) =
            fun token => if token = d.scheduler.lastToken + 1 then some n else home token := by
          rw [arrived_cons, arrives]
          exact homes_singleton sound.given n
        rw [extended]
        simp only [Scheduler.handle, Scheduler.onAccept, names, Scheduler.onConnection, begins,
          if_true]
        refine ⟨by simp [arrives], ?_, fun token later => ?_, fun e member => ?_⟩
        · simp only [funext (Scheduler.find?_opened sound.ordered n)]
          exact bridge
        · have later : d.scheduler.lastToken + 1 < token := later
          rw [if_neg (by omega), sound.given token (by omega)]
        · rcases List.mem_append.mp member with old | new
          · have homed := sound.listed e old
            rw [if_neg, homed]
            intro same
            cases (sound.given e.1 (by omega)).symm.trans homed
          · obtain rfl := List.mem_singleton.mp new
            exact if_pos rfl

/-- Commands and a taken record are no polls of a writer. -/
theorem performed_of_unanswered {n : Nat} {steps : List (Step (List UInt8))}
    (unanswered : ∀ e ∈ steps, e.outcome? n = none) (w : World (List UInt8)) :
    w.performed n steps = [] := by
  induction steps generalizing w with
  | nil => rfl
  | cons e steps ih =>
    have here := w.performs_of_unanswered (unanswered e List.mem_cons_self)
    have there := ih (fun e member => unanswered e (List.mem_cons_of_mem _ member)) (w.step e)
    rw [World.performed] at there ⊢
    rw [World.history, here, there, List.nil_append]

theorem unanswered_command {n : Nat} {commands : List EchoCommand} {e : Step (List UInt8)}
    (member : e ∈ commands.map EchoCommand.step) : e.outcome? n = none := by
  obtain ⟨command, -, rfl⟩ := List.mem_map.mp member
  cases command <;> rfl

/-- The data of all writes that a socket carries out in a run. -/
def sent (d : Daemon) (events : List DaemonEvent) (n : Nat) : List (List UInt8) :=
  (d.world.performed n (d.trace events)).filterMap Performed.data?

theorem sent_cons (d : Daemon) (e : DaemonEvent) (events : List DaemonEvent) (n : Nat) :
    d.sent (e :: events) n =
      (d.world.performed n (d.moves e)).filterMap Performed.data? ++ (d.step e).sent events n := by
  rw [sent, trace, World.performed, World.history_append, List.filterMap_append, ← world_step]
  rfl

/-- The home of every token after an event. -/
def homesAfter (home : Nat → Option Nat) (d : Daemon) (handed : List EchoEvent) :
    Nat → Option Nat :=
  homes home d.scheduler.lastToken ((arrived handed).map Prod.snd)

theorem Sound.step (sound : d.Sound home written) (e : DaemonEvent) :
    (d.step e).Sound (homesAfter home d (d.hands e)) fun n =>
      written n ++ (d.world.performed n (d.moves e)).filterMap Performed.data? := by
  -- only a poll of a writer adds to the data
  have quiet (unanswered : ∀ n, ∀ step ∈ d.moves e, step.outcome? n = none) :
      (fun n => written n ++ (d.world.performed n (d.moves e)).filterMap Performed.data?) =
        written := by
    funext n
    rw [performed_of_unanswered (unanswered n), List.filterMap_nil, List.append_nil]
  -- nor does a token get a home unless something is handled
  have settled : homesAfter home d [] = home := homes_nil sound.given
  cases e with
  | accepts loop answer =>
    rw [quiet fun n step member => List.mem_singleton.mp member ▸ rfl, hands, settled]
    exact ⟨sound.bridge.pollAccept _ _ _, sound.given, sound.listed⟩
  | reads socket ready =>
    rw [quiet fun n step member => List.mem_singleton.mp member ▸ rfl, hands, settled]
    exact ⟨sound.bridge.pollRead socket rfl, sound.given, sound.listed⟩
  | writes socket ready =>
    have added : (fun n => written n ++
        (d.world.performed n (d.moves (.writes socket ready))).filterMap Performed.data?) =
          World.added written d.world (.pollWrite socket { ready }) := by
      funext n
      simp [World.added, World.performed, World.history, moves]
    rw [added, hands, settled]
    exact ⟨sound.bridge.pollWrite socket rfl, sound.given, sound.listed⟩
  | closes =>
    have still : homesAfter home d (d.hands .closes) = home := homes_nil sound.given
    rw [quiet fun n step member => unanswered_command member, still]
    refine ⟨⟨?_, by rintro _ _ ⟨⟩, by rintro _ _ ⟨⟩⟩, sound.given, by rintro _ ⟨⟩⟩
    rw [world_step]
    refine sound.bridge.housed.run fun step member => ?_
    obtain ⟨command, asked, rfl⟩ := List.mem_map.mp member
    obtain ⟨e, listed, about⟩ := List.mem_flatMap.mp asked
    have homed := sound.listed e listed
    simp only [List.mem_cons, List.not_mem_nil, or_false] at about
    rcases about with rfl | rfl
    · exact ⟨e.1, homed⟩
    · exact ⟨e.1, homed⟩
  | handles =>
    rcases popped : d.world.take 0 with ⟨w, _ | record⟩
    · have still : d.moves .handles = [] := by simp only [moves, popped]
      rw [quiet (by simp [still])]
      simp only [Daemon.step, next, hands, popped, settled]
      exact sound
    · have taken : (d.world.take 0).2 = some record := congrArg Prod.snd popped
      rw [quiet fun n step member => ?_]
      · simp only [Daemon.step, next, hands, popped]
        have handled := (sound.handle taken).2
        rwa [popped] at handled
      · simp only [moves, popped, List.mem_cons] at member
        rcases member with rfl | member
        · rfl
        · exact unanswered_command member

theorem Sound.run_homes (sound : d.Sound home written) (events : List DaemonEvent) :
    (d.run events).Sound (homesAfter home d (d.handled events)) fun n =>
      written n ++ d.sent events n := by
  induction events generalizing d home written with
  | nil =>
    have same : (fun n => written n ++ d.sent [] n) = written := by
      funext n
      exact List.append_nil (written n)
    have still : homesAfter home d (d.handled []) = home := homes_nil sound.given
    rw [same, still]
    exact sound
  | cons e events ih =>
    have last := ih (sound.step e)
    simp only [List.append_assoc, ← sent_cons] at last
    have given : (d.step e).scheduler.lastToken =
        d.scheduler.lastToken + ((arrived (d.hands e)).map Prod.snd).length := by
      rw [scheduler_step, Scheduler.lastToken_run, List.length_map]
    rwa [homesAfter, homesAfter, given, homes_append, ← List.map_append, ← arrived_append] at last

theorem Sound.run (sound : d.Sound home written) (events : List DaemonEvent) :
    ∃ home', (d.run events).Sound home' fun n => written n ++ d.sent events n :=
  ⟨_, sound.run_homes events⟩

/-- A daemon starts without connections. -/
theorem Sound.start {w : World (List UInt8)} (socketless : w.sockets = [])
    (unread : w.queues.waiting = []) (listener : Nat) :
    (Daemon.start w listener).Sound (fun _ => none) fun _ => [] := by
  have same : (Daemon.start w listener).world.sockets = [] := by
    simp only [Daemon.start, World.accept]
    split
    · exact socketless
    · split
      · exact socketless
      · split <;> exact socketless
  have first : ∀ r ∈ (Daemon.start w listener).world.queues.waiting,
      r.2.stream? = none ∧ r.2.connection = none := by
    intro r waits
    rcases World.mem_waiting_step (e := .accept listener { schedulee := acceptToken }) waits with
      old | pushed
    · rw [unread] at old
      cases old
    · cases World.tells_of_pushes pushed with
      | accepts => exact ⟨rfl, rfl⟩
  refine ⟨⟨⟨by simp, by simp, ?_, ?_, ?_, ?_, ?_⟩, by rintro _ _ ⟨⟩, by rintro _ _ ⟨⟩⟩,
    fun _ _ => rfl, by rintro _ ⟨⟩⟩
  · intro n s r found
    rw [same] at found
    cases found
  · intro n s data task found
    rw [same] at found
    cases found
  · intro r waits token stream
    cases (first r waits).1.symm.trans stream
  · intro r waits n names
    cases (first r waits).2.symm.trans names
  · rw [List.filterMap_eq_nil_iff.mpr fun r waits => (first r waits).2]
    exact List.nodup_nil

/-- What a launched daemon starts with: one bridge with one listener. -/
def firstWorld (size : Nat) (near : SocketAddr) : World (List UInt8) where
  buffers := [size]
  handles := (({} : Handles).track 0).1
  metrics := ({} : Metrics).opened
  listeners := [{ guard := (({} : Handles).track 0).2, near, held := 1 }]

theorem launch_eq {h : Host} {n : Network} {c : BridgeConfig}
    (launched : Daemon.launch h n c = .ok d) :
    ∃ size near, d = Daemon.start (firstWorld size near) 0 := by
  obtain ⟨⟨w, bridge⟩, added, launched⟩ := bind_eq_ok launched
  obtain ⟨_, _, launched⟩ := bind_eq_ok launched
  obtain ⟨address, _, launched⟩ := bind_eq_ok launched
  obtain ⟨⟨v, listener⟩, listens, launched⟩ := bind_eq_ok launched
  have added := mapError_eq_ok added
  have listens := mapError_eq_ok listens
  obtain rfl := Except.ok.inj launched
  unfold World.addBridge at added
  split at added
  · obtain ⟨rfl, rfl⟩ := Prod.mk.inj (Except.ok.inj added)
    unfold World.listen at listens
    split at listens
    · cases listens
    · split at listens
      · cases listens
      · obtain ⟨rfl, rfl⟩ := Prod.mk.inj (Except.ok.inj listens)
        exact ⟨_, _, rfl⟩
  · cases added

theorem Sound.launch {h : Host} {n : Network} {c : BridgeConfig}
    (launched : Daemon.launch h n c = .ok d) : d.Sound (fun _ => none) fun _ => [] := by
  obtain ⟨size, near, rfl⟩ := launch_eq launched
  exact .start rfl rfl 0

end Daemon

/-- The data of a write under a token. -/
def WriteCommand.dataFor (token : Nat) : WriteCommand → Option (List UInt8)
  | write data task => if task.schedulee = token then some data else none
  | shutdown => none

/-- The data of a token's writes that are out: those whose records wait, and those in line. -/
def Daemon.outstanding (d : Daemon) (events : List DaemonEvent) (token socket : Nat) :
    List (List UInt8) :=
  let w := (d.run events).world
  let sent := d.sent events socket
  sent.drop (sent.length - (w.writesFor token).length) ++
    (w.sockets[socket]?).elim [] fun s => s.writer.commands.filterMap (WriteCommand.dataFor token)

theorem WriteSide.length_le {inFlight : Option (List UInt8)} {commands : List WriteCommand}
    {records : List WriteRecord} {written : List (List UInt8)}
    (side : WriteSide token inFlight commands records written) :
    records.length ≤ written.length := by
  cases side with
  | idle | waits => exact Nat.zero_le _
  | told data record written before split => simp [split]

theorem WriteSide.outstanding {inFlight : Option (List UInt8)} {commands : List WriteCommand}
    {records : List WriteRecord} {written : List (List UInt8)}
    (side : WriteSide token inFlight commands records written) :
    written.drop (written.length - records.length) ++
      commands.filterMap (WriteCommand.dataFor token) = inFlight.toList := by
  cases side with
  | idle => simp
  | waits => simp [WriteCommand.dataFor]
  | told data record written before split => simp [split]

namespace World

/-- Whatever the host answers to the read of a socket makes a record for a token. -/
def ReadRuns (w : World (List UInt8)) (n token : Nat) : Prop :=
  ∀ outcome, ∃ q, q.schedulee = token ∧
    w.pushes (.pollRead n { ready := some outcome }) = [(0, .read q)]

/-- Whatever the host answers to the first command in line of a socket makes a record for a
token. -/
def WriteRuns (w : World (List UInt8)) (n token : Nat) : Prop :=
  ∀ outcome, ∃ q, q.schedulee = token ∧
    w.pushes (.pollWrite n { ready := some outcome }) = [(0, .write q)]

variable {w : World (List UInt8)} {c : EchoConnection} {written : List (List UInt8)}

theorem Serves.read_runs (serves : w.Serves token c written) (unfinished : c.finished = false) :
    w.readsFor token ≠ [] ∨ w.ReadRuns c.socket token := by
  obtain ⟨s, found, served⟩ := serves
  have side := served.reading
  rw [unfinished] at side
  generalize reading : s.reading = running at side
  generalize w.readsFor token = told at side ⊢
  cases side with
  | ends _ front last split => exact .inl (by simp [split])
  | runs r _ owner queue decoder =>
    refine .inr fun outcome => ?_
    rw [pushes_pollRead found served.live reading queue]
    have passes := ReadLoop.turn_passes decoder { ready := some outcome } rfl
    generalize r.turn false { ready := some outcome } = turn at passes ⊢
    obtain ⟨next, record, received, call⟩ := turn
    cases passes with
    | waits pending => cases pending
    | closes q same => exact ⟨q, same.trans owner, rfl⟩
    | passes next q same => exact ⟨q, same.trans owner, rfl⟩

theorem Serves.write_runs (serves : w.Serves token c written) {data : List UInt8}
    (flight : c.outbox.inFlight = some data) :
    w.writesFor token ≠ [] ∨ w.WriteRuns c.socket token := by
  obtain ⟨s, found, served⟩ := serves
  have side := served.writing
  rw [flight] at side
  generalize commands : s.writer.commands = line at side
  generalize w.writesFor token = told at side ⊢
  cases side with
  | told => exact .inl nofun
  | waits =>
    refine .inr fun outcome => ?_
    have performs : w.performs c.socket (.pollWrite c.socket { ready := some outcome }) =
        [⟨.write data { schedulee := token }, outcome⟩] := by
      simp [World.performs, found, Step.outcome?, served.live, commands]
    have advances := advances_pollWrite found served.live served.running
      { ready := some outcome } rfl
    obtain ⟨r, record, owner⟩ :=
      Performed.record_of_write (p := ⟨.write data { schedulee := token }, outcome⟩) rfl
    refine ⟨r, owner, ?_⟩
    rw [pushes_pollWrite found, advances.told, performs, List.filterMap_cons, record]
    rfl

end World

/-- From the launch of a daemon on, however its events are interleaved and whatever the host
answers: the writes of an open token that are out, in line or told by a record that waits, are the
one in flight; without one the backlog is empty. The connection is not both finished and drained, so
its read still runs or has left a record that waits, or a write is out; and each of these makes a
record that waits for the scheduler. -/
theorem no_stuck_connection {h : Host} {n : Network} {config : BridgeConfig} {d : Daemon}
    (launched : Daemon.launch h n config = .ok d) (events : List DaemonEvent) {token : Nat}
    {c : EchoConnection} (opened : (d.run events).scheduler.find? token = some c) :
    let w := (d.run events).world
    d.outstanding events token c.socket = c.outbox.inFlight.toList ∧
    (w.writesFor token).length ≤ (d.sent events c.socket).length ∧
    (∀ m s data task, w.sockets[m]? = some s → .write data task ∈ s.writer.commands →
      task.schedulee = token → m = c.socket) ∧
    (d.outstanding events token c.socket = [] → c.outbox.backlog = []) ∧
    ¬(c.finished = true ∧ c.outbox.drained = true) ∧
    (c.finished = false ∨ d.outstanding events token c.socket ≠ []) ∧
    (c.finished = false → w.readsFor token ≠ [] ∨ w.ReadRuns c.socket token) ∧
    (d.outstanding events token c.socket ≠ [] →
      w.writesFor token ≠ [] ∨ w.WriteRuns c.socket token) := by
  intro w
  obtain ⟨home, sound⟩ := (Daemon.Sound.launch launched).run events
  have serves := sound.bridge.serves token c opened
  obtain ⟨s, found, served⟩ := sound.bridge.serves token c opened
  have out : d.outstanding events token c.socket = c.outbox.inFlight.toList := by
    rw [← served.writing.outstanding, Daemon.outstanding, found]
    rfl
  have undone : ¬(c.finished = true ∧ c.outbox.drained = true) := by
    simpa [EchoConnection.done] using served.undone
  rw [out]
  refine ⟨rfl, by simpa using served.writing.length_le, ?_, fun none => ?_, undone, ?_,
    serves.read_runs, fun some => ?_⟩
  · intro m s data task found waits own
    have there := sound.bridge.housed.writing m s data task found waits
    rw [own, sound.bridge.homed token c opened] at there
    exact (Option.some.inj there).symm
  · exact served.idle (Option.toList_eq_nil_iff.mp none)
  · cases flight : c.outbox.inFlight with
    | some data => exact .inr (List.cons_ne_nil _ _)
    | none =>
      refine .inl ((Bool.not_eq_true _).mp fun finished => undone ⟨finished, ?_⟩)
      exact c.outbox.drained_iff.mpr ⟨flight, served.idle flight⟩
  · cases flight : c.outbox.inFlight with
    | none => exact absurd (congrArg Option.toList flight) some
    | some data => exact serves.write_runs flight

/-- A host with one address, where everything can be bound. -/
def loneHost : Host where
  addresses := some [some .inet]
  names := [("localhost", .ok [.near 0])]

def loneNetwork : Network where
  bind := .ok
  connect _ := .error .networkUnreachable
  lookup := loneHost.lookupName

/-- A client sends three bytes, of which two are written back, and ends its stream. -/
def shortEcho : List DaemonEvent :=
  let near := SocketAddr.near 7070
  [.accepts 0 { ready := some (.ok (.ok ⟨near, near⟩)) }, .handles, .handles,
    .reads 0 (some (.ok [1, 2, 3])), .handles, .writes 0 (some (.ok 2)), .reads 0 (some (.ok [])),
    .handles, .handles]

/-- The third byte is the only thing that still keeps the connection open. -/
theorem no_stuck_connection_of_short_echo :
    ∃ d, Daemon.launch loneHost loneNetwork {} = .ok d ∧
      (d.run shortEcho).scheduler.find? 1 = some ⟨0, ⟨some [3], []⟩, true⟩ ∧
      d.outstanding shortEcho 1 0 = [[3]] ∧
      ((d.run shortEcho).world.writesFor 1 ≠ [] ∨ (d.run shortEcho).world.WriteRuns 0 1) := by
  have reached : (Daemon.launch loneHost loneNetwork {}).toOption.map
      (fun d => (d.run shortEcho).scheduler.find? 1) = some (some ⟨0, ⟨some [3], []⟩, true⟩) := by
    decide +kernel
  obtain ⟨d, started, opened⟩ := Option.map_eq_some_iff.mp reached
  have launched : Daemon.launch loneHost loneNetwork {} = .ok d := by
    cases launch : Daemon.launch loneHost loneNetwork {} with
    | error f =>
      rw [launch] at started
      cases started
    | ok d' =>
      rw [launch] at started
      exact congrArg Except.ok (Option.some.inj started)
  obtain ⟨out, -, -, -, -, -, -, runs⟩ := no_stuck_connection launched shortEcho opened
  exact ⟨d, launched, opened, out, runs (by simp [out])⟩

end SocketBridge
