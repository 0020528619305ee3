import SocketBridge.Proofs.Bridge.Funnel
import SocketBridge.Proofs.Bridge.Parting
import SocketBridge.Proofs.Echo.Isolation

/-!
# The handles of a daemon

A daemon holds its listener and the socket of each open connection, each by one handle, and nothing
else. All that it does not hold is calm.
-/

namespace SocketBridge

variable {home : Nat → Option Nat} {token : Nat}

theorem ReadSide.unread {reading : Option (ReadLoop (List UInt8))}
    {told : List (ReadRecord (List UInt8))} (side : ReadSide token reading true told) :
    reading = none := by
  cases side
  rfl

theorem WriteSide.line {commands : List WriteCommand} {records : List WriteRecord}
    {written : List (List UInt8)} (side : WriteSide token none commands records written) :
    commands = [] := by
  cases side
  rfl

namespace EchoConnection

variable {c : EchoConnection} {s : Socket (List UInt8)} {reads : List (ReadRecord (List UInt8))}
  {writes : List WriteRecord} {written : List (List UInt8)}

theorem settle_eq_none (ends : c.settle.1 = none) :
    c.finished = true ∧ c.outbox.inFlight = none ∧
      c.settle.2 = [.shutdownWrite c.socket, .drop c.socket] := by
  unfold settle at ends ⊢
  split at ends
  · rename_i done
    have both : c.finished = true ∧ c.outbox.drained = true := Bool.and_eq_true_iff.mp done
    exact ⟨both.1, (c.outbox.drained_iff.mp both.2).1, congrArg Prod.snd (if_pos done)⟩
  · cases ends

/-- A connection that ends is cancelled, or nothing of it runs but a half-close. -/
theorem Served.ends {record : Completion (List UInt8)} (stream : record.stream? = some token)
    (served : c.Served token s ((record.readFor token).toList ++ reads)
      ((record.writeFor token).toList ++ writes) written)
    (ended : (c.turn token record).1 = none) :
    (c.turn token record).2 = [.cancel c.socket, .drop c.socket] ∨
      ((c.turn token record).2 = [.shutdownWrite c.socket, .drop c.socket] ∧ s.Calm) := by
  rcases c.turn_cases stream with
    ⟨_, turn⟩ | ⟨q, payload, _, _, _, turn⟩ | ⟨q, rfl, ending, _, turn⟩ | ⟨q, rfl, _, turn⟩
  · exact .inl (congrArg Prod.snd turn)
  · rw [turn] at ended
    cases ended
  · rw [turn] at ended ⊢
    obtain ⟨-, flight, commands⟩ := settle_eq_none ended
    have own : q.schedulee = token := Option.some.inj stream
    have terminal : q.isData = false := by
      simp_all [ReadRecord.isData, ReadRecord.isEndOfStream]
    have reading := served.reading
    have writing := served.writing
    simp only [Completion.readFor, Completion.writeFor, if_pos own, Option.toList_some,
      Option.toList_none, List.cons_append, List.nil_append] at reading writing
    rw [show c.outbox.inFlight = none from flight] at writing
    refine .inr ⟨commands, .inr ⟨(reading.last terminal).unread, ?_⟩⟩
    simp [writing.line]
  · rw [turn] at ended ⊢
    obtain ⟨finished, flight, commands⟩ := settle_eq_none ended
    have own : q.schedulee = token := Option.some.inj stream
    have reading := served.reading
    have writing := served.writing
    simp only [Completion.readFor, Completion.writeFor, if_pos own, Option.toList_some,
      Option.toList_none, List.cons_append, List.nil_append] at reading writing
    rw [show c.finished = true from finished] at reading
    have idle := writing.complete q.bytesWritten
    rw [show (c.outbox.complete q.bytesWritten).2.inFlight = none from flight] at idle
    obtain ⟨line, asked⟩ := List.append_eq_nil_iff.mp idle.line
    have unasked : (c.outbox.complete q.bytesWritten).1 = none := by
      simpa [writesOf] using asked
    refine .inr ⟨?_, .inr ⟨reading.unread, by simp [line]⟩⟩
    rw [commands, unasked]
    rfl

end EchoConnection

theorem EchoCommand.funnels (command : EchoCommand) : command.step.Funnels 0 := by
  cases command <;> first | rfl | exact trivial

namespace World

variable {w : World (List UInt8)} {o : Owner}

/-- Commands about other sockets do nothing to an object. -/
theorem run_apart {commands : List EchoCommand}
    (apart : ∀ command ∈ commands, ∃ n, command.socket? = some n ∧ o ≠ .socket n) :
    (w.run (commands.map EchoCommand.step)).held o = w.held o ∧
      (w.Calm o → (w.run (commands.map EchoCommand.step)).Calm o) := by
  induction commands generalizing w with
  | nil => exact ⟨rfl, id⟩
  | cons command commands ih =>
    obtain ⟨n, about, other⟩ := apart command List.mem_cons_self
    obtain ⟨held, calm⟩ := ih (w := w.step command.step) fun command member =>
      apart command (List.mem_cons_of_mem _ member)
    have asleep : ¬command.step.Wakes o := by
      cases command <;> cases o <;> simp_all [EchoCommand.socket?, EchoCommand.step, Step.Wakes]
      all_goals exact fun same => other same.symm
    have kept : (w.step command.step).held o = w.held o := by
      cases command with
      | drop m =>
        obtain rfl := Option.some.inj about
        exact (congrFun (w.held_drop rfl) o).trans (Function.update_of_ne other ..)
      | dropListener => cases about
      | read | write | shutdownWrite | cancel => exact congrFun (w.held_step id) o
    exact ⟨held.trans kept, fun before => calm (before.step asleep)⟩

/-- A connection that goes on keeps its handle; one that ends gives it up and leaves its socket
calm. -/
theorem run_turn {c : EchoConnection} {s : Socket (List UInt8)} {record : Completion (List UInt8)}
    {reads : List (ReadRecord (List UInt8))} {writes : List WriteRecord}
    {written : List (List UInt8)} (stream : record.stream? = some token)
    (found : w.sockets[c.socket]? = some s) (held : w.held (.socket c.socket) = 1)
    (served : c.Served token s ((record.readFor token).toList ++ reads)
      ((record.writeFor token).toList ++ writes) written) :
    let after := w.run ((c.turn token record).2.map EchoCommand.step)
    (∀ b, (c.turn token record).1 = some b → after.held (.socket c.socket) = 1) ∧
      ((c.turn token record).1 = none →
        after.held (.socket c.socket) = 0 ∧ after.Calm (.socket c.socket)) := by
  intro after
  refine ⟨fun b goesOn => ?_, fun ended => ?_⟩
  · obtain ⟨data, asked, -⟩ := turn_of_mail stream served goesOn
    simp only [after, asked]
    cases data with
    | none => exact held
    | some data =>
      have kept := w.held_step (e := .write c.socket data { schedulee := token }) id
      exact (congrFun kept _).trans held
  · simp only [after]
    rcases served.ends stream ended with commands | ⟨commands, calm⟩
    · rw [commands]
      have due : w.Due [.cancelSocket c.socket, .dropSocket c.socket] (.socket c.socket) :=
        due_of_cancel rfl rfl held []
      refine due.run fun e member => ?_
      simp only [List.mem_cons, List.not_mem_nil, or_false] at member
      rcases member with rfl | rfl <;> exact trivial
    · rw [commands]
      let closed := w.step (.shutdownWrite c.socket)
      have kept : closed.held (.socket c.socket) = 1 := (congrFun (w.held_step id) _).trans held
      have before : w.Calm (.socket c.socket) := fun s' found' => by
        rwa [Option.some.inj (found'.symm.trans found)]
      refine ⟨?_, (before.step (e := .shutdownWrite c.socket) id).step
        (e := .dropSocket c.socket) id⟩
      have dropped := closed.held_drop (e := .dropSocket c.socket) rfl
      exact (congrFun dropped _).trans (by rw [Function.update_self, kept])

theorem mem_closeAll {entries : List (Nat × EchoConnection)} {command : EchoCommand}
    (asked : command ∈ (Scheduler.closeAll { connections := entries }).2) :
    ∃ n, command = .cancel n ∨ command = .drop n := by
  obtain ⟨entry, -, about⟩ := List.mem_flatMap.mp asked
  exact ⟨entry.2.socket, by simpa using about⟩

theorem parts_closeAll {entries : List (Nat × EchoConnection)} {e : Step (List UInt8)}
    (member : e ∈ (Scheduler.closeAll { connections := entries }).2.map EchoCommand.step) :
    e.Parts := by
  obtain ⟨command, asked, rfl⟩ := List.mem_map.mp member
  obtain ⟨n, rfl | rfl⟩ := mem_closeAll asked <;> exact trivial

/-- The end of all connections is due for the socket of each. -/
theorem due_closeAll {entries : List (Nat × EchoConnection)} {entry : Nat × EchoConnection}
    (listed : entry ∈ entries) (held : w.held (.socket entry.2.socket) = 1) :
    w.Due ((Scheduler.closeAll { connections := entries }).2.map EchoCommand.step)
      (.socket entry.2.socket) := by
  simp only [Scheduler.closeAll]
  induction entries with
  | nil => cases listed
  | cons first rest ih =>
    simp only [List.flatMap_cons, List.map_cons, List.cons_append, List.nil_append]
    by_cases own : first.2.socket = entry.2.socket
    · rw [own]
      exact due_of_cancel rfl rfl held _
    · have there : entry ∈ rest := by
        rcases List.mem_cons.mp listed with rfl | there
        · exact absurd rfl own
        · exact there
      refine ((ih there).later ?_).later ?_
      · simpa [EchoCommand.step, Step.drops?] using own
      · simp [EchoCommand.step, Step.drops?]

end World

namespace Daemon

variable {d : Daemon} {written : Nat → List (List UInt8)} {o : Owner}

/-- The objects onto which a daemon holds a handle: its listener and the open connections. -/
def Holds (d : Daemon) (o : Owner) : Prop :=
  o = .listener d.listener ∨
    ∃ token c, d.scheduler.find? token = some c ∧ o = .socket c.socket

structure Tidy (d : Daemon) : Prop where
  funnels : d.world.Funnels 0
  one : ∀ o, d.Holds o → d.world.held o = 1
  rest : ∀ o, ¬d.Holds o → d.world.held o = 0 ∧ d.world.Calm o

/-- A poll leaves all handles. -/
theorem Tidy.poll (tidy : d.Tidy) {e : Step (List UInt8)} (closing : e.Closing)
    (kept : ¬e.Transfers) : Tidy { d with world := d.world.step e } := by
  have held : (d.world.step e).held = d.world.held := d.world.held_step kept
  refine ⟨tidy.funnels.step (closing.funnels 0), fun o holds => ?_, fun o other => ?_⟩
  · exact (congrFun held o).trans (tidy.one o holds)
  · obtain ⟨unheld, calm⟩ := tidy.rest o other
    exact ⟨(congrFun held o).trans unheld, calm.step (closing.asleep o)⟩

/-- A record that the scheduler has no use for is thrown away. -/
theorem Tidy.discard (tidy : d.Tidy) {record : Completion (List UInt8)}
    (taken : (d.world.take 0).2 = some record) :
    Tidy { d with world := (d.world.take 0).1.run record.releases } := by
  have plain := (tidy.funnels.waiting _ (World.mem_waiting_of_take taken)).2
  have held := World.held_of_discard taken plain.lone
  have parts : ∀ e ∈ record.releases, e.Closing := fun e member =>
    (Completion.parts_of_releases member).closing
  refine ⟨?_, fun o holds => ?_, fun o other => ?_⟩
  · exact (tidy.funnels.step (e := .take 0) trivial).run fun e member => (parts e member).funnels 0
  · exact (congrFun held o).trans (tidy.one o holds)
  · obtain ⟨unheld, calm⟩ := tidy.rest o other
    refine ⟨(congrFun held o).trans unheld, ?_⟩
    exact (calm.step (e := .take 0) id).run fun e member => (parts e member).asleep o

/-- A daemon that has taken a record and reads from the socket in it. -/
def welcome (d : Daemon) (n : Nat) : Daemon where
  world := (d.world.take 0).1.step (.read n .bytes { schedulee := d.scheduler.lastToken + 1 })
  listener := d.listener
  scheduler := ⟨d.scheduler.lastToken + 1,
    d.scheduler.connections ++ [(d.scheduler.lastToken + 1, { socket := n })]⟩

theorem holds_welcome (ordered : d.scheduler.Ordered) (n : Nat) (o : Owner) :
    (d.welcome n).Holds o ↔ d.Holds o ∨ o = .socket n := by
  simp only [Holds, welcome, Scheduler.find?_opened ordered]
  constructor
  · rintro (own | ⟨token, c, isOpen, rfl⟩)
    · exact .inl (.inl own)
    · split at isOpen
      · obtain rfl := Option.some.inj isOpen
        exact .inr rfl
      · exact .inl (.inr ⟨token, c, isOpen, rfl⟩)
  · rintro ((own | ⟨token, c, isOpen, rfl⟩) | rfl)
    · exact .inl own
    · have given := ordered token c isOpen
      exact .inr ⟨token, c, by rw [if_neg (by omega), isOpen], rfl⟩
    · exact .inr ⟨_, _, if_pos rfl, rfl⟩

/-- A client has connected: its socket is held from now on. -/
theorem Tidy.welcome (tidy : d.Tidy) (sound : d.Sound home written)
    {record : Completion (List UInt8)} (taken : (d.world.take 0).2 = some record) {n : Nat}
    (names : record.connection = some n) : (d.welcome n).Tidy := by
  have waits := World.mem_waiting_of_take taken
  obtain ⟨⟨s, found, -⟩, unhoused⟩ := sound.bridge.housed.fresh _ waits n names
  have unlisted : record.listener = none :=
    (tidy.funnels.waiting _ waits).2.lone.resolve_left (by simp [names])
  have holds (o : Owner) : record.holds o = decide (o = .socket n) := by
    cases o <;> simp [Completion.holds, names, unlisted, beq_eq_decide, eq_comm]
  have held (o : Owner) :
      (d.welcome n).world.held o = d.world.held o + if o = .socket n then 1 else 0 := by
    rw [Daemon.welcome, World.held_step _ id, World.held_taken taken, holds]
    by_cases own : o = .socket n
    · simp [own, World.guard?, found]
    · simp [own]
  have unheld : ¬d.Holds (.socket n) := by
    rintro (same | ⟨token, c, isOpen, same⟩)
    · cases same
    · obtain rfl := Owner.socket.inj same
      exact unhoused token (sound.bridge.homed token c isOpen)
  have now := holds_welcome sound.ordered n
  refine ⟨?_, fun o owned => ?_, fun o other => ?_⟩
  · exact (tidy.funnels.step (e := .take 0) trivial).step
      (e := .read n .bytes { schedulee := d.scheduler.lastToken + 1 }) rfl
  · rw [held]
    rcases (now o).mp owned with before | rfl
    · have apart : o ≠ .socket n := fun same => unheld (same ▸ before)
      rw [if_neg apart, tidy.one o before]
    · rw [if_pos rfl, (tidy.rest _ unheld).1]
  · have before : ¬d.Holds o := fun before => other ((now o).mpr (.inl before))
    have apart : o ≠ .socket n := fun same => other ((now o).mpr (.inr same))
    obtain ⟨none, calm⟩ := tidy.rest o before
    refine ⟨by rw [held, if_neg apart, none], ?_⟩
    refine (calm.step (e := .take 0) id).step fun wakes => apart ?_
    cases o with
    | socket m => exact congrArg Owner.socket (Eq.symm wakes)
    | listener | connect => exact wakes.elim

/-- A record of an open connection was handled: what is held is what was, but for its socket if the
connection ends. -/
theorem holds_turn (sound : d.Sound home written) {record : Completion (List UInt8)}
    (stream : record.stream? = some token) {c : EchoConnection}
    (isOpen : d.scheduler.find? token = some c) {d' : Daemon} (same : d'.listener = d.listener)
    (others : ∀ other, d'.scheduler.find? other =
      if other = token then (c.turn token record).1 else d.scheduler.find? other) :
    (∀ o, o ≠ .socket c.socket → (d'.Holds o ↔ d.Holds o)) ∧
      (d'.Holds (.socket c.socket) ↔ ∃ b, (c.turn token record).1 = some b) := by
  simp only [Holds, same, others]
  refine ⟨fun o other => or_congr_right ⟨?_, ?_⟩, ?_, ?_⟩
  · rintro ⟨named, b, found, rfl⟩
    split at found
    · exact absurd (congrArg Owner.socket (EchoConnection.socket_turn stream found)) other
    · exact ⟨named, b, found, rfl⟩
  · rintro ⟨named, b, found, rfl⟩
    refine ⟨named, b, ?_, rfl⟩
    rw [if_neg, found]
    rintro rfl
    exact other (congrArg (Owner.socket ·.socket) (Option.some.inj (found.symm.trans isOpen)))
  · rintro (listener | ⟨named, b, found, socket⟩)
    · cases listener
    · split at found
      · exact ⟨b, found⟩
      · rename_i apart
        have homed := sound.bridge.homed named b found
        rw [← Owner.socket.inj socket] at homed
        have own := sound.bridge.homed token c isOpen
        exact absurd (sound.bridge.housed.single named token _ homed own) apart
  · rintro ⟨b, goesOn⟩
    refine .inr ⟨token, b, by rw [if_pos rfl, goesOn], ?_⟩
    rw [EchoConnection.socket_turn stream goesOn]

/-- Its socket is held on, or is given up calm. -/
theorem Tidy.turn (tidy : d.Tidy) (sound : d.Sound home written)
    {record : Completion (List UInt8)} (taken : (d.world.take 0).2 = some record)
    (stream : record.stream? = some token) {c : EchoConnection}
    (isOpen : d.scheduler.find? token = some c) {d' : Daemon} (same : d'.listener = d.listener)
    (stepped : d'.world = (d.world.take 0).1.run ((c.turn token record).2.map EchoCommand.step))
    (others : ∀ other, d'.scheduler.find? other =
      if other = token then (c.turn token record).1 else d.scheduler.find? other) : d'.Tidy := by
  obtain ⟨apart, own⟩ := holds_turn sound stream isOpen same others
  -- a record of a stream holds nothing
  have holds (o : Owner) : record.holds o = false := by
    cases record with
    | read | write => cases o <;> rfl
    | connect | accept => cases stream
  have taking : (d.world.take 0).1.held = d.world.held := by
    funext o
    simp [World.held_taken taken, holds]
  have beside (o : Owner) (other : o ≠ .socket c.socket) :
      d'.world.held o = d.world.held o ∧ (d.world.Calm o → d'.world.Calm o) := by
    obtain ⟨kept, stays⟩ := World.run_apart (w := (d.world.take 0).1) (o := o)
      (fun command asked =>
        ⟨c.socket, EchoConnection.socket?_of_mem_turn stream asked, other⟩)
    rw [stepped, kept, taking]
    exact ⟨rfl, fun calm => stays (calm.step (e := .take 0) id)⟩
  -- the socket itself
  obtain ⟨s, found, served⟩ := (sound.bridge.serves token c isOpen).take 0
  obtain ⟨reads, writes⟩ := World.mail_take token taken
  rw [reads, writes] at served
  have held : (d.world.take 0).1.held (.socket c.socket) = 1 := by
    rw [taking]
    exact tidy.one _ (.inr ⟨token, c, isOpen, rfl⟩)
  obtain ⟨goesOn, ends⟩ := World.run_turn stream found held served
  rw [← stepped] at goesOn ends
  refine ⟨?_, fun o owned => ?_, fun o unowned => ?_⟩
  · rw [stepped]
    refine (tidy.funnels.step (e := .take 0) trivial).run fun e member => ?_
    obtain ⟨command, -, rfl⟩ := List.mem_map.mp member
    exact command.funnels
  · by_cases mine : o = .socket c.socket
    · subst mine
      obtain ⟨b, turned⟩ := own.mp owned
      exact goesOn b turned
    · rw [(beside o mine).1]
      exact tidy.one o ((apart o mine).mp owned)
  · by_cases mine : o = .socket c.socket
    · subst mine
      refine ends (Option.eq_none_iff_forall_ne_some.mpr fun b turned => ?_)
      exact unowned (own.mpr ⟨b, turned⟩)
    · obtain ⟨none, calm⟩ := tidy.rest o fun before => unowned ((apart o mine).mpr before)
      obtain ⟨kept, stays⟩ := beside o mine
      exact ⟨kept.trans none, stays calm⟩

/-- The end of all connections. -/
theorem Tidy.closes (tidy : d.Tidy) : (d.step .closes).Tidy := by
  have stepped : (d.step .closes).world = d.world.run (d.moves .closes) := d.world_step .closes
  have parts : ∀ e ∈ d.moves .closes, e.Parts := fun e => World.parts_closeAll
  have single (o : Owner) : (d.step .closes).Holds o ↔ o = .listener d.listener := by
    constructor
    · rintro (own | ⟨token, c, isOpen, -⟩)
      · exact own
      · cases isOpen
    · exact .inl
  refine ⟨?_, fun o owned => ?_, fun o unowned => ?_⟩
  · rw [stepped]
    exact tidy.funnels.run fun e member => (parts e member).closing.funnels 0
  · obtain rfl := (single o).mp owned
    rw [stepped]
    have kept : (d.world.run (d.moves .closes)).held (.listener d.listener) = _ :=
      (World.run_apart fun command member => by
        obtain ⟨n, rfl | rfl⟩ := World.mem_closeAll member <;> exact ⟨n, rfl, nofun⟩).1
    rw [kept]
    exact tidy.one _ (.inl rfl)
  · rw [stepped]
    refine World.Due.run ?_ parts
    by_cases held : d.Holds o
    · obtain own | ⟨token, c, isOpen, rfl⟩ := held
      · exact absurd ((single o).mpr own) unowned
      · exact World.due_closeAll (Scheduler.mem_of_find? isOpen)
          (tidy.one _ (.inr ⟨token, c, isOpen, rfl⟩))
    · obtain ⟨unheld, calm⟩ := tidy.rest o held
      exact World.due_of_done unheld calm _

/-- A record that is handled. -/
theorem Tidy.handle (tidy : d.Tidy) (sound : d.Sound home written)
    {record : Completion (List UInt8)} (taken : (d.world.take 0).2 = some record) :
    ({ d with world := (d.world.take 0).1 }.handle record).Tidy := by
  have plain := (tidy.funnels.waiting _ (World.mem_waiting_of_take taken)).2
  unfold Daemon.handle
  simp only [obey_commands]
  cases stream : record.stream? with
  | some token =>
    cases isOpen : d.scheduler.find? token with
    | some c =>
      obtain ⟨commands, -, others⟩ := Scheduler.handle_open
        (starts (d.world.take 0).1 record) stream isOpen
      rw [commands]
      exact tidy.turn sound taken stream isOpen rfl rfl others
    | none =>
      rw [Scheduler.handle_stale _ stream isOpen]
      have thrown := tidy.discard taken
      cases record with
      | read | write => exact thrown
      | connect | accept => cases stream
  | none =>
    cases record with
    | read | write => cases stream
    | connect q => exact absurd rfl (plain.unconnected q)
    | accept q =>
      cases names : q.connection with
      | some n =>
        have begins := (sound.bridge.arrival taken stream names
          (sound.given (d.scheduler.lastToken + 1) (Nat.lt_succ_self _))).1
        have welcomed := tidy.welcome sound taken names
        simp only [Scheduler.handle, Scheduler.onAccept, names, Scheduler.onConnection, begins,
          if_true]
        exact welcomed
      | none =>
        have thrown := tidy.discard taken
        simp only [Scheduler.handle, Scheduler.onAccept, names]
        cases listener : q.listener <;>
          simpa [Completion.releases, Completion.connection, Completion.listener, names, listener,
            EchoCommand.step] using thrown

theorem Tidy.step (tidy : d.Tidy) (sound : d.Sound home written) (e : DaemonEvent) :
    (d.step e).Tidy := by
  cases e with
  | accepts loop answer =>
    exact tidy.poll (e := .pollAccept d.listener loop answer) trivial id
  | reads socket ready => exact tidy.poll (e := .pollRead socket { ready }) trivial id
  | writes socket ready => exact tidy.poll (e := .pollWrite socket { ready }) trivial id
  | closes => exact tidy.closes
  | handles =>
    rcases popped : d.world.take 0 with ⟨w, _ | record⟩
    · simpa only [Daemon.step, next, popped] using tidy
    · have handled := tidy.handle sound (congrArg Prod.snd popped)
      rw [popped] at handled
      simpa only [Daemon.step, next, popped] using handled

theorem Tidy.run (tidy : d.Tidy) (sound : d.Sound home written) (events : List DaemonEvent) :
    (d.run events).Tidy := by
  induction events generalizing d home written with
  | nil => exact tidy
  | cons e events ih => exact ih (tidy.step sound e) (sound.step e)

theorem funnels_first (size : Nat) (near : SocketAddr) : (firstWorld size near).Funnels 0 where
  unconnected := rfl
  reading _ _ _ found := by cases found
  writing _ _ _ _ found := by cases found
  accepting l x task found loops := by
    cases l with
    | succ l => cases found
    | zero =>
      cases found
      cases loops
  waiting _ waits := by cases waits

theorem missing_first (size : Nat) (near : SocketAddr) (other : o ≠ .listener 0) :
    (firstWorld size near).guard? o = none := by
  cases o with
  | socket | connect => rfl
  | listener l =>
    cases l with
    | zero => exact absurd rfl other
    | succ l => rfl

/-- A daemon starts with its listener and nothing else. -/
theorem Tidy.launch {h : Host} {n : Network} {config : BridgeConfig}
    (launched : Daemon.launch h n config = .ok d) : d.Tidy := by
  obtain ⟨size, near, rfl⟩ := launch_eq launched
  have kept := (firstWorld size near).held_step (e := .accept 0 { schedulee := acceptToken }) id
  refine ⟨(funnels_first size near).step (e := .accept 0 { schedulee := acceptToken }) rfl,
    fun o holds => ?_, fun o other => ?_⟩
  · obtain rfl | ⟨token, c, isOpen, -⟩ := holds
    · exact (congrFun kept _).trans rfl
    · cases isOpen
  · have missing := missing_first size near fun same => other (.inl same)
    refine ⟨(congrFun kept o).trans (World.held_of_missing missing), ?_⟩
    exact (World.calm_of_missing missing rfl).step (e := .accept 0 { schedulee := acceptToken }) id

end Daemon

end SocketBridge
