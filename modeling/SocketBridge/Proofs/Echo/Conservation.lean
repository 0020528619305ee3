import SocketBridge.Proofs.Echo.Outbox
import SocketBridge.Proofs.Echo.Run

/-!
# Conservation of echoed bytes

What comes in on a connection goes out on it, byte for byte. The two sides are kept apart: a history
is told from the records handled and the commands given alone, and is compared with the outbox. A
write record answers the oldest write that is out, as the socket completes its writes in order.
-/

namespace SocketBridge

/-- What the outside has seen of one token. -/
structure EchoHistory where
  /-- The payloads of its read records. -/
  received : List UInt8 := []
  /-- Whether the record of the end of its stream was handled. -/
  ended : Bool := false
  /-- Its writes that were answered, each with the number of bytes reported written. -/
  completed : List (List UInt8 × Nat) := []
  /-- Its writes that were not, oldest first. -/
  outstanding : List (List UInt8) := []

namespace EchoHistory

/-- The bytes that were reported written. -/
def released (h : EchoHistory) : List UInt8 := h.completed.flatMap fun w => w.1.take w.2

/-- Counts a write record as the answer to the oldest write, if there is one. -/
def answer (h : EchoHistory) (written : Nat) : EchoHistory :=
  match h.outstanding with
  | [] => h
  | data :: rest => { h with completed := h.completed ++ [(data, written)], outstanding := rest }

/-- Counts a record that names the token. -/
def record (h : EchoHistory) : Completion (List UInt8) → EchoHistory
  | .read r =>
    { h with received := h.received ++ r.payload.getD [], ended := h.ended || r.isEndOfStream }
  | .write r => h.answer r.bytesWritten
  | _ => h

/-- Counts the writes among some commands. -/
def issue (token : Nat) (h : EchoHistory) (commands : List EchoCommand) : EchoHistory :=
  { h with outstanding := h.outstanding ++ commands.filterMap (·.data? token) }

/-- Counts one step of a scheduler. A record counts if its token is open when it comes. -/
def step (token : Nat) (s : Scheduler) (h : EchoHistory) (e : EchoEvent) : EchoHistory :=
  let seen := match e with
    | .record _ r => if r.stream? = some token ∧ (s.find? token).isSome then h.record r else h
    | .closeAll => h
  seen.issue token (s.step e).2

def run (token : Nat) (s : Scheduler) (h : EchoHistory) : List EchoEvent → EchoHistory
  | [] => h
  | e :: events => (h.step token s e).run token (s.step e).1 events

theorem run_append (token : Nat) (s : Scheduler) (h : EchoHistory) (past future : List EchoEvent) :
    h.run token s (past ++ future) = (h.run token s past).run token (s.run past) future := by
  induction past generalizing s h with
  | nil => rfl
  | cons e past ih => exact ih _ _

@[simp] theorem received_issue (token : Nat) (h : EchoHistory) (commands : List EchoCommand) :
    (h.issue token commands).received = h.received := rfl

@[simp] theorem ended_issue (token : Nat) (h : EchoHistory) (commands : List EchoCommand) :
    (h.issue token commands).ended = h.ended := rfl

@[simp] theorem released_issue (token : Nat) (h : EchoHistory) (commands : List EchoCommand) :
    (h.issue token commands).released = h.released := rfl

theorem issue_nil {token : Nat} {commands : List EchoCommand} (h : EchoHistory)
    (quiet : commands.filterMap (·.data? token) = []) : h.issue token commands = h := by
  simp only [issue, quiet, List.append_nil]

end EchoHistory

/-- The history of a token in a run that starts without connections. -/
def echoHistory (token : Nat) (events : List EchoEvent) : EchoHistory :=
  EchoHistory.run token {} {} events

/-- A connection's books agree with its history. -/
structure EchoConnection.Accounts (c : EchoConnection) (h : EchoHistory) : Prop where
  conserved : h.released ++ c.outbox.pending = h.received
  outstanding : h.outstanding = c.outbox.inFlight.toList
  ended : c.finished = true → h.ended = true

/-- A history with nothing left to do: the stream has ended, and all of it was written. -/
structure EchoHistory.Settled (h : EchoHistory) : Prop where
  ended : h.ended = true
  conserved : h.released = h.received
  outstanding : h.outstanding = []

namespace EchoConnection

variable {c d : EchoConnection} {h : EchoHistory} {token : Nat} {r : Completion (List UInt8)}

theorem data?_writeCommand (c : EchoConnection) (token : Nat) (data : Option (List UInt8)) :
    (Scheduler.writeCommand c token data).filterMap (·.data? token) = data.toList := by
  cases data with
  | none => rfl
  | some data => simp [Scheduler.writeCommand, EchoCommand.data?]

theorem data?_settle (c : EchoConnection) (token : Nat) :
    c.settle.2.filterMap (·.data? token) = [] := by
  unfold settle
  split <;> rfl

theorem Accounts.start (socket : Nat) : Accounts { socket := socket } {} :=
  ⟨rfl, rfl, fun finished => nomatch finished⟩

theorem Accounts.settled (ha : c.Accounts h) (done : c.done = true) : h.Settled := by
  obtain ⟨finished, drained⟩ := Bool.and_eq_true_iff.mp done
  have conserved := ha.conserved
  rw [Outbox.pending_of_drained drained, List.append_nil] at conserved
  refine ⟨ha.ended finished, conserved, ?_⟩
  rw [ha.outstanding, (c.outbox.drained_iff.mp drained).1]
  rfl

/-- Data that come in are owed, and what was put in flight is asked to be written. -/
theorem Accounts.push (ha : c.Accounts h) (payload : List UInt8) (ended : Bool) :
    Accounts { c with outbox := (c.outbox.push payload).2 }
      { h with received := h.received ++ payload, ended := h.ended || ended
               outstanding := h.outstanding ++ (c.outbox.push payload).1.toList } := by
  refine ⟨?_, ?_, fun finished => ?_⟩
  · change h.released ++ (c.outbox.push payload).2.pending = h.received ++ payload
    rw [Outbox.pending_push, ← List.append_assoc, ha.conserved]
  · change h.outstanding ++ (c.outbox.push payload).1.toList = _
    rw [Outbox.inFlight_push, ha.outstanding]
  · simp [ha.ended finished]

/-- An answered write gives up the bytes reported written; the rest is owed as before. -/
theorem Accounts.complete (ha : c.Accounts h) (written : Nat) :
    Accounts { c with outbox := (c.outbox.complete written).2 }
      { h.answer written with
        outstanding := (h.answer written).outstanding ++
          (c.outbox.complete written).1.toList } := by
  have conserved := ha.conserved
  rw [← c.outbox.pending_complete written] at conserved
  have outstanding := ha.outstanding
  cases flight : c.outbox.inFlight with
  | none =>
    have answered : h.answer written = h := by
      rw [flight] at outstanding
      simp only [EchoHistory.answer, outstanding, Option.toList_none]
    refine ⟨?_, ?_, fun finished => ?_⟩
    · rw [answered]
      simpa [EchoHistory.released, flight] using conserved
    · rw [answered, outstanding, flight, Outbox.inFlight_complete]
      rfl
    · rw [answered]
      exact ha.ended finished
  | some data =>
    have answered : h.answer written =
        { h with completed := h.completed ++ [(data, written)], outstanding := [] } := by
      rw [flight] at outstanding
      simp only [EchoHistory.answer, outstanding, Option.toList_some]
    refine ⟨?_, ?_, fun finished => ?_⟩
    · rw [answered]
      simpa [EchoHistory.released, flight] using conserved
    · rw [answered, Outbox.inFlight_complete]
      rfl
    · rw [answered]
      exact ha.ended finished

/-- What a record and the commands that follow it leave of the books. -/
theorem Accounts.settle (ha : c.Accounts h) :
    (∀ d, c.settle.1 = some d → d.Accounts h) ∧
    ∀ socket, .shutdownWrite socket ∈ c.settle.2 →
      socket = c.socket ∧ c.settle.1 = none ∧ h.Settled := by
  constructor
  · intro d hd
    rwa [settle_eq_some hd]
  · intro socket asked
    obtain ⟨done, gone, which⟩ := mem_settle asked
    simp only [EchoCommand.shutdownWrite.injEq, reduceCtorEq, or_false] at which
    exact ⟨which, gone, ha.settled done⟩

/-- A turn keeps the books in order, and a half-close is asked for only when they are settled. -/
theorem Accounts.turn (ha : c.Accounts h) (hr : r.stream? = some token) :
    (∀ d, (c.turn token r).1 = some d →
      d.Accounts ((h.record r).issue token (c.turn token r).2)) ∧
    ∀ socket, .shutdownWrite socket ∈ (c.turn token r).2 →
      socket = c.socket ∧ (c.turn token r).1 = none ∧
        ((h.record r).issue token (c.turn token r).2).Settled := by
  rcases c.turn_cases hr with
    ⟨_, turn⟩ | ⟨q, payload, rfl, _, data, turn⟩ | ⟨q, rfl, ends, data, turn⟩ | ⟨q, rfl, _, turn⟩
  · rw [turn]
    refine ⟨(fun d hd => nomatch hd), fun socket asked => ?_⟩
    simp at asked
  · have pushed := ha.push payload q.isEndOfStream
    rw [turn]
    constructor
    · rintro d ⟨⟩
      simpa only [EchoHistory.record, EchoHistory.issue, data, Option.getD_some,
        data?_writeCommand] using pushed
    · intro socket asked
      simp [Scheduler.writeCommand] at asked
  · have finished : Accounts { c with finished := true } (h.record (.read q)) := by
      refine ⟨?_, ha.outstanding, fun _ => ?_⟩
      · simpa [EchoHistory.record, EchoHistory.released, data] using ha.conserved
      · simp [EchoHistory.record, ends]
    rw [turn, EchoHistory.issue_nil _ (data?_settle _ token)]
    exact finished.settle
  · have completed := (ha.complete q.bytesWritten).settle
    have issued : (h.record (.write q)).issue token (c.turn token (.write q)).2 =
        { h.answer q.bytesWritten with
          outstanding := (h.answer q.bytesWritten).outstanding ++
            (c.outbox.complete q.bytesWritten).1.toList } := by
      rw [turn]
      simp only [EchoHistory.record, EchoHistory.issue, List.filterMap_append,
        data?_writeCommand, data?_settle, List.append_nil]
    rw [issued, turn]
    refine ⟨completed.1, fun socket asked => ?_⟩
    rcases List.mem_append.mp asked with asked | asked
    · simp [Scheduler.writeCommand] at asked
    · exact completed.2 socket asked

end EchoConnection

namespace Scheduler

variable {s : Scheduler} {token : Nat} {h : EchoHistory}

/-- The books of a token: it has no history until it is given, and while it is open its connection
accounts for all of it. -/
structure Kept (s : Scheduler) (token : Nat) (h : EchoHistory) : Prop where
  fresh : s.lastToken < token → h = {}
  books : ∀ c, s.find? token = some c → c.Accounts h

/-- What a step adds to a history: the record that names an open token, with what it asks for. -/
theorem history_open {starts : Bool} {r : Completion (List UInt8)} {c : EchoConnection}
    (hr : r.stream? = some token) (hc : s.find? token = some c) :
    h.step token s (.record starts r) = (h.record r).issue token (c.turn token r).2 := by
  have seen : r.stream? = some token ∧ (s.find? token).isSome := by simp [hr, hc]
  simp only [EchoHistory.step, if_pos seen, step_record, (handle_open starts hr hc).1]

/-- Nothing else is part of a history. -/
theorem history_quiet (e : EchoEvent)
    (quiet : ∀ starts r, e = .record starts r → r.stream? = some token → s.find? token = none) :
    h.step token s e = h := by
  have silent := no_data_of_quiet quiet
  cases e with
  | closeAll => exact EchoHistory.issue_nil h silent
  | record starts r =>
    have unseen : ¬(r.stream? = some token ∧ (s.find? token).isSome) := by
      rintro ⟨hr, found⟩
      rw [quiet starts r rfl hr] at found
      cases found
    simp only [EchoHistory.step, if_neg unseen]
    exact EchoHistory.issue_nil h silent

theorem Kept.step (ho : s.Ordered) (hk : s.Kept token h) (e : EchoEvent) :
    (s.step e).1.Kept token (h.step token s e) := by
  have mono := s.lastToken_step e
  cases hc : s.find? token with
  | some c =>
    have given := ho token c hc
    refine ⟨fun fresh => by omega, fun d hd => ?_⟩
    rcases step_open ho hc e with ⟨starts, r, rfl, hr, found, _⟩ | ⟨found, quiet⟩ | ⟨_, gone⟩
    · rw [history_open hr hc]
      exact ((hk.books c hc).turn hr).1 d (found.symm.trans hd)
    · rw [history_quiet e fun starts r he hr => absurd hr (quiet starts r he)]
      obtain rfl := Option.some.inj (found.symm.trans hd)
      exact hk.books c hc
    · rw [gone] at hd
      cases hd
  | none =>
    rw [history_quiet e fun _ _ _ _ => hc]
    refine ⟨fun fresh => hk.fresh (by omega), fun d hd => ?_⟩
    rcases step_closed ho hc e with closed | ⟨socket, next, _, found, _⟩
    · rw [closed] at hd
      cases hd
    · obtain rfl := Option.some.inj (found.symm.trans hd)
      rw [hk.fresh (by omega)]
      exact EchoConnection.Accounts.start socket

theorem Kept.run (ho : s.Ordered) (hk : s.Kept token h) (events : List EchoEvent) :
    (s.run events).Kept token (h.run token s events) := by
  induction events generalizing s h with
  | nil => exact hk
  | cons e events ih => exact ih (ho.step e) (hk.step ho e)

theorem Kept.empty (token : Nat) : Kept {} token {} := ⟨fun _ => rfl, fun _ hc => nomatch hc⟩

/-- A half-close settles the connection it belongs to, which is not open any more. -/
theorem Kept.halfClose {history : Nat → EchoHistory} (hk : ∀ token, s.Kept token (history token))
    {e : EchoEvent} {socket : Nat} (asked : .shutdownWrite socket ∈ (s.step e).2) :
    ∃ token c, s.find? token = some c ∧ c.socket = socket ∧
      (s.step e).1.find? token = none ∧ ((history token).step token s e).Settled := by
  obtain ⟨starts, r, token, c, rfl, hr, hc, asked⟩ := shutdownWrite_mem_step asked
  obtain ⟨same, gone, settled⟩ := (((hk token).books c hc).turn hr).2 socket asked
  refine ⟨token, c, hc, same.symm, ?_, ?_⟩
  · rw [step_record, (handle_open starts hr hc).2.2, if_pos rfl]
    exact gone
  · rwa [history_open hr hc]

/-- Where the commands so far have sent a token: its reads and writes use one socket, which is that
of its connection while it is open. -/
structure Routed (s : Scheduler) (log : List EchoCommand) : Prop where
  home : ∀ token c, s.find? token = some c → .read c.socket token ∈ log
  given : ∀ token socket, .read socket token ∈ log → token ≤ s.lastToken
  one : ∀ token a b, .read a token ∈ log → .read b token ∈ log → a = b
  written : ∀ token socket data, .write socket data token ∈ log → .read socket token ∈ log

theorem Routed.empty : Routed {} [] :=
  ⟨(fun _ _ h => nomatch h), (fun _ _ h => nomatch h), (fun _ _ _ h => nomatch h),
    fun _ _ _ h => nomatch h⟩

theorem Routed.step {log : List EchoCommand} (ho : s.Ordered) (routed : s.Routed log)
    (e : EchoEvent) : (s.step e).1.Routed (log ++ (s.step e).2) := by
  have mono := s.lastToken_step e
  refine ⟨?_, ?_, ?_, ?_⟩
  · intro token d hd
    cases hc : s.find? token with
    | none =>
      rcases step_closed ho hc e with closed | ⟨socket, _, _, found, asked⟩
      · rw [closed] at hd
        cases hd
      · obtain rfl := Option.some.inj (found.symm.trans hd)
        simp [asked]
    | some c =>
      have before := routed.home token c hc
      have same : d.socket = c.socket := by
        rcases step_open ho hc e with ⟨_, r, _, hr, found, _⟩ | ⟨found, _⟩ | ⟨_, gone⟩
        · exact EchoConnection.socket_turn hr (found.symm.trans hd)
        · rw [Option.some.inj (found.symm.trans hd)]
        · rw [gone] at hd
          cases hd
      rw [same]
      exact List.mem_append_left _ before
  · intro token socket asked
    rcases List.mem_append.mp asked with old | new
    · exact Nat.le_trans (routed.given token socket old) mono
    · obtain ⟨_, _, _, _, _, last⟩ := read_mem_step new
      omega
  · intro token a b ha hb
    rcases List.mem_append.mp ha with olda | newa
    · rcases List.mem_append.mp hb with oldb | newb
      · exact routed.one token a b olda oldb
      · have := routed.given token a olda
        obtain ⟨_, _, _, _, next, _⟩ := read_mem_step newb
        omega
    · obtain ⟨_, r, he, arrived, next, _⟩ := read_mem_step newa
      rcases List.mem_append.mp hb with oldb | newb
      · have := routed.given token b oldb
        omega
      · obtain ⟨_, r', he', arrived', _, _⟩ := read_mem_step newb
        cases he.symm.trans he'
        exact Option.some.inj (arrived.symm.trans arrived')
  · intro token socket data asked
    rcases List.mem_append.mp asked with old | new
    · exact List.mem_append_left _ (routed.written token socket data old)
    · obtain ⟨_, _, c, _, _, hc, rfl⟩ := write_mem_step new
      exact List.mem_append_left _ (routed.home token c hc)

theorem Routed.run {log : List EchoCommand} (ho : s.Ordered) (routed : s.Routed log)
    (events : List EchoEvent) : (s.run events).Routed (log ++ s.commands events) := by
  induction events generalizing s log with
  | nil => simpa [run, commands] using routed
  | cons e events ih =>
    have later := ih (ho.step e) (routed.step ho e)
    rwa [List.append_assoc] at later

end Scheduler

open Scheduler in
/-- On every run: what was reported written for an open token, what is in flight and the backlog
are, in this order, all that was received for it; its writes go to the socket that it is read from;
and a half-close comes when the stream has ended and all of it was written, with no write after
it. -/
theorem echo_conserves_bytes :
    (∀ events token c, (run {} events).find? token = some c →
      (echoHistory token events).released ++ c.outbox.inFlight.getD [] ++
        c.outbox.backlog.flatten = (echoHistory token events).received) ∧
    (∀ events token socket data, .write socket data token ∈ commands {} events →
      .read socket token ∈ commands {} events ∧
        ∀ other, .read other token ∈ commands {} events → other = socket) ∧
    ∀ past e future socket, .shutdownWrite socket ∈ ((run {} past).step e).2 →
      ∃ token, .read socket token ∈ commands {} past ∧
        (echoHistory token (past ++ [e])).Settled ∧
        ∀ other data, .write other data token ∉ ((run {} past).step e).2 ∧
          .write other data token ∉ (run {} (past ++ [e])).commands future := by
  have ordered : ∀ events, (run {} events).Ordered := fun events => Ordered.empty.run events
  have kept : ∀ events token, (run {} events).Kept token (echoHistory token events) :=
    fun events token => (Kept.empty token).run Ordered.empty events
  have routed : ∀ events, (run {} events).Routed (commands {} events) :=
    fun events => Routed.empty.run Ordered.empty events
  refine ⟨?_, ?_, ?_⟩
  · intro events token c hc
    rw [List.append_assoc]
    exact ((kept events token).books c hc).conserved
  · intro events token socket data asked
    have started := (routed events).written token socket data asked
    exact ⟨started, fun other ho => (routed events).one token other socket ho started⟩
  · intro past e future socket asked
    obtain ⟨token, c, hc, rfl, gone, settled⟩ := Kept.halfClose (kept past) asked
    have after : run {} (past ++ [e]) = ((run {} past).step e).1 := run_append _ past [e]
    have history : echoHistory token (past ++ [e]) =
        (echoHistory token past).step token (run {} past) e := EchoHistory.run_append ..
    refine ⟨token, (routed past).home token c hc, history ▸ settled, fun other data => ⟨?_, ?_⟩⟩
    · intro written
      have none := settled.outstanding
      simp only [EchoHistory.step, EchoHistory.issue, List.append_eq_nil_iff,
        List.filterMap_eq_nil_iff] at none
      have := none.2 _ written
      simp [EchoCommand.data?] at this
    · intro written
      have given := Nat.le_trans (ordered past token c hc) ((run {} past).lastToken_step e)
      have none := no_data_after_close ((ordered past).step e) given gone future
      rw [after] at written
      have := List.filterMap_eq_nil_iff.mp none _ written
      simp [EchoCommand.data?] at this

/-- A client that sends two chunks, the first of which is written back in two parts. -/
def shortWriteEvents : List EchoEvent :=
  [.record true (.accept { schedulee := 0, connection := some 5 }),
    .record false (.read { schedulee := 1, payload := some [97, 98], sequence := some 0 }),
    .record false (.read { schedulee := 1, payload := some [99], sequence := some 1 }),
    .record false (.write { schedulee := 1, bytesWritten := 1 })]

/-- The rest of it: the second part, the end of the client's stream, and the second chunk. -/
def lastWriteEvents : List EchoEvent :=
  [.record false (.write { schedulee := 1, bytesWritten := 1 }),
    .record false (.read { schedulee := 1, sequence := some 2 })]

open Scheduler in
/-- With a short write the tail is in flight and the next chunk waits; the answer to the last write
half-closes the connection. -/
theorem echo_conserves_bytes_of_short_write :
    let before := shortWriteEvents ++ lastWriteEvents
    let last : EchoEvent := .record false (.write { schedulee := 1, bytesWritten := 1 })
    ((run {} shortWriteEvents).find? 1 = some ⟨5, ⟨some [98], [[99]]⟩, false⟩ ∧
      (echoHistory 1 shortWriteEvents).released ++ [98] ++ [99] = [97, 98, 99]) ∧
    .shutdownWrite 5 ∈ ((run {} before).step last).2 ∧
      ∃ token, .read 5 token ∈ commands {} before ∧
        (echoHistory token (before ++ [last])).Settled := by
  intro before last
  have short : (run {} shortWriteEvents).find? 1 = some ⟨5, ⟨some [98], [[99]]⟩, false⟩ := by
    decide
  have closing : .shutdownWrite 5 ∈ ((run {} before).step last).2 := by decide
  obtain ⟨token, started, settled, _⟩ := echo_conserves_bytes.2.2 before last [] 5 closing
  exact ⟨⟨short, echo_conserves_bytes.1 shortWriteEvents 1 _ short⟩, closing,
    token, started, settled⟩

end SocketBridge
