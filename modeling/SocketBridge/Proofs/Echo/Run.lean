import SocketBridge.Echo.Scheduler

/-!
# Runs of the echo scheduler

A run is a list of events, handled one after another: records in any order, or the end of all
connections. A step changes the connection its record names and no other, every command is about a
connection that was open before or is opened now, and a token that was closed stays closed.
-/

namespace SocketBridge

/-- What may happen to a scheduler. A record comes with whether a read starts on a connection in
it. -/
inductive EchoEvent
  | record (starts : Bool) (record : Completion (List UInt8))
  | closeAll

namespace Scheduler

def step (s : Scheduler) : EchoEvent → Scheduler × List EchoCommand
  | .record starts c => s.handle starts c
  | .closeAll => s.closeAll

def run (s : Scheduler) : List EchoEvent → Scheduler
  | [] => s
  | e :: events => (s.step e).1.run events

/-- All commands of a run, oldest first. -/
def commands (s : Scheduler) : List EchoEvent → List EchoCommand
  | [] => []
  | e :: events => (s.step e).2 ++ (s.step e).1.commands events

@[simp] theorem step_record (s : Scheduler) (starts : Bool) (r : Completion (List UInt8)) :
    s.step (.record starts r) = s.handle starts r := rfl

theorem run_append (s : Scheduler) (past future : List EchoEvent) :
    s.run (past ++ future) = (s.run past).run future := by
  induction past generalizing s with
  | nil => rfl
  | cons e past ih => exact ih _

section Lookup

variable (s : Scheduler) (token : Nat) (c : EchoConnection)

@[simp] theorem lastToken_put : (s.put token c).lastToken = s.lastToken := rfl

@[simp] theorem lastToken_remove : (s.remove token).lastToken = s.lastToken := rfl

theorem find?_put (other : Nat) :
    (s.put token c).find? other =
      if other = token then (s.find? token).map fun _ => c else s.find? other := by
  obtain ⟨last, connections⟩ := s
  simp only [find?, put]
  induction connections with
  | nil => simp
  | cons e rest ih =>
    by_cases he : e.1 = token
    · by_cases ho : other = token <;> grind
    · by_cases ho : other = token <;> grind

theorem find?_remove (other : Nat) :
    (s.remove token).find? other = if other = token then none else s.find? other := by
  obtain ⟨last, connections⟩ := s
  simp only [find?, remove]
  induction connections with
  | nil => simp
  | cons e rest ih =>
    by_cases he : e.1 = token
    · by_cases ho : other = token <;> grind
    · by_cases ho : other = token <;> grind

end Lookup

end Scheduler

/-- The data of a write that is asked for under a token. -/
def EchoCommand.data? (token : Nat) : EchoCommand → Option (List UInt8)
  | write _ data owner => if owner = token then some data else none
  | _ => none

/-- The socket that a command is about. -/
def EchoCommand.socket? : EchoCommand → Option Nat
  | read n _ | write n _ _ | shutdownWrite n | cancel n | drop n => some n
  | dropListener _ => none

/-- The token under which a read is started. -/
def EchoCommand.opens? : EchoCommand → Option (Nat × Nat)
  | read n token => some (n, token)
  | _ => none

/-- The token that a record of a read or a write names. -/
def Completion.stream? {α : Type} : Completion α → Option Nat
  | read r => some r.schedulee
  | write r => some r.schedulee
  | _ => none

namespace EchoEvent

/-- The socket that arrives, with whether a read starts on it. -/
def arrival? : EchoEvent → Option (Bool × Nat)
  | .record starts (.accept r) => r.connection.map (starts, ·)
  | _ => none

theorem arrival?_of_stream {starts : Bool} {r : Completion (List UInt8)} {token : Nat}
    (stream : r.stream? = some token) : (record starts r).arrival? = none := by
  cases r with
  | read | write => rfl
  | connect | accept => cases stream

end EchoEvent

/-- The sockets that arrive, in order. -/
def arrived (events : List EchoEvent) : List (Bool × Nat) := events.filterMap (·.arrival?)

theorem arrived_append (past future : List EchoEvent) :
    arrived (past ++ future) = arrived past ++ arrived future := List.filterMap_append

theorem arrived_cons (e : EchoEvent) (events : List EchoEvent) :
    arrived (e :: events) = e.arrival?.toList ++ arrived events := by
  rw [← List.singleton_append, arrived_append]
  cases arrives : e.arrival? <;> simp [arrived, arrives]

namespace EchoConnection

/-- A connection goes on unless it has nothing left to do. -/
def settle (c : EchoConnection) : Option EchoConnection × List EchoCommand :=
  if c.done then (none, [.shutdownWrite c.socket, .drop c.socket]) else (some c, [])

/-- What a record makes of the connection it names, which may end there, and what is asked. A
connection by itself is a machine that knows of no other. -/
def turn (c : EchoConnection) (token : Nat) :
    Completion (List UInt8) → Option EchoConnection × List EchoCommand
  | .read r =>
    match r.error, r.payload with
    | some _, _ => (none, [.cancel c.socket, .drop c.socket])
    | none, some payload =>
      let (data, outbox) := c.outbox.push payload
      (some { c with outbox }, Scheduler.writeCommand c token data)
    | none, none => { c with finished := true }.settle
  | .write r =>
    if r.error.isSome then (none, [.cancel c.socket, .drop c.socket])
    else
      let (data, outbox) := c.outbox.complete r.bytesWritten
      let (next, commands) := { c with outbox }.settle
      (next, Scheduler.writeCommand c token data ++ commands)
  | _ => (some c, [])

variable {c d : EchoConnection} {token : Nat} {r : Completion (List UInt8)}

theorem settle_eq_some (h : c.settle.1 = some d) : d = c := by
  unfold settle at h
  split at h
  · cases h
  · exact (Option.some.inj h).symm

theorem mem_settle {command : EchoCommand} (h : command ∈ c.settle.2) :
    c.done = true ∧ c.settle.1 = none ∧
      (command = .shutdownWrite c.socket ∨ command = .drop c.socket) := by
  unfold settle at h ⊢
  split at h
  · rename_i done
    rw [if_pos done]
    exact ⟨done, rfl, by simpa using h⟩
  · cases h

/-- The four things a turn can be: a failure, data, the end of the stream, or a completed write. -/
theorem turn_cases (c : EchoConnection) (hr : r.stream? = some token) :
    (r.error.isSome ∧ c.turn token r = (none, [.cancel c.socket, .drop c.socket])) ∨
    (∃ q payload, r = .read q ∧ q.error = none ∧ q.payload = some payload ∧
      c.turn token r = (some { c with outbox := (c.outbox.push payload).2 },
        Scheduler.writeCommand c token (c.outbox.push payload).1)) ∨
    (∃ q, r = .read q ∧ q.isEndOfStream = true ∧ q.payload = none ∧
      c.turn token r = { c with finished := true }.settle) ∨
    (∃ q, r = .write q ∧ q.error = none ∧
      c.turn token r = ({ c with outbox := (c.outbox.complete q.bytesWritten).2 }.settle.1,
        Scheduler.writeCommand c token (c.outbox.complete q.bytesWritten).1 ++
          { c with outbox := (c.outbox.complete q.bytesWritten).2 }.settle.2)) := by
  cases r with
  | connect r => cases hr
  | accept r => cases hr
  | read q =>
    cases error : q.error with
    | some text => exact Or.inl ⟨by simp [Completion.error, error], by simp only [turn, error]⟩
    | none =>
      cases payload : q.payload with
      | some data =>
        exact Or.inr (Or.inl ⟨q, data, rfl, error, payload, by simp only [turn, error, payload]⟩)
      | none =>
        refine Or.inr (Or.inr (Or.inl ⟨q, rfl, ?_, payload, by simp only [turn, error, payload]⟩))
        simp [ReadRecord.isEndOfStream, error, payload]
  | write q =>
    cases error : q.error with
    | some text => exact Or.inl ⟨by simp [Completion.error, error], by simp [turn, error]⟩
    | none => exact Or.inr (Or.inr (Or.inr ⟨q, rfl, error, by simp [turn, error]⟩))

theorem socket_turn (hr : r.stream? = some token) (h : (c.turn token r).1 = some d) :
    d.socket = c.socket := by
  rcases c.turn_cases hr with
    ⟨_, turn⟩ | ⟨q, payload, _, _, _, turn⟩ | ⟨q, _, _, _, turn⟩ | ⟨q, _, _, turn⟩
  · rw [turn] at h
    cases h
  · rw [turn] at h
    obtain rfl := Option.some.inj h
    rfl
  · rw [turn] at h
    rw [settle_eq_some h]
  · rw [turn] at h
    rw [settle_eq_some h]

/-- A connection asks only for what concerns its own socket, and its writes bear its token. -/
theorem mem_turn (hr : r.stream? = some token) {command : EchoCommand}
    (h : command ∈ (c.turn token r).2) :
    (∃ data, command = .write c.socket data token) ∨ command = .shutdownWrite c.socket ∨
      command = .cancel c.socket ∨ command = .drop c.socket := by
  have written : ∀ data, command ∈ Scheduler.writeCommand c token data →
      ∃ data, command = .write c.socket data token := by
    intro data h
    obtain ⟨data, _, rfl⟩ := List.mem_map.mp h
    exact ⟨data, rfl⟩
  rcases c.turn_cases hr with
    ⟨_, turn⟩ | ⟨q, payload, _, _, _, turn⟩ | ⟨q, _, _, _, turn⟩ | ⟨q, _, _, turn⟩
  · rw [turn] at h
    simp only [List.mem_cons, List.not_mem_nil, or_false] at h
    exact Or.inr (Or.inr h)
  · rw [turn] at h
    exact Or.inl (written _ h)
  · rw [turn] at h
    exact Or.inr ((mem_settle h).2.2.imp_right Or.inr)
  · rw [turn] at h
    rcases List.mem_append.mp h with h | h
    · exact Or.inl (written _ h)
    · exact Or.inr ((mem_settle h).2.2.imp_right Or.inr)

end EchoConnection

namespace Scheduler

variable {s : Scheduler} {token : Nat} {c : EchoConnection} {r : Completion (List UInt8)}

theorem keep_eq (h : s.find? token = some c) (d : EchoConnection) :
    (s.keep token d).2 = d.settle.2 ∧ (s.keep token d).1.lastToken = s.lastToken ∧
      ∀ other, (s.keep token d).1.find? other =
        if other = token then d.settle.1 else s.find? other := by
  unfold keep EchoConnection.settle
  split
  · exact ⟨rfl, rfl, s.find?_remove token⟩
  · refine ⟨rfl, rfl, fun other => ?_⟩
    rw [find?_put, h]
    rfl

/-- A scheduler is a family of connections: a record moves the one it names by the connection's own
turn, and leaves all others. -/
theorem handle_open (starts : Bool) (hr : r.stream? = some token) (hc : s.find? token = some c) :
    (s.handle starts r).2 = (c.turn token r).2 ∧
      (s.handle starts r).1.lastToken = s.lastToken ∧
      ∀ other, (s.handle starts r).1.find? other =
        if other = token then (c.turn token r).1 else s.find? other := by
  cases r with
  | connect r => cases hr
  | accept r => cases hr
  | read r =>
    obtain rfl : r.schedulee = token := Option.some.inj hr
    cases error : r.error with
    | some text =>
      simp only [handle, onRead, hc, EchoConnection.turn, error]
      exact ⟨rfl, rfl, s.find?_remove _⟩
    | none =>
      cases payload : r.payload with
      | some data =>
        simp only [handle, onRead, hc, EchoConnection.turn, error, payload]
        refine ⟨trivial, rfl, fun other => ?_⟩
        rw [find?_put, hc]
        rfl
      | none =>
        simp only [handle, onRead, hc, EchoConnection.turn, error, payload]
        exact keep_eq hc _
  | write r =>
    obtain rfl : r.schedulee = token := Option.some.inj hr
    by_cases error : r.error.isSome
    · simp only [handle, onWrite, hc, EchoConnection.turn, error, if_true]
      exact ⟨rfl, rfl, s.find?_remove _⟩
    · obtain ⟨commands, last, others⟩ :=
        keep_eq hc { c with outbox := (c.outbox.complete r.bytesWritten).2 }
      simp only [handle, onWrite, hc, EchoConnection.turn, error, if_false, Bool.false_eq_true]
      exact ⟨congrArg (_ ++ ·) commands, last, others⟩

/-- What names no open connection changes nothing and asks for nothing. -/
theorem handle_stale (starts : Bool) (hr : r.stream? = some token) (hc : s.find? token = none) :
    s.handle starts r = (s, []) := by
  cases r with
  | connect r => cases hr
  | accept r => cases hr
  | read r =>
    obtain rfl : r.schedulee = token := Option.some.inj hr
    simp only [handle, onRead, hc]
  | write r =>
    obtain rfl : r.schedulee = token := Option.some.inj hr
    simp only [handle, onWrite, hc]

/-- A record of no stream opens one connection, under the next token, or none at all. -/
theorem handle_arrival (s : Scheduler) (starts : Bool) (hr : r.stream? = none) :
    ((s.handle starts r).1 = s ∧
      ∀ command ∈ (s.handle starts r).2, ∃ listener, command = .dropListener listener) ∨
    ∃ socket, r.connection = some socket ∧
      ((s.handle starts r =
          (⟨s.lastToken + 1, s.connections ++ [(s.lastToken + 1, { socket := socket })]⟩,
            [.read socket (s.lastToken + 1)])) ∨
        s.handle starts r = ({ s with lastToken := s.lastToken + 1 },
          [.read socket (s.lastToken + 1), .drop socket])) := by
  cases r with
  | read r => cases hr
  | write r => cases hr
  | connect r => exact Or.inl ⟨rfl, fun command h => nomatch h⟩
  | accept r =>
    cases hs : r.connection with
    | none =>
      refine Or.inl ?_
      simp only [handle, onAccept, hs, List.mem_map, true_and]
      rintro command ⟨listener, _, rfl⟩
      exact ⟨listener, rfl⟩
    | some socket =>
      refine Or.inr ⟨socket, hs, ?_⟩
      cases starts with
      | true => exact Or.inl (by simp only [handle, onAccept, hs, onConnection, if_true])
      | false =>
        refine Or.inr ?_
        simp only [handle, onAccept, hs, onConnection, Bool.false_eq_true, if_false]

/-- Tokens are given in order, so that no open one is above the last. -/
def Ordered (s : Scheduler) : Prop := ∀ token c, s.find? token = some c → token ≤ s.lastToken

theorem Ordered.empty : Ordered {} := fun _ _ h => nomatch h

theorem find?_opened (ho : s.Ordered) (socket other : Nat) :
    find? ⟨s.lastToken + 1, s.connections ++ [(s.lastToken + 1, { socket := socket })]⟩ other =
      if other = s.lastToken + 1 then some { socket := socket } else s.find? other := by
  have unused : s.connections.lookup (s.lastToken + 1) = none := by
    cases h : s.connections.lookup (s.lastToken + 1) with
    | none => rfl
    | some c => exact absurd (ho _ c h) (by omega)
  by_cases same : other = s.lastToken + 1
  · subst other
    simp only [find?, List.lookup_append, unused, List.lookup_cons_self, Option.none_or, if_true]
  · have apart : (other == s.lastToken + 1) = false := by simpa using same
    simp only [find?, List.lookup_append, List.lookup_cons, apart, if_neg same,
      List.lookup_nil, Option.or_none]

/-- What a step does to an open connection: its own turn, nothing, or the end of all. -/
theorem step_open (ho : s.Ordered) (hc : s.find? token = some c) (e : EchoEvent) :
    (∃ starts r, e = .record starts r ∧ r.stream? = some token ∧
      (s.step e).1.find? token = (c.turn token r).1 ∧ (s.step e).2 = (c.turn token r).2) ∨
    ((s.step e).1.find? token = some c ∧
      ∀ starts r, e = .record starts r → r.stream? ≠ some token) ∨
    (e = .closeAll ∧ (s.step e).1.find? token = none) := by
  cases e with
  | closeAll => exact Or.inr (Or.inr ⟨rfl, rfl⟩)
  | record starts r =>
    rw [step_record]
    cases hr : r.stream? with
    | none =>
      refine Or.inr (Or.inl ⟨?_, ?_⟩)
      · rcases s.handle_arrival starts hr with ⟨same, _⟩ | ⟨socket, _, opened | refused⟩
        · rw [same, hc]
        · have := ho token c hc
          rw [opened, find?_opened ho, if_neg (by omega), hc]
        · rw [refused]
          exact hc
      · rintro _ _ ⟨⟩
        simp [hr]
    | some named =>
      by_cases own : named = token
      · subst own
        obtain ⟨commands, _, found⟩ := handle_open starts hr hc
        exact Or.inl ⟨starts, r, rfl, hr, (found named).trans (if_pos rfl), commands⟩
      · refine Or.inr (Or.inl ⟨?_, ?_⟩)
        · cases hn : s.find? named with
          | none => rw [handle_stale starts hr hn, hc]
          | some d =>
            obtain ⟨_, _, found⟩ := handle_open starts hr hn
            rw [found, if_neg (Ne.symm own), hc]
        · rintro _ _ ⟨⟩
          simpa [hr] using own

/-- What a step does for a token that is not open: only the next token can be opened. -/
theorem step_closed (ho : s.Ordered) (hc : s.find? token = none) (e : EchoEvent) :
    (s.step e).1.find? token = none ∨
    ∃ socket, token = s.lastToken + 1 ∧ (s.step e).1.lastToken = token ∧
      (s.step e).1.find? token = some { socket := socket } ∧
      (s.step e).2 = [.read socket token] := by
  cases e with
  | closeAll => exact Or.inl rfl
  | record starts r =>
    rw [step_record]
    cases hr : r.stream? with
    | some named =>
      cases hn : s.find? named with
      | none => exact Or.inl (by rw [handle_stale starts hr hn, hc])
      | some d =>
        obtain ⟨_, _, found⟩ := handle_open starts hr hn
        have other : token ≠ named := by
          rintro rfl
          rw [hc] at hn
          cases hn
        exact Or.inl (by rw [found, if_neg other, hc])
    | none =>
      rcases s.handle_arrival starts hr with ⟨same, _⟩ | ⟨socket, _, opened | refused⟩
      · exact Or.inl (by rw [same, hc])
      · by_cases next : token = s.lastToken + 1
        · subst next
          refine Or.inr ⟨socket, rfl, ?_⟩
          rw [opened, find?_opened ho, if_pos rfl]
          exact ⟨rfl, rfl, rfl⟩
        · exact Or.inl (by rw [opened, find?_opened ho, if_neg next, hc])
      · exact Or.inl (by rw [refused]; exact hc)

theorem lastToken_step (s : Scheduler) (e : EchoEvent) :
    s.lastToken ≤ (s.step e).1.lastToken := by
  cases e with
  | closeAll => exact Nat.le_refl _
  | record starts r =>
    rw [step_record]
    cases hr : r.stream? with
    | some named =>
      cases hn : s.find? named with
      | none => exact Nat.le_of_eq (by rw [handle_stale starts hr hn])
      | some d => exact Nat.le_of_eq (handle_open starts hr hn).2.1.symm
    | none =>
      rcases s.handle_arrival starts hr with ⟨same, _⟩ | ⟨socket, _, opened | refused⟩
      · exact Nat.le_of_eq (by rw [same])
      · rw [opened]
        exact Nat.le_succ _
      · rw [refused]
        exact Nat.le_succ _

theorem Ordered.step (ho : s.Ordered) (e : EchoEvent) : (s.step e).1.Ordered := by
  intro token c found
  have mono := s.lastToken_step e
  cases hc : s.find? token with
  | some d => exact Nat.le_trans (ho token d hc) mono
  | none =>
    rcases step_closed ho hc e with closed | ⟨_, _, last, _⟩
    · rw [closed] at found
      cases found
    · omega

theorem Ordered.run (ho : s.Ordered) (events : List EchoEvent) : (s.run events).Ordered := by
  induction events generalizing s with
  | nil => exact ho
  | cons e events ih => exact ih (ho.step e)

/-- Every command of a step is part of the turn of the connection that its record names, opens a
connection under the next token, or closes one. -/
theorem mem_step {command : EchoCommand} {e : EchoEvent} (h : command ∈ (s.step e).2) :
    (∃ starts r token c, e = .record starts r ∧ r.stream? = some token ∧
      s.find? token = some c ∧ command ∈ (c.turn token r).2) ∨
    (∃ starts r socket, e = .record starts r ∧ r.connection = some socket ∧
      command = .read socket (s.lastToken + 1) ∧ (s.step e).1.lastToken = s.lastToken + 1) ∨
    (∃ object, command = .cancel object ∨ command = .drop object ∨
      command = .dropListener object) := by
  cases e with
  | closeAll =>
    simp only [step, closeAll, List.mem_flatMap, List.mem_cons, List.not_mem_nil, or_false] at h
    obtain ⟨entry, _, h⟩ := h
    exact Or.inr (Or.inr ⟨entry.2.socket, h.elim Or.inl fun h => Or.inr (Or.inl h)⟩)
  | record starts r =>
    rw [step_record] at h ⊢
    cases hr : r.stream? with
    | some named =>
      cases hn : s.find? named with
      | none =>
        rw [handle_stale starts hr hn] at h
        cases h
      | some c =>
        rw [(handle_open starts hr hn).1] at h
        exact Or.inl ⟨starts, r, named, c, rfl, hr, hn, h⟩
    | none =>
      rcases s.handle_arrival starts hr with ⟨_, drops⟩ | ⟨socket, arrived, opened | refused⟩
      · obtain ⟨listener, rfl⟩ := drops command h
        exact Or.inr (Or.inr ⟨listener, Or.inr (Or.inr rfl)⟩)
      · rw [opened] at h ⊢
        exact Or.inr (Or.inl ⟨starts, r, socket, rfl, arrived, List.mem_singleton.mp h, rfl⟩)
      · rw [refused] at h ⊢
        simp only [List.mem_cons, List.not_mem_nil, or_false] at h
        rcases h with rfl | rfl
        · exact Or.inr (Or.inl ⟨starts, r, socket, rfl, arrived, rfl, rfl⟩)
        · exact Or.inr (Or.inr ⟨socket, Or.inr (Or.inl rfl)⟩)

variable {e : EchoEvent}

theorem write_of_data? {command : EchoCommand} {data : List UInt8}
    (hd : command.data? token = some data) : ∃ socket, command = .write socket data token := by
  cases command with
  | write socket _ owner =>
    simp only [EchoCommand.data?] at hd
    split at hd
    · rename_i same
      cases hd
      exact ⟨socket, by rw [same]⟩
    · cases hd
  | _ => cases hd

/-- A write is asked for only in the turn of an open connection that its record names, and on that
connection's socket. -/
theorem write_mem_step {socket : Nat} {data : List UInt8}
    (asked : .write socket data token ∈ (s.step e).2) :
    ∃ starts r c, e = .record starts r ∧ r.stream? = some token ∧
      s.find? token = some c ∧ c.socket = socket := by
  rcases mem_step asked with
    ⟨starts, r, named, c, he, hr, hc, asked⟩ | ⟨_, _, _, _, _, bad, _⟩ | ⟨_, bad⟩
  · rcases EchoConnection.mem_turn hr asked with ⟨data, same⟩ | bad | bad | bad
    · cases same
      exact ⟨starts, r, c, he, hr, hc, rfl⟩
    all_goals cases bad
  · cases bad
  · rcases bad with bad | bad | bad <;> cases bad

/-- A read is started only on a connection that arrives, under the next token. -/
theorem read_mem_step {socket : Nat} (asked : .read socket token ∈ (s.step e).2) :
    ∃ starts r, e = .record starts r ∧ r.connection = some socket ∧
      token = s.lastToken + 1 ∧ (s.step e).1.lastToken = token := by
  rcases mem_step asked with
    ⟨_, r, named, c, _, hr, _, asked⟩ | ⟨starts, r, _, he, arrived, same, last⟩ | ⟨_, bad⟩
  · rcases EchoConnection.mem_turn hr asked with ⟨_, bad⟩ | bad | bad | bad <;> cases bad
  · cases same
    exact ⟨starts, r, he, arrived, rfl, last⟩
  · rcases bad with bad | bad | bad <;> cases bad

/-- A half-close is asked for only in the turn of an open connection. -/
theorem shutdownWrite_mem_step {socket : Nat} (asked : .shutdownWrite socket ∈ (s.step e).2) :
    ∃ starts r token c, e = .record starts r ∧ r.stream? = some token ∧
      s.find? token = some c ∧ .shutdownWrite socket ∈ (c.turn token r).2 := by
  rcases mem_step asked with found | ⟨_, _, _, _, _, bad, _⟩ | ⟨_, bad | bad | bad⟩
  · exact found
  all_goals cases bad

/-- What names no open connection with this token asks for no write under it. -/
theorem no_data_of_quiet
    (quiet : ∀ starts r, e = .record starts r → r.stream? = some token → s.find? token = none) :
    (s.step e).2.filterMap (·.data? token) = [] := by
  rw [List.filterMap_eq_nil_iff]
  intro command asked
  cases hd : command.data? token with
  | none => rfl
  | some data =>
    obtain ⟨socket, rfl⟩ := write_of_data? hd
    obtain ⟨starts, r, c, he, hr, found, _⟩ := write_mem_step asked
    rw [quiet starts r he hr] at found
    cases found

/-- A token that was given and is not open any more is never written to again. -/
theorem no_data_after_close (ho : s.Ordered) (given : token ≤ s.lastToken)
    (hc : s.find? token = none) (events : List EchoEvent) :
    (s.commands events).filterMap (·.data? token) = [] := by
  induction events generalizing s with
  | nil => rfl
  | cons e events ih =>
    have closed : (s.step e).1.find? token = none := by
      rcases step_closed ho hc e with closed | ⟨_, next, _⟩
      · exact closed
      · omega
    have later := ih (ho.step e) (Nat.le_trans given (s.lastToken_step e)) closed
    rw [commands, List.filterMap_append, no_data_of_quiet fun _ _ _ _ => hc, later, List.append_nil]

/-- A socket that arrives is read under the next token. -/
theorem step_of_arrival {starts : Bool} (arrives : e.arrival? = some (starts, n)) :
    s.step e = s.onConnection starts n := by
  cases e with
  | closeAll => cases arrives
  | record begins r =>
    cases r with
    | connect | read | write => cases arrives
    | accept r =>
      obtain ⟨m, names, same⟩ := Option.map_eq_some_iff.mp arrives
      obtain ⟨rfl, rfl⟩ := Prod.mk.inj same
      simp only [step_record, handle, onAccept, names]

/-- The four things that an event can be to a scheduler. -/
inductive Kind (s : Scheduler) : EchoEvent → Prop
  | arrives {e : EchoEvent} {starts : Bool} {n : Nat} (arrives : e.arrival? = some (starts, n)) :
    Kind s e
  | turns {starts : Bool} {r : Completion (List UInt8)} {named : Nat} {d : EchoConnection}
    (stream : r.stream? = some named) (found : s.find? named = some d) : Kind s (.record starts r)
  | idles {starts : Bool} {r : Completion (List UInt8)}
    (arrives : (EchoEvent.record starts r).arrival? = none)
    (stale : ∀ token, r.stream? = some token → s.find? token = none)
    (same : (s.handle starts r).1 = s)
    (silent : ∀ command ∈ (s.handle starts r).2, command.socket? = none ∧ command.opens? = none) :
    Kind s (.record starts r)
  | closes : Kind s .closeAll

theorem kind (s : Scheduler) (e : EchoEvent) : s.Kind e := by
  cases e with
  | closeAll => exact .closes
  | record starts r =>
    cases stream : r.stream? with
    | some named =>
      cases found : s.find? named with
      | some d => exact .turns stream found
      | none =>
        have still := handle_stale starts stream found
        refine .idles (EchoEvent.arrival?_of_stream stream) (fun token same => ?_) (by rw [still])
          (by simp [still])
        rw [← Option.some.inj (stream.symm.trans same), found]
    | none =>
      cases arrives : (EchoEvent.record starts r).arrival? with
      | some arrival => exact .arrives arrives
      | none =>
        rcases s.handle_arrival starts stream with ⟨same, drops⟩ | ⟨n, names, either⟩
        · refine .idles arrives (by simp [stream]) same fun command asked => ?_
          obtain ⟨listener, rfl⟩ := drops command asked
          exact ⟨rfl, rfl⟩
        · cases r with
          | read | write => cases stream
          | connect r => exact .idles arrives (by simp [stream]) rfl nofun
          | accept r =>
            have none := Option.map_eq_none_iff.mp arrives
            cases none.symm.trans names

theorem lastToken_step_eq (s : Scheduler) (e : EchoEvent) :
    (s.step e).1.lastToken = s.lastToken + e.arrival?.toList.length := by
  cases s.kind e with
  | arrives arrives =>
    rw [step_of_arrival arrives, arrives, onConnection]
    split <;> rfl
  | @turns starts _ _ _ stream found =>
    rw [EchoEvent.arrival?_of_stream stream]
    exact (handle_open starts stream found).2.1
  | idles arrives _ same => rw [arrives, step_record, same]; rfl
  | closes => rfl

/-- So many sockets arrive, so many tokens are given. -/
theorem lastToken_run (s : Scheduler) (events : List EchoEvent) :
    (s.run events).lastToken = s.lastToken + (arrived events).length := by
  induction events generalizing s with
  | nil => rfl
  | cons e events ih =>
    rw [run, ih, lastToken_step_eq, arrived_cons, List.length_append, Nat.add_assoc]

end Scheduler

end SocketBridge
