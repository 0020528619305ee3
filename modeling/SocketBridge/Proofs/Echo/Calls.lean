import SocketBridge.Proofs.Echo.Outbox

/-!
# Outboxes under any calls

Whoever calls an outbox may push nothing, report more bytes written than were given out, or report
a write that was never asked for. What was given out and reported written is told from the calls
and their answers alone; the outbox accounts for it byte for byte. When no more data come, every
report of a byte brings it closer to its end.
-/

namespace SocketBridge

/-- A call of an outbox. -/
inductive OutboxCall
  | push (data : List UInt8)
  | complete (written : Nat)
  | next
deriving DecidableEq

namespace OutboxCall

/-- The data that a call brings. -/
def data : OutboxCall → List UInt8
  | push data => data
  | _ => []

/-- Whether a call reports a write. -/
def reports : OutboxCall → Bool
  | complete _ => true
  | _ => false

/-- Whether a call brings no data and reports no write without a byte. -/
def Flushes : OutboxCall → Prop
  | push _ => False
  | complete written => 0 < written
  | next => True

end OutboxCall

namespace Outbox

/-- What a call gives for writing, and the outbox that it leaves. -/
def call (o : Outbox) : OutboxCall → Option (List UInt8) × Outbox
  | .push data => o.push data
  | .complete written => o.complete written
  | .next => o.next

/-- All that is kept, in the chunks that it will be written in if none is cut. -/
def chunks (o : Outbox) : List (List UInt8) := o.inFlight.toList ++ o.backlog

theorem chunks_next (o : Outbox) : o.next.2.chunks = o.chunks := by
  rcases o.next_cases with ⟨same, -⟩ | ⟨data, rest, start, started⟩
  · rw [same]
  · rw [started, start]
    rfl

/-- However it is called, an outbox ends with a look for something to write. -/
theorem exists_next (o : Outbox) (c : OutboxCall) : ∃ before : Outbox, o.call c = before.next := by
  cases c with
  | push data => exact ⟨_, rfl⟩
  | complete written => exact ⟨_, rfl⟩
  | next => exact ⟨o, rfl⟩

theorem idle_call (o : Outbox) (c : OutboxCall) :
    (o.call c).2.inFlight = none → (o.call c).2.backlog = [] := by
  obtain ⟨before, same⟩ := o.exists_next c
  rw [same]
  exact before.idle_next

/-- What is given for writing is in flight. -/
theorem inFlight_of_given {o : Outbox} {c : OutboxCall} {data : List UInt8}
    (given : (o.call c).1 = some data) : (o.call c).2.inFlight = some data := by
  obtain ⟨before, same⟩ := o.exists_next c
  rw [same] at given ⊢
  rcases before.next_cases with ⟨nothing, -⟩ | ⟨chunk, rest, -, started⟩
  · rw [nothing] at given
    cases given
  · rw [started] at given ⊢
    exact given

theorem chunks_push (o : Outbox) (data : List UInt8) :
    (o.push data).2.chunks = o.chunks ++ if data = [] then [] else [data] := by
  rw [push, chunks_next]
  by_cases empty : data = []
  · simp [empty]
  · simp [chunks, empty, List.isEmpty_iff]

/-- A completion gives up the chunk in flight, or keeps what is left of it. -/
theorem chunks_complete (o : Outbox) (written : Nat) : (o.complete written).2.chunks =
    (o.inFlight.toList.map (List.drop written)).filter (· ≠ []) ++ o.backlog := by
  rw [complete, chunks_next]
  cases flight : o.inFlight with
  | none => simp [chunks, flight]
  | some data =>
    by_cases short : written < data.length
    · simp [chunks, short]
    · simp [chunks, short, Nat.not_lt.mp short]

/-- No chunk is empty, whatever is pushed and reported. -/
theorem full_call {o : Outbox} (full : ∀ chunk ∈ o.chunks, chunk ≠ []) (c : OutboxCall) :
    ∀ chunk ∈ (o.call c).2.chunks, chunk ≠ [] := by
  cases c with
  | push data =>
    intro chunk member
    rw [call, chunks_push] at member
    rcases List.mem_append.mp member with old | new
    · exact full chunk old
    · split at new
      · cases new
      · rwa [List.mem_singleton.mp new]
  | complete written =>
    intro chunk member
    rw [call, chunks_complete] at member
    rcases List.mem_append.mp member with left | waiting
    · exact of_decide_eq_true (List.mem_filter.mp left).2
    · exact full chunk (List.mem_append_right _ waiting)
  | next =>
    rw [call, chunks_next]
    exact full

theorem drained_of_pending {o : Outbox} (full : ∀ chunk ∈ o.chunks, chunk ≠ [])
    (nothing : o.pending = []) : o.drained = true := by
  have flat : o.pending = o.chunks.flatten := by
    cases flight : o.inFlight <;> simp [pending, chunks, flight]
  rw [flat, List.flatten_eq_nil_iff] at nothing
  have empty : o.chunks = [] := List.eq_nil_iff_forall_not_mem.mpr fun chunk member =>
    full chunk member (nothing chunk member)
  obtain ⟨flight, backlog⟩ := List.append_eq_nil_iff.mp empty
  exact o.drained_iff.mpr ⟨Option.toList_eq_nil_iff.mp flight, backlog⟩

end Outbox

/-- An outbox with what its callers have seen of it. -/
structure OutboxRun where
  outbox : Outbox := {}
  /-- What was reported written of the chunks given out. -/
  released : List UInt8 := []
  /-- The chunks given out whose writes were not reported yet, oldest first. -/
  out : List (List UInt8) := []

namespace OutboxRun

/-- Counts a report as the answer to the oldest chunk that is out. -/
def answer (r : OutboxRun) : OutboxCall → OutboxRun
  | .complete written =>
    { r with released := r.released ++ (r.out.headD []).take written, out := r.out.tail }
  | _ => r

def step (r : OutboxRun) (c : OutboxCall) : OutboxRun :=
  { r.answer c with
    outbox := (r.outbox.call c).2
    out := (r.answer c).out ++ (r.outbox.call c).1.toList }

def run (r : OutboxRun) (calls : List OutboxCall) : OutboxRun := calls.foldl step r

/-- An outbox accounts for what was pushed: it holds what was not released, in chunks of which the
first is out, and it has something in flight whenever it holds anything. -/
structure Accounts (r : OutboxRun) (pushed : List UInt8) : Prop where
  conserved : r.released ++ r.outbox.pending = pushed
  out : r.out = r.outbox.inFlight.toList
  idle : r.outbox.inFlight = none → r.outbox.backlog = []
  full : ∀ chunk ∈ r.outbox.chunks, chunk ≠ []

variable {r : OutboxRun} {pushed : List UInt8}

theorem Accounts.start : Accounts {} [] := ⟨rfl, rfl, fun _ => rfl, nofun⟩

theorem Accounts.step (accounts : r.Accounts pushed) (c : OutboxCall) :
    (r.step c).Accounts (pushed ++ c.data) where
  conserved := by
    cases c with
    | push data =>
      change r.released ++ (r.outbox.push data).2.pending = pushed ++ data
      rw [Outbox.pending_push, ← List.append_assoc, accounts.conserved]
    | complete written =>
      have first : r.out.headD [] = r.outbox.inFlight.getD [] := by
        rw [accounts.out]
        cases r.outbox.inFlight <;> rfl
      change r.released ++ (r.out.headD []).take written ++ (r.outbox.complete written).2.pending =
        pushed ++ []
      rw [first, List.append_assoc, Outbox.pending_complete, accounts.conserved, List.append_nil]
    | next =>
      change r.released ++ r.outbox.next.2.pending = pushed ++ []
      rw [Outbox.pending_next, accounts.conserved, List.append_nil]
  out := by
    cases c with
    | push data =>
      change r.out ++ (r.outbox.push data).1.toList = (r.outbox.push data).2.inFlight.toList
      rw [Outbox.inFlight_push, accounts.out]
    | complete written =>
      have none : r.out.tail = [] := by
        rw [accounts.out]
        cases r.outbox.inFlight <;> rfl
      change r.out.tail ++ (r.outbox.complete written).1.toList =
        (r.outbox.complete written).2.inFlight.toList
      rw [none, Outbox.inFlight_complete, List.nil_append]
    | next =>
      change r.out ++ r.outbox.next.1.toList = r.outbox.next.2.inFlight.toList
      rw [Outbox.inFlight_next, accounts.out]
  idle := r.outbox.idle_call c
  full := Outbox.full_call accounts.full c

theorem Accounts.run (accounts : r.Accounts pushed) (calls : List OutboxCall) :
    (r.run calls).Accounts (pushed ++ calls.flatMap OutboxCall.data) := by
  induction calls generalizing r pushed with
  | nil => simpa [OutboxRun.run] using accounts
  | cons c calls ih =>
    have later := ih (accounts.step c)
    rwa [List.append_assoc] at later

theorem Accounts.drained_iff (accounts : r.Accounts pushed) :
    r.outbox.drained = true ↔ r.released = pushed := by
  have conserved := accounts.conserved
  constructor
  · intro drained
    rwa [Outbox.pending_of_drained drained, List.append_nil] at conserved
  · intro all
    rw [all] at conserved
    exact Outbox.drained_of_pending accounts.full (List.append_right_eq_self.mp conserved)

/-- A report of at least one byte leaves less to write, unless nothing was left. -/
theorem Accounts.flush (accounts : r.Accounts pushed) {c : OutboxCall} (flushes : c.Flushes) :
    (r.step c).outbox.pending.length ≤ r.outbox.pending.length - c.reports.toNat := by
  cases c with
  | push data => exact flushes.elim
  | next => exact Nat.le_of_eq (congrArg List.length r.outbox.pending_next)
  | complete written =>
    have split := congrArg List.length (r.outbox.pending_complete written)
    rw [List.length_append, List.length_take] at split
    change (r.outbox.complete written).2.pending.length ≤ r.outbox.pending.length - 1
    cases flight : r.outbox.inFlight with
    | none =>
      have nothing : r.outbox.pending = [] := by
        simp [Outbox.pending, flight, accounts.idle flight]
      rw [nothing, List.length_nil] at split ⊢
      omega
    | some data =>
      have some : 0 < data.length := List.length_pos_iff.mpr
        (accounts.full data (by simp [Outbox.chunks, flight]))
      have one : 0 < written := flushes
      rw [flight, Option.getD_some] at split
      omega

theorem Accounts.flushed (accounts : r.Accounts pushed) {calls : List OutboxCall}
    (flush : ∀ c ∈ calls, c.Flushes) :
    (r.run calls).outbox.pending.length ≤
      r.outbox.pending.length - calls.countP OutboxCall.reports := by
  induction calls generalizing r pushed with
  | nil => exact Nat.le_refl _
  | cons c calls ih =>
    have first := accounts.flush (flush c List.mem_cons_self)
    have rest := ih (accounts.step c) fun c' member => flush c' (List.mem_cons_of_mem _ member)
    change ((r.step c).run calls).outbox.pending.length ≤ _
    rw [List.countP_cons]
    cases reports : c.reports
    all_goals
      simp only [reports, Bool.toNat_true, Bool.toNat_false, Bool.false_eq_true, if_true,
        if_false] at first ⊢
      omega

end OutboxRun

open OutboxRun in
/-- However an outbox is called: the bytes reported written, those in flight and the backlog are, in
this order, all that was pushed. What is out is what is in flight, so never more than one chunk;
each was given out with at least one byte, and while there is none nothing waits. The outbox is
drained just when all that was pushed was reported written, and without more data it is drained
after as many reports of a byte or more as there were bytes left. -/
theorem outbox_accounts_for_any_calls (calls : List OutboxCall) :
    let r := run {} calls
    let pushed := calls.flatMap OutboxCall.data
    r.released ++ r.outbox.inFlight.getD [] ++ r.outbox.backlog.flatten = pushed ∧
    r.out = r.outbox.inFlight.toList ∧
    (∀ c data, (r.outbox.call c).1 = some data →
      data ≠ [] ∧ (r.outbox.call c).2.inFlight = some data) ∧
    (r.outbox.inFlight = none → r.outbox.backlog = []) ∧
    (r.outbox.drained = true ↔ r.released = pushed) ∧
    ∀ more, (∀ c ∈ more, c.Flushes) →
      (r.outbox.inFlight.getD [] ++ r.outbox.backlog.flatten).length ≤
        more.countP OutboxCall.reports →
      (r.run more).outbox.drained = true ∧ (r.run more).released = pushed := by
  intro r pushed
  have accounts : r.Accounts pushed := Accounts.start.run calls
  refine ⟨?_, accounts.out, ?_, accounts.idle, accounts.drained_iff, ?_⟩
  · rw [List.append_assoc]
    exact accounts.conserved
  · intro c data given
    have flight := Outbox.inFlight_of_given given
    refine ⟨(accounts.step c).full data ?_, flight⟩
    change data ∈ (r.outbox.call c).2.chunks
    simp [Outbox.chunks, flight]
  · intro more flush enough
    have left := accounts.flushed flush
    have later := accounts.run more
    have nothing : more.flatMap OutboxCall.data = [] := by
      rw [List.flatMap_eq_nil_iff]
      intro c member
      cases c with
      | push data => exact (flush _ member).elim
      | complete | next => rfl
    rw [nothing, List.append_nil] at later
    have empty : (r.run more).outbox.pending = [] :=
      List.eq_nil_of_length_eq_zero (Nat.le_zero.mp (Nat.sub_eq_zero_of_le enough ▸ left))
    have drained := Outbox.drained_of_pending later.full empty
    exact ⟨drained, later.drained_iff.mp drained⟩

open OutboxRun in
/-- A report too early, an empty push and a report of nothing; then three bytes are left, and the
second of three reports tells of more than is out. -/
theorem outbox_accounts_for_any_calls_of_odd_reports :
    let calls : List OutboxCall :=
      [.complete 4, .push [1, 2, 3], .push [], .push [4], .complete 0, .complete 1]
    let more : List OutboxCall := [.complete 1, .next, .complete 9, .complete 1]
    (run {} calls).released = [1] ∧ (run {} calls).out = [[2, 3]] ∧ (∀ c ∈ more, c.Flushes) ∧
    ((run {} calls).run more).outbox.drained = true ∧
      ((run {} calls).run more).released = [1, 2, 3, 4] := by
  intro calls more
  have flush : ∀ c ∈ more, c.Flushes := by simp [more, OutboxCall.Flushes]
  obtain ⟨-, -, -, -, -, drains⟩ := outbox_accounts_for_any_calls calls
  exact ⟨rfl, rfl, flush, drains more flush (by decide)⟩

end SocketBridge
