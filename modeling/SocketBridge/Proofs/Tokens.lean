import Mathlib.Data.List.Induction
import SocketBridge.Proofs.Happened
import SocketBridge.Tokens

/-!
# Races against tokens

A race is settled by the first poll that finds its token cancelled, or else finds its work ready;
before that every poll has found it pending. Whether the token is cancelled hangs on the calls for
all of its clones and on the polls of the work itself, and once it is, it stays so.
-/

namespace SocketBridge

namespace Tokens

variable (t : Tokens) (token other : Nat)

/-- A token that is there stands for the same one as long as no token is taken away. -/
theorem origin_of_prefix {t t' : Tokens} {token : Nat} (longer : t.origins <+: t'.origins)
    (there : token < t.origins.length) : t'.origins[token]? = t.origins[token]? := by
  rw [List.prefix_iff_getElem?.mp longer token there, List.getElem?_eq_getElem there]

theorem isCancelled_of_prefix {t t' : Tokens} {token : Nat} (longer : t.origins <+: t'.origins)
    (same : t'.cancelled = t.cancelled) (there : token < t.origins.length) :
    t'.isCancelled token = t.isCancelled token := by
  rw [isCancelled, isCancelled, same, origin_of_prefix longer there]

/-- Tokens that stand for the same one are cancelled together. -/
theorem isCancelled_congr {t : Tokens} {token other : Nat}
    (same : t.origins[token]? = t.origins[other]?) : t.isCancelled token = t.isCancelled other := by
  rw [isCancelled, isCancelled, same]

theorem cancel_congr {t : Tokens} {token other : Nat}
    (same : t.origins[token]? = t.origins[other]?) : t.cancel token = t.cancel other := by
  rw [cancel, cancel, same]

theorem isCancelled_iff : t.isCancelled token = true ↔
    ∃ origin, t.origins[token]? = some origin ∧ origin ∈ t.cancelled := by
  simp [isCancelled, Option.any_eq_true]

@[simp] theorem origins_cancel : (t.cancel other).origins = t.origins := by
  unfold cancel
  split <;> rfl

/-- A call cancels the tokens that stand for the same one, and no others. -/
theorem isCancelled_cancel : (t.cancel other).isCancelled token = true ↔
    t.isCancelled token = true ∨
      ∃ origin, t.origins[other]? = some origin ∧ t.origins[token]? = some origin := by
  rw [isCancelled_iff, isCancelled_iff, origins_cancel]
  unfold cancel
  cases named : t.origins[other]? with
  | none => simp
  | some origin =>
    constructor
    · rintro ⟨origin', stands, member⟩
      rcases List.mem_insert_iff.mp member with rfl | old
      · exact .inr ⟨_, rfl, stands⟩
      · exact .inl ⟨origin', stands, old⟩
    · rintro (⟨origin', stands, old⟩ | ⟨_, ⟨⟩, stands⟩)
      · exact ⟨origin', stands, List.mem_insert_of_mem old⟩
      · exact ⟨origin, stands, List.mem_insert_self⟩

theorem cancelled_cancel : t.cancelled ⊆ (t.cancel other).cancelled := by
  unfold cancel
  split
  · exact List.Subset.refl _
  · exact fun _ member => List.mem_insert_of_mem member

/-- Cancelling what is cancelled changes nothing. -/
theorem cancel_of_isCancelled {t : Tokens} {token : Nat} (cancelled : t.isCancelled token = true) :
    t.cancel token = t := by
  obtain ⟨origin, stands, member⟩ := (t.isCancelled_iff token).mp cancelled
  simp only [cancel, stands, List.insert_of_mem member]

theorem cancel_cancel : (t.cancel other).cancel other = t.cancel other := by
  cases named : t.origins[other]? with
  | none => simp only [cancel, named]
  | some origin =>
    exact cancel_of_isCancelled ((t.isCancelled_cancel other other).mpr (.inr ⟨_, named, named⟩))

end Tokens

namespace TokenRace

variable {α ε : Type} {r : TokenRace α ε} {e : TokenEvent}

/-- Whether the token is cancelled against which the work is raced. -/
def isCancelled (r : TokenRace α ε) : Bool := r.tokens.isCancelled r.token

/-- Whether an event is to cancel the token of a race: a call for a token that stands for the same
one, or a poll that reaches the work. -/
def Cancels (r : TokenRace α ε) : TokenEvent → Prop
  | .cancel other => ∃ origin,
    r.tokens.origins[other]? = some origin ∧ r.tokens.origins[r.token]? = some origin
  | .poll => r.race.outcome = none ∧ r.isCancelled = false ∧
    (r.race.work r.race.polls).cancels = true
  | _ => False

/-- What a poll does: nothing after the end, it ends a race whose token is cancelled, and otherwise
it polls the work. -/
inductive Polls (r : TokenRace α ε) : TokenRace α ε → Prop
  | ended (settled : r.race.outcome ≠ none) (cancelled : Bool) :
    Polls r { r with race := { r.race with cancelled } }
  | stopped (unsettled : r.race.outcome = none) (cancelled : r.isCancelled = true) :
    Polls r { r with race := { r.race with cancelled := true, outcome := some .cancelled } }
  | polled (unsettled : r.race.outcome = none) (live : r.isCancelled = false) :
    Polls r
      { r with
        tokens := if (r.race.work r.race.polls).cancels then r.tokens.cancel r.token else r.tokens
        race :=
          { r.race with
            cancelled := (r.race.work r.race.polls).cancels
            polls := r.race.polls + 1
            outcome := SocketBridge.race false (r.race.work r.race.polls) } }

theorem polls_step (r : TokenRace α ε) : r.Polls (r.step .poll) := by
  cases outcome : r.race.outcome with
  | some o =>
    have settled : r.race.outcome ≠ none := by rw [outcome]; nofun
    have same : r.step .poll =
        { r with race := { r.race with cancelled := r.tokens.isCancelled r.token } } := by
      simp only [step, Race.step, outcome, Option.isSome_some, if_true]
      split
      · rename_i cancelled
        rw [Tokens.cancel_of_isCancelled cancelled]
      · rfl
    rw [same]
    exact .ended settled _
  | none =>
    cases cancelled : r.tokens.isCancelled r.token with
    | true =>
      have same : r.step .poll =
          { r with race := { r.race with cancelled := true, outcome := some .cancelled } } := by
        simp only [step, Race.step, outcome, cancelled, Option.isSome_none, Bool.false_eq_true,
          if_true, if_false, SocketBridge.race, Tokens.cancel_of_isCancelled cancelled]
      rw [same]
      exact .stopped outcome cancelled
    | false =>
      have polled := Polls.polled outcome cancelled
      simpa only [step, Race.step, outcome, cancelled, Option.isSome_none, Bool.false_eq_true,
        if_false] using polled

theorem race_step (other : e ≠ .poll) : (r.step e).race = r.race := by
  cases e with
  | poll => exact absurd rfl other
  | create | clone | cancel => rfl

@[simp] theorem token_step (r : TokenRace α ε) (e : TokenEvent) : (r.step e).token = r.token := by
  cases e <;> rfl

@[simp] theorem work_step (r : TokenRace α ε) (e : TokenEvent) :
    (r.step e).race.work = r.race.work := by
  by_cases other : e = .poll
  · subst other
    generalize r.step .poll = next, r.polls_step = polls
    cases polls <;> rfl
  · rw [race_step other]

/-- Tokens are never lost and never stand for another one. -/
theorem origins_step (r : TokenRace α ε) (e : TokenEvent) :
    r.tokens.origins <+: (r.step e).tokens.origins := by
  cases e with
  | create | clone => exact List.prefix_append ..
  | cancel token => exact r.tokens.origins_cancel token ▸ List.prefix_rfl
  | poll =>
    generalize r.step .poll = next, r.polls_step = polls
    cases polls with
    | ended | stopped => exact List.prefix_rfl
    | polled =>
      split
      · exact r.tokens.origins_cancel r.token ▸ List.prefix_rfl
      · exact List.prefix_rfl

/-- What is cancelled stays so. -/
theorem cancelled_step (r : TokenRace α ε) (e : TokenEvent) :
    r.tokens.cancelled ⊆ (r.step e).tokens.cancelled := by
  cases e with
  | create | clone => exact List.Subset.refl _
  | cancel token => exact r.tokens.cancelled_cancel token
  | poll =>
    generalize r.step .poll = next, r.polls_step = polls
    cases polls with
    | ended | stopped => exact List.Subset.refl _
    | polled =>
      split
      · exact r.tokens.cancelled_cancel r.token
      · exact List.Subset.refl _

/-- A step cancels the token of a race if its event is to, and not otherwise. -/
theorem isCancelled_step (there : r.token < r.tokens.origins.length) (e : TokenEvent) :
    (r.step e).isCancelled = true ↔ r.isCancelled = true ∨ r.Cancels e := by
  cases e with
  | create =>
    have same : (r.step .create).isCancelled = r.isCancelled :=
      Tokens.isCancelled_of_prefix (List.prefix_append ..) rfl there
    rw [same, or_iff_left (by nofun)]
  | clone other =>
    have same : (r.step (.clone other)).isCancelled = r.isCancelled :=
      Tokens.isCancelled_of_prefix (List.prefix_append ..) rfl there
    rw [same, or_iff_left (by nofun)]
  | cancel other => exact r.tokens.isCancelled_cancel r.token other
  | poll =>
    generalize r.step .poll = next, r.polls_step = polls
    cases polls with
    | ended settled => exact (or_iff_left fun cancels => settled cancels.1).symm
    | stopped unsettled cancelled => exact iff_of_true cancelled (.inl cancelled)
    | polled unsettled live =>
      have pending : r.Cancels .poll ↔ (r.race.work r.race.polls).cancels = true := by
        simp only [Cancels, unsettled, live, true_and]
      rw [pending, live]
      cases (r.race.work r.race.polls).cancels with
      | true =>
        have named := List.getElem?_eq_getElem there
        have now := (r.tokens.isCancelled_cancel r.token r.token).mpr (.inr ⟨_, named, named⟩)
        exact iff_of_true now (.inr rfl)
      | false => exact iff_of_false (Bool.eq_false_iff.mp live) (by nofun)

/-- A poll of the work leaves the token cancelled exactly if the work cancels it. -/
theorem isCancelled_polled (there : r.token < r.tokens.origins.length)
    (unsettled : r.race.outcome = none) (live : r.isCancelled = false) :
    (r.step .poll).isCancelled = (r.race.work r.race.polls).cancels := by
  rw [Bool.eq_iff_iff, isCancelled_step there]
  simp only [Cancels, unsettled, live, Bool.false_eq_true, true_and, false_or]

/-! ### Runs -/

theorem run_append (r : TokenRace α ε) (events more : List TokenEvent) :
    r.run (events ++ more) = (r.run events).run more :=
  List.foldl_append

theorem run_concat (r : TokenRace α ε) (events : List TokenEvent) (e : TokenEvent) :
    r.run (events ++ [e]) = (r.run events).step e :=
  r.run_append events [e]

@[simp] theorem token_run (r : TokenRace α ε) (events : List TokenEvent) :
    (r.run events).token = r.token := by
  induction events using List.reverseRecOn with
  | nil => rfl
  | append_singleton events e ih => rw [run_concat, token_step, ih]

@[simp] theorem work_run (r : TokenRace α ε) (events : List TokenEvent) :
    (r.run events).race.work = r.race.work := by
  induction events using List.reverseRecOn with
  | nil => rfl
  | append_singleton events e ih => rw [run_concat, work_step, ih]

theorem origins_run (r : TokenRace α ε) (events : List TokenEvent) :
    r.tokens.origins <+: (r.run events).tokens.origins := by
  induction events using List.reverseRecOn with
  | nil => exact List.prefix_rfl
  | append_singleton events e ih =>
    rw [run_concat]
    exact ih.trans (origins_step _ e)

theorem cancelled_run (r : TokenRace α ε) (events : List TokenEvent) :
    r.tokens.cancelled ⊆ (r.run events).tokens.cancelled := by
  induction events using List.reverseRecOn with
  | nil => exact List.Subset.refl _
  | append_singleton events e ih =>
    rw [run_concat]
    exact List.Subset.trans ih (cancelled_step _ e)

/-- A cancelled token stays cancelled. -/
theorem isCancelled_run_of (events : List TokenEvent) {other : Nat}
    (cancelled : r.tokens.isCancelled other = true) :
    (r.run events).tokens.isCancelled other = true := by
  obtain ⟨origin, stands, member⟩ := (Tokens.isCancelled_iff ..).mp cancelled
  have there := (List.getElem?_eq_some_iff.mp stands).1
  have still := Tokens.origin_of_prefix (r.origins_run events) there
  exact (Tokens.isCancelled_iff ..).mpr
    ⟨origin, still.trans stands, r.cancelled_run events member⟩

theorem there_run (there : r.token < r.tokens.origins.length) (events : List TokenEvent) :
    (r.run events).token < (r.run events).tokens.origins.length := by
  rw [token_run]
  exact Nat.lt_of_lt_of_le there (r.origins_run events).length_le

/-- The token of a race is cancelled once some event was to cancel it. -/
theorem isCancelled_run (there : r.token < r.tokens.origins.length) (events : List TokenEvent) :
    (r.run events).isCancelled = true ↔
      r.isCancelled = true ∨ Happened (fun past e => (r.run past).Cancels e) events := by
  induction events using List.reverseRecOn with
  | nil => exact (or_iff_left not_happened_nil).symm
  | append_singleton events e ih =>
    rw [run_concat, isCancelled_step (there_run there events), ih, or_assoc, happened_concat]

/-! ### The end of a race -/

/-- No poll so far has found the token cancelled or the work ready. -/
def Waits (r : TokenRace α ε) (events : List TokenEvent) : Prop :=
  ∀ past, past ++ [.poll] <+: events →
    (r.run past).isCancelled = false ∧ (r.race.work (past.count .poll)).ready = none

/-- How a race stands, and how often its work was polled: no poll has settled it, or the first one
that found the token cancelled or the work ready has. The work gives a value, or it fails; a failure
is not told if the token is cancelled by then. -/
inductive Settles (r : TokenRace α ε) (events : List TokenEvent) :
    Option (Outcome α ε) → Nat → Prop
  | pending (waits : r.Waits events) : Settles r events none (events.count .poll)
  | cancelled {past : List TokenEvent} (first : past ++ [.poll] <+: events) (waits : r.Waits past)
    (cancelled : (r.run past).isCancelled = true) :
    Settles r events (some .cancelled) (past.count .poll)
  | succeeded {past : List TokenEvent} {value : α} (first : past ++ [.poll] <+: events)
    (waits : r.Waits past) (live : (r.run past).isCancelled = false)
    (ready : (r.race.work (past.count .poll)).ready = some (.ok value)) :
    Settles r events (some (.succeeded value)) (past.count .poll + 1)
  | failed {past : List TokenEvent} {error : ε} (first : past ++ [.poll] <+: events)
    (waits : r.Waits past) (live : (r.run past).isCancelled = false)
    (ready : (r.race.work (past.count .poll)).ready = some (.error error)) :
    Settles r events
      (some (if (r.run (past ++ [.poll])).isCancelled then .cancelled else .failed error))
      (past.count .poll + 1)

variable {events : List TokenEvent} {outcome : Option (Outcome α ε)} {polls : Nat}

theorem Waits.other (waits : r.Waits events) (other : e ≠ .poll) : r.Waits (events ++ [e]) := by
  intro past first
  rcases List.prefix_concat_iff.mp first with last | earlier
  · exact absurd (List.append_singleton_inj.mp last).2.symm other
  · exact waits past earlier

theorem Waits.poll (waits : r.Waits events) (live : (r.run events).isCancelled = false)
    (unready : (r.race.work (events.count .poll)).ready = none) :
    r.Waits (events ++ [.poll]) := by
  intro past first
  rcases List.prefix_concat_iff.mp first with last | earlier
  · obtain ⟨rfl, -⟩ := List.append_singleton_inj.mp last
    exact ⟨live, unready⟩
  · exact waits past earlier

/-- What is settled does not change. -/
theorem Settles.later (settles : r.Settles events outcome polls) (settled : outcome ≠ none)
    (e : TokenEvent) : r.Settles (events ++ [e]) outcome polls := by
  have longer : events <+: events ++ [e] := List.prefix_append ..
  cases settles with
  | pending => exact absurd rfl settled
  | cancelled first waits cancelled => exact .cancelled (first.trans longer) waits cancelled
  | succeeded first waits live ready => exact .succeeded (first.trans longer) waits live ready
  | failed first waits live ready => exact .failed (first.trans longer) waits live ready

theorem Settles.waits (settles : r.Settles events none polls) :
    r.Waits events ∧ polls = events.count .poll := by
  cases settles with
  | pending waits => exact ⟨waits, rfl⟩

theorem Settles.other (settles : r.Settles events outcome polls) (other : e ≠ .poll) :
    r.Settles (events ++ [e]) outcome polls := by
  cases outcome with
  | some o => exact settles.later (Option.some_ne_none o) e
  | none =>
    obtain ⟨waits, rfl⟩ := settles.waits
    have pending := Settles.pending (waits.other other)
    rwa [List.count_append, List.count_singleton, if_neg (by simpa using other)] at pending

theorem Settles.step (there : r.token < r.tokens.origins.length)
    (settles : r.Settles events (r.run events).race.outcome (r.run events).race.polls)
    (e : TokenEvent) :
    r.Settles (events ++ [e]) (r.run (events ++ [e])).race.outcome
      (r.run (events ++ [e])).race.polls := by
  rw [run_concat]
  by_cases other : e ≠ .poll
  · rw [race_step other]
    exact settles.other other
  obtain rfl : e = .poll := not_not.mp other
  have after := isCancelled_polled (there_run there events)
  rw [← run_concat, work_run] at after
  generalize (r.run events).step .poll = next, (r.run events).polls_step = polls
  -- A poll of the work comes only while nothing is settled, so every poll before it was one too and
  -- the work's own count of polls is the count of polls in the run.
  cases polls with
  | ended settled => exact settles.later settled .poll
  | stopped unsettled cancelled =>
    obtain ⟨waits, count⟩ := Settles.waits (unsettled ▸ settles)
    rw [count]
    exact .cancelled List.prefix_rfl waits cancelled
  | polled unsettled live =>
    obtain ⟨waits, count⟩ := Settles.waits (unsettled ▸ settles)
    specialize after unsettled live
    simp only [work_run, count] at after ⊢
    cases ready : (r.race.work (events.count .poll)).ready with
    | none =>
      have pending := Settles.pending (waits.poll live ready)
      rw [List.count_append, List.count_singleton_self] at pending
      rwa [SocketBridge.race, ready]
    | some ending =>
      cases ending with
      | ok value =>
        rw [SocketBridge.race, ready]
        exact .succeeded List.prefix_rfl waits live ready
      | error e =>
        have failed := Settles.failed List.prefix_rfl waits live ready
        rw [after] at failed
        rwa [SocketBridge.race, ready]

/-- Every run of a race from its start settles it as it should. -/
theorem settles_run (there : r.token < r.tokens.origins.length) (fresh : r.race.outcome = none)
    (unpolled : r.race.polls = 0) (events : List TokenEvent) :
    r.Settles events (r.run events).race.outcome (r.run events).race.polls := by
  induction events using List.reverseRecOn with
  | nil =>
    have waits : r.Waits [] := by
      intro past first
      have nonempty := List.append_ne_nil_of_right_ne_nil past (List.cons_ne_nil .poll [])
      exact absurd (List.prefix_nil.mp first) nonempty
    change r.Settles [] r.race.outcome r.race.polls
    rw [fresh, unpolled]
    exact .pending waits
  | append_singleton events e settles => exact settles.step there e

/-- Work is not polled once its token is cancelled. -/
theorem polls_run_of_isCancelled (cancelled : r.isCancelled = true) (events : List TokenEvent) :
    (r.run events).race.polls = r.race.polls := by
  induction events using List.reverseRecOn with
  | nil => rfl
  | append_singleton events e ih =>
    have still : (r.run events).isCancelled = true := by
      rw [isCancelled, token_run]
      exact isCancelled_run_of events cancelled
    rw [run_concat, ← ih]
    by_cases other : e ≠ .poll
    · rw [race_step other]
    obtain rfl : e = .poll := not_not.mp other
    generalize (r.run events).step .poll = next, (r.run events).polls_step = polls
    cases polls with
    | ended | stopped => rfl
    | polled unsettled live => exact absurd (still.symm.trans live) (by nofun)

/-- The poll that tells of a failure has not found the token cancelled, nor is it now. -/
theorem live_of_failed (there : r.token < r.tokens.origins.length) {error : ε}
    (untold : r.race.outcome ≠ some (.failed error))
    (told : (r.step .poll).race.outcome = some (.failed error)) :
    (r.step .poll).isCancelled = false := by
  have after := isCancelled_polled there
  generalize r.step .poll = next, r.polls_step = polls at told after ⊢
  cases polls with
  | ended settled => exact absurd told untold
  | stopped unsettled cancelled => cases told
  | polled unsettled live =>
    rw [after unsettled live]
    generalize r.race.work r.race.polls = poll at told
    obtain ⟨cancels, _ | failure | value⟩ := poll
    · cases told
    · cases cancels with
      | false => rfl
      | true => cases told
    · cases told

/-- A clone stands for what its original stands for, whatever comes later. -/
theorem origin_clone {other : Nat} (there : other < r.tokens.origins.length)
    (events : List TokenEvent) :
    ((r.step (.clone other)).run events).tokens.origins[r.tokens.origins.length]? =
      ((r.step (.clone other)).run events).tokens.origins[other]? := by
  have cloned : (r.step (.clone other)).tokens.origins =
      r.tokens.origins ++ [r.tokens.origins[other]] := by
    simp only [step, Tokens.clone, List.getElem?_eq_getElem there, Option.toList_some]
  have kept := (r.step (.clone other)).origins_run events
  rw [Tokens.origin_of_prefix kept (by simp [cloned]),
    Tokens.origin_of_prefix kept (by simp [cloned]; omega), cloned,
    List.getElem?_append_left there, List.getElem?_concat_length, List.getElem?_eq_getElem there]

end TokenRace

/-- A race of work against a token that is there, over any calls for tokens and any polls. It is
settled by the first poll that finds the token cancelled, and then as cancelled and without a poll
of the work, or that finds the work ready: with its value even if the token is cancelled by then,
with its failure only if it is not. Until then it is pending. The token is cancelled by a call for
any token that stands for the same one, as clones do from when they are made, or by the work itself.
What is cancelled stays so, another call changes nothing, and the work is not polled again. -/
theorem race_settles_at_first_poll {α ε : Type} (tokens : Tokens) (token : Nat)
    (there : token < tokens.origins.length) (work : Nat → Poll α ε) (events : List TokenEvent) :
    let start := TokenRace.start tokens token work
    let r := start.run events
    start.Settles events r.race.outcome r.race.polls ∧
    (r.isCancelled = true ↔ tokens.isCancelled token = true ∨
      Happened (fun past e => (start.run past).Cancels e) events) ∧
    (∀ error, r.race.outcome ≠ some (.failed error) →
      (r.step .poll).race.outcome = some (.failed error) → (r.step .poll).isCancelled = false) ∧
    (r.isCancelled = true → ∀ more, (r.run more).race.polls = r.race.polls) ∧
    (∀ other, r.tokens.isCancelled other = true →
      ∀ more, (r.run more).tokens.isCancelled other = true) ∧
    (∀ other, (r.step (.cancel other)).step (.cancel other) = r.step (.cancel other)) ∧
    (∀ other < r.tokens.origins.length, ∀ more,
      let clone := r.tokens.origins.length
      let later := ((r.step (.clone other)).run more).tokens
      later.isCancelled clone = later.isCancelled other ∧
        later.cancel clone = later.cancel other) := by
  intro start r
  refine ⟨TokenRace.settles_run there rfl rfl events, TokenRace.isCancelled_run there events,
    fun error => TokenRace.live_of_failed (TokenRace.there_run there events),
    TokenRace.polls_run_of_isCancelled, fun other cancelled more =>
      TokenRace.isCancelled_run_of more cancelled, fun other => ?_, fun other present more => ?_⟩
  · exact congrArg (fun tokens => { r with tokens }) (r.tokens.cancel_cancel other)
  · have same := TokenRace.origin_clone present more
    exact ⟨Tokens.isCancelled_congr same, Tokens.cancel_congr same⟩

/-- Work that is pending once and then ready is not polled again: a clone was cancelled between. -/
theorem race_settles_at_first_poll_of_cancelled_clone :
    let work : Nat → Poll Nat Nat := fun poll => if poll = 0 then {} else { ready := some (.ok 5) }
    let r := (TokenRace.start ({} : Tokens).create 0 work).run [.poll, .clone 0, .cancel 1]
    0 < ({} : Tokens).create.origins.length ∧ r.isCancelled = true ∧ r.race.polls = 1 ∧
      (r.step .poll).race.outcome = some .cancelled ∧ ∀ more, (r.run more).race.polls = 1 := by
  intro work r
  have there : 0 < ({} : Tokens).create.origins.length := by decide
  obtain ⟨-, -, -, unpolled, -⟩ :=
    race_settles_at_first_poll ({} : Tokens).create 0 there work [.poll, .clone 0, .cancel 1]
  exact ⟨there, rfl, rfl, rfl, unpolled rfl⟩

end SocketBridge
