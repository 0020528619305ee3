import SocketBridge.Proofs.Echo.Progress

/-!
# Isolation of connections

What is asked of the socket of one client depends on what befalls its own connection only. A run is
projected on one token; the connection with this token, left to itself, asks for the same.
-/

namespace SocketBridge

/-- What may befall one connection. -/
inductive ConnectionEvent
  | record (r : Completion (List UInt8))
  | closed

def ConnectionEvent.record? : ConnectionEvent → Option (Completion (List UInt8))
  | record r => some r
  | closed => none

namespace EchoEvent

/-- What an event is to the connection with a token. -/
def share? (token : Nat) : EchoEvent → Option ConnectionEvent
  | .record _ r => if r.stream? = some token then some (.record r) else none
  | .closeAll => some .closed

/-- The record of an event that names a token. -/
def names? (token : Nat) : EchoEvent → Option (Completion (List UInt8))
  | .record _ r => if r.stream? = some token then some r else none
  | .closeAll => none

theorem share?_of_arrival {e : EchoEvent} {arrival : Bool × Nat} {token : Nat}
    (arrives : e.arrival? = some arrival) : e.share? token = none := by
  cases e with
  | closeAll => cases arrives
  | record starts r =>
    cases r with
    | read | write | connect => cases arrives
    | accept => rfl

theorem record?_share? (token : Nat) (e : EchoEvent) :
    (e.share? token).bind (·.record?) = e.names? token := by
  cases e with
  | closeAll => rfl
  | record starts r =>
    simp only [share?, names?]
    split <;> rfl

end EchoEvent

/-- What is delivered to the connection with a token once the token is given. So many tokens were
given before. -/
def delivered (token given : Nat) : List EchoEvent → List ConnectionEvent
  | [] => []
  | e :: events =>
    (if token ≤ given then e.share? token else none).toList ++
      delivered token (given + e.arrival?.toList.length) events

theorem delivered_append (token given : Nat) (past future : List EchoEvent) :
    delivered token given (past ++ future) =
      delivered token given past ++ delivered token (given + (arrived past).length) future := by
  induction past generalizing given with
  | nil => rfl
  | cons e past ih =>
    rw [List.cons_append, delivered, ih, delivered, arrived_cons, List.length_append,
      Nat.add_assoc, List.append_assoc]

/-- Records that come when their token is given are all delivered. -/
theorem records_delivered {token given : Nat} {events : List EchoEvent}
    (prompt : ∀ e ∈ events, e.names? token ≠ none → token ≤ given) :
    (delivered token given events).filterMap (·.record?) =
      events.filterMap (·.names? token) := by
  induction events generalizing given with
  | nil => rfl
  | cons e events ih =>
    obtain ⟨here, there⟩ := List.forall_mem_cons.mp prompt
    have later : ∀ e' ∈ events, e'.names? token ≠ none →
        token ≤ given + e.arrival?.toList.length := fun e' member names =>
      Nat.le_add_right_of_le (there e' member names)
    have rest := ih later
    rw [delivered, List.filterMap_append, rest, List.filterMap_cons, ← e.record?_share? token]
    by_cases due : token ≤ given
    · rw [if_pos due]
      cases e.share? token with
      | none => rfl
      | some own => cases own <;> rfl
    · have none : e.names? token = none := by
        by_contra names
        exact due (here names)
      rw [if_neg due, e.record?_share?, none]
      rfl

namespace EchoConnection

/-- What an event makes of a connection. -/
def meet (c : EchoConnection) (token : Nat) :
    ConnectionEvent → Option EchoConnection × List EchoCommand
  | .record r => c.turn token r
  | .closed => (none, [.cancel c.socket, .drop c.socket])

/-- What a connection by itself asks for, until it ends. -/
def alone (token : Nat) : Option EchoConnection → List ConnectionEvent → List EchoCommand
  | none, _ | some _, [] => []
  | some c, e :: events => (c.meet token e).2 ++ alone token (c.meet token e).1 events

theorem alone_none (token : Nat) (events : List ConnectionEvent) :
    alone token none events = [] := by
  cases events <;> rfl

/-- All that a connection asks for is about its socket. -/
theorem socket?_of_mem_turn {c : EchoConnection} {token : Nat} {r : Completion (List UInt8)}
    (stream : r.stream? = some token) {command : EchoCommand}
    (asked : command ∈ (c.turn token r).2) : command.socket? = some c.socket := by
  rcases mem_turn stream asked with ⟨data, rfl⟩ | rfl | rfl | rfl <;> rfl

end EchoConnection

namespace Scheduler

variable {s : Scheduler} {token n : Nat} {e : EchoEvent} {c : EchoConnection}

theorem mem_of_find? (found : s.find? token = some c) : (token, c) ∈ s.connections := by
  obtain ⟨last, connections⟩ := s
  simp only [find?] at found ⊢
  induction connections with
  | nil => cases found
  | cons entry rest ih =>
    obtain ⟨key, own⟩ := entry
    rw [List.lookup_cons] at found
    split at found
    · rename_i same
      rw [beq_iff_eq.mp same, Option.some.inj found]
      exact List.mem_cons_self
    · exact List.mem_cons_of_mem _ (ih found)

/-- The tokens of all open connections. -/
def tokens (s : Scheduler) : List Nat := s.connections.map Prod.fst

theorem tokens_put (s : Scheduler) (token : Nat) (c : EchoConnection) :
    (s.put token c).tokens = s.tokens := by
  simp only [tokens, put, List.map_map]
  refine List.map_congr_left fun entry _ => ?_
  simp only [Function.comp_apply]
  split
  · rename_i same
    exact (beq_iff_eq.mp same).symm
  · rfl

theorem tokens_remove (s : Scheduler) (token : Nat) :
    (s.remove token).tokens.Sublist s.tokens := List.filter_sublist.map _

theorem tokens_keep (s : Scheduler) (token : Nat) (c : EchoConnection) :
    (s.keep token c).1.tokens.Sublist s.tokens := by
  unfold keep
  split
  · exact s.tokens_remove token
  · exact (s.tokens_put token c).symm ▸ List.Sublist.refl _

theorem tokens_handle (s : Scheduler) (starts : Bool) {r : Completion (List UInt8)}
    (stream : r.stream? = some token) : (s.handle starts r).1.tokens.Sublist s.tokens := by
  cases r with
  | connect | accept => cases stream
  | read q =>
    simp only [handle, onRead]
    split
    · exact .refl _
    · split
      · exact s.tokens_remove _
      · exact s.tokens_put .. ▸ .refl _
      · exact s.tokens_keep _ _
  | write q =>
    simp only [handle, onWrite]
    split
    · exact .refl _
    · split
      · exact s.tokens_remove _
      · exact s.tokens_keep _ _

theorem tokens_onConnection (s : Scheduler) (n : Nat) :
    (s.onConnection true n).1.tokens = s.tokens ++ [s.lastToken + 1] := by
  simp [onConnection, tokens]

/-- The end of all connections asks nothing of a socket that none of them has. -/
theorem filter_closeAll_of_foreign {entries : List (Nat × EchoConnection)}
    (foreign : ∀ entry ∈ entries, entry.2.socket ≠ n) :
    (entries.flatMap fun entry => [EchoCommand.cancel entry.2.socket, .drop entry.2.socket]).filter
      (·.socket? = some n) = [] := by
  simp only [List.filter_eq_nil_iff, List.mem_flatMap, List.mem_cons, List.not_mem_nil, or_false,
    decide_eq_true_iff]
  rintro command ⟨entry, listed, either⟩ about
  refine foreign entry listed ?_
  rcases either with rfl | rfl <;> exact Option.some.inj about

/-- The end of all connections asks of a socket what the end of its own connection does. -/
theorem filter_closeAll {entries : List (Nat × EchoConnection)}
    (distinct : (entries.map Prod.fst).Nodup)
    (sole : ∀ entry ∈ entries, entry.2.socket = n ↔ entry.1 = token)
    (found : entries.lookup token = some c) :
    (entries.flatMap fun entry => [.cancel entry.2.socket, .drop entry.2.socket]).filter
      (·.socket? = some n) = [EchoCommand.cancel n, .drop n] := by
  induction entries with
  | nil => cases found
  | cons entry rest ih =>
    obtain ⟨key, own⟩ := entry
    obtain ⟨here, there⟩ := List.forall_mem_cons.mp sole
    obtain ⟨absent, distinct⟩ := List.nodup_cons.mp distinct
    rw [List.flatMap_cons, List.filter_append]
    by_cases same : key = token
    · have mine : own.socket = n := here.mpr same
      have foreign : ∀ entry ∈ rest, entry.2.socket ≠ n := fun entry listed owned =>
        absent (same ▸ List.mem_map.mpr ⟨entry, listed, (there entry listed).mp owned⟩)
      have others := filter_closeAll_of_foreign foreign
      rw [others, mine]
      simp [EchoCommand.socket?]
    · have foreign : own.socket ≠ n := fun mine => same (here.mp mine)
      have apart : (token == key) = false := by simpa using Ne.symm same
      rw [List.lookup_cons, apart] at found
      rw [ih distinct there found]
      simp [EchoCommand.socket?, foreign]

/-- One connection at most has a socket, and if it is open it is the one with the token. -/
structure Owns (s : Scheduler) (token n : Nat) : Prop where
  below : ∀ other ∈ s.tokens, other ≤ s.lastToken
  distinct : s.tokens.Nodup
  sole : ∀ entry ∈ s.connections, entry.2.socket = n ↔ entry.1 = token

theorem Owns.ordered (owns : s.Owns token n) : s.Ordered := fun other _ found =>
  owns.below other (List.mem_map.mpr ⟨_, mem_of_find? found, rfl⟩)

theorem Owns.socket (owns : s.Owns token n) (found : s.find? token = some c) : c.socket = n :=
  (owns.sole _ (mem_of_find? found)).mpr rfl

theorem Owns.empty : Owns {} token n := ⟨nofun, List.nodup_nil, nofun⟩

theorem Owns.step (owns : s.Owns token n)
    (apart : ∀ starts m, e.arrival? = some (starts, m) → (m = n ↔ s.lastToken + 1 = token)) :
    (s.step e).1.Owns token n := by
  cases s.kind e with
  | closes => exact ⟨nofun, List.nodup_nil, nofun⟩
  | idles _ _ same =>
    rw [step_record, same]
    exact owns
  | @turns starts r named d stream found =>
    have fewer := s.tokens_handle starts stream
    refine ⟨fun other listed => ?_, fewer.nodup owns.distinct, fun entry member => ?_⟩
    · rw [step_record, (handle_open starts stream found).2.1]
      exact owns.below other (fewer.subset listed)
    · rcases mem_handle stream found member with old | ⟨own, same⟩
      · exact owns.sole entry old
      · rw [own, same]
        exact owns.sole _ (mem_of_find? found)
  | @arrives _ starts m arrives =>
    rw [step_of_arrival arrives]
    have later : ∀ other ∈ s.tokens, other ≤ s.lastToken + 1 := fun other listed =>
      Nat.le_succ_of_le (owns.below other listed)
    cases starts with
    | false => exact ⟨later, owns.distinct, owns.sole⟩
    | true =>
      refine ⟨fun other listed => ?_, ?_, fun entry member => ?_⟩
      · rw [tokens_onConnection] at listed
        rcases List.mem_append.mp listed with old | new
        · exact later other old
        · exact Nat.le_of_eq (List.mem_singleton.mp new)
      · rw [tokens_onConnection]
        refine List.nodup_append.mpr ⟨owns.distinct, List.pairwise_singleton _ _, ?_⟩
        rintro other old _ new rfl
        have bound := owns.below other old
        rw [List.mem_singleton.mp new] at bound
        omega
      · rcases List.mem_append.mp member with old | new
        · exact owns.sole entry old
        · rw [List.mem_singleton.mp new]
          exact apart true m arrives

/-- What an event makes of the connection with a token, and what it asks of its socket. -/
theorem Owns.meets (owns : s.Owns token n) (found : s.find? token = some c)
    (apart : ∀ starts m, e.arrival? = some (starts, m) → m ≠ n) :
    ((s.step e).1.find? token, (s.step e).2.filter (·.socket? = some n)) =
      match e.share? token with
      | some own => c.meet token own
      | none => (some c, []) := by
  have given := owns.ordered token c found
  cases s.kind e with
  | closes =>
    have all := filter_closeAll owns.distinct owns.sole found
    exact Prod.ext rfl (owns.socket found ▸ all)
  | @idles starts r arrives stale same silent =>
    have other : (EchoEvent.record starts r).share? token = none := by
      refine if_neg fun own => ?_
      cases (stale token own).symm.trans found
    rw [other, step_record, same, found, Prod.mk.injEq, List.filter_eq_nil_iff]
    refine ⟨rfl, fun command asked => ?_⟩
    rw [(silent command asked).1]
    exact of_decide_eq_false rfl
  | @turns starts r named d stream opened =>
    obtain ⟨commands, -, others⟩ := handle_open starts stream opened
    rw [step_record, commands, others]
    by_cases own : named = token
    · subst own
      obtain rfl := Option.some.inj (opened.symm.trans found)
      have mine : (EchoEvent.record starts r).share? named = some (.record r) := if_pos stream
      rw [mine, if_pos rfl, List.filter_eq_self.mpr]
      · rfl
      · intro command asked
        rw [EchoConnection.socket?_of_mem_turn stream asked, owns.socket found]
        exact decide_eq_true rfl
    · have other : (EchoEvent.record starts r).share? token = none :=
        if_neg fun mine => own (Option.some.inj (stream.symm.trans mine))
      rw [other, if_neg (Ne.symm own), found, Prod.mk.injEq, List.filter_eq_nil_iff]
      refine ⟨rfl, fun command asked => ?_⟩
      rw [EchoConnection.socket?_of_mem_turn stream asked, decide_eq_true_iff]
      intro same
      exact own ((owns.sole _ (mem_of_find? opened)).mp (Option.some.inj same))
  | @arrives _ starts m arrives =>
    have foreign := apart starts m arrives
    rw [EchoEvent.share?_of_arrival arrives, step_of_arrival arrives, onConnection]
    cases starts with
    | true =>
      refine Prod.ext ?_ (by simp [EchoCommand.socket?, foreign])
      simp only [if_true, find?_opened owns.ordered]
      rw [if_neg (by omega), found]
    | false => exact Prod.ext found (by simp [EchoCommand.socket?, foreign])

/-- While the token is not open, nothing is asked of its socket. -/
theorem Owns.silent (owns : s.Owns token n) (closed : s.find? token = none)
    (apart : ∀ starts m, e.arrival? = some (starts, m) → m ≠ n) :
    (s.step e).2.filter (·.socket? = some n) = [] := by
  cases s.kind e with
  | closes =>
    refine filter_closeAll_of_foreign fun entry listed owned => ?_
    have absent := List.lookup_eq_none_iff.mp closed entry listed
    simp [(owns.sole entry listed).mp owned] at absent
  | @idles starts r arrives stale same silent =>
    rw [List.filter_eq_nil_iff]
    intro command asked
    rw [(silent command asked).1]
    exact of_decide_eq_false rfl
  | @turns starts r named d stream opened =>
    rw [step_record, (handle_open starts stream opened).1, List.filter_eq_nil_iff]
    intro command asked
    rw [EchoConnection.socket?_of_mem_turn stream asked, decide_eq_true_iff]
    intro same
    obtain rfl := (owns.sole _ (mem_of_find? opened)).mp (Option.some.inj same)
    cases opened.symm.trans closed
  | @arrives _ starts m arrives =>
    have foreign := apart starts m arrives
    rw [step_of_arrival arrives, onConnection]
    cases starts <;> simp [EchoCommand.socket?, foreign]

/-- A token that is given and closed stays so; one that is to come waits for its socket. -/
theorem Owns.stays_closed (owns : s.Owns token n) (closed : s.find? token = none)
    (apart : ∀ starts m, e.arrival? = some (starts, m) → s.lastToken + 1 ≠ token) :
    (s.step e).1.find? token = none := by
  rcases step_closed owns.ordered closed e with still | ⟨m, next, last, -, -⟩
  · exact still
  · rw [lastToken_step_eq] at last
    cases arrives : e.arrival? with
    | some arrival => exact absurd next.symm (apart arrival.1 arrival.2 arrives)
    | none =>
      rw [arrives] at last
      simp only [Option.toList_none, List.length_nil] at last
      omega

/-- Once its token is given, a connection asks in a run for what it asks for by itself. -/
theorem Owns.commands_given (owns : s.Owns token n) (given : token ≤ s.lastToken)
    {events : List EchoEvent} (gone : ∀ arrival ∈ arrived events, arrival.2 ≠ n) :
    (s.commands events).filter (·.socket? = some n) =
      EchoConnection.alone token (s.find? token) (delivered token s.lastToken events) := by
  induction events generalizing s with
  | nil => cases s.find? token <;> rfl
  | cons e events ih =>
    rw [arrived_cons] at gone
    have foreign : ∀ starts m, e.arrival? = some (starts, m) → m ≠ n := fun starts m arrives =>
      gone (starts, m) (List.mem_append_left _ (Option.mem_toList.mpr arrives))
    have later : ∀ arrival ∈ arrived events, arrival.2 ≠ n := fun arrival member =>
      gone arrival (List.mem_append_right _ member)
    have beyond : ∀ starts m, e.arrival? = some (starts, m) → s.lastToken + 1 ≠ token :=
      fun _ _ _ => by omega
    have next := owns.step fun starts m arrives =>
      iff_of_false (foreign starts m arrives) (beyond starts m arrives)
    have rest := ih next (Nat.le_trans given (s.lastToken_step e)) later
    rw [commands, List.filter_append, rest, delivered, if_pos given, lastToken_step_eq]
    cases found : s.find? token with
    | none =>
      rw [owns.silent found foreign, owns.stays_closed found beyond, EchoConnection.alone_none,
        EchoConnection.alone_none]
      rfl
    | some c =>
      have meets := owns.meets found foreign
      cases share : e.share? token with
      | none =>
        rw [share] at meets
        obtain ⟨found', asked⟩ := Prod.mk.inj meets
        rw [found', asked]
        rfl
      | some own =>
        rw [share] at meets
        obtain ⟨found', asked⟩ := Prod.mk.inj meets
        rw [found', asked]
        rfl

/-- A connection that is yet to come asks for nothing, then for its read, and then for what it asks
for by itself. -/
theorem Owns.commands (owns : s.Owns token n) {starts : Bool} {events : List EchoEvent} {i : Nat}
    (next : token = s.lastToken + i + 1) (arrives : (arrived events)[i]? = some (starts, n))
    (distinct : ((arrived events).map Prod.snd).Nodup) :
    (s.commands events).filter (·.socket? = some n) =
      .read n token :: if starts then
        EchoConnection.alone token (some { socket := n }) (delivered token s.lastToken events)
      else [.drop n] := by
  induction events generalizing s i with
  | nil => cases arrives
  | cons e events ih =>
    have closed : s.find? token = none := by
      cases found : s.find? token with
      | none => rfl
      | some c =>
        have given := owns.ordered token c found
        omega
    have early : ¬token ≤ s.lastToken := by omega
    rw [Scheduler.commands, List.filter_append, delivered, if_neg early, ← lastToken_step_eq]
    rw [arrived_cons] at arrives distinct
    cases here : e.arrival? with
    | none =>
      rw [here] at arrives distinct
      have none : ∀ starts m, e.arrival? = some (starts, m) → False := by simp [here]
      have last : (s.step e).1.lastToken = s.lastToken := by simp [lastToken_step_eq, here]
      rw [owns.silent closed fun starts m arrives => (none starts m arrives).elim]
      exact ih (owns.step fun starts m arrives => (none starts m arrives).elim) (last.symm ▸ next)
        arrives distinct
    | some arrival =>
      obtain ⟨begins, m⟩ := arrival
      rw [here] at arrives distinct
      obtain ⟨fresh, distinct⟩ := List.nodup_cons.mp distinct
      have last : (s.step e).1.lastToken = s.lastToken + 1 := by simp [lastToken_step_eq, here]
      cases i with
      | zero =>
        obtain ⟨rfl, rfl⟩ := Prod.mk.inj (Option.some.inj arrives)
        have mine := owns.step (e := e) fun starts' m' arrives' => by
          obtain ⟨-, rfl⟩ := Prod.mk.inj (Option.some.inj (here.symm.trans arrives'))
          exact iff_of_true rfl next.symm
        have gone : ∀ arrival ∈ arrived events, arrival.2 ≠ m := fun arrival member same =>
          fresh (List.mem_map.mpr ⟨arrival, member, same⟩)
        rw [mine.commands_given (by omega) gone, step_of_arrival here, onConnection]
        obtain rfl : token = s.lastToken + 1 := next
        cases begins with
        | true =>
          have opened := find?_opened owns.ordered m (s.lastToken + 1)
          rw [if_pos rfl] at opened
          simp [EchoCommand.socket?, opened]
        | false => 
          have still : find? ⟨s.lastToken + 1, s.connections⟩ (s.lastToken + 1) = none := closed
          simp [EchoCommand.socket?, still, EchoConnection.alone_none]
      | succ i =>
        have foreign : m ≠ n := fun same =>
          fresh (List.mem_map.mpr ⟨_, List.mem_of_getElem? arrives, same.symm⟩)
        have other : ∀ starts' m', e.arrival? = some (starts', m') → m' ≠ n := by
          intro starts' m' arrives'
          obtain ⟨-, rfl⟩ := Prod.mk.inj (Option.some.inj (here.symm.trans arrives'))
          exact foreign
        rw [owns.silent closed other]
        refine ih (owns.step fun starts' m' arrives' => ?_) (by omega) arrives distinct
        exact iff_of_false (other starts' m' arrives') (by omega)

/-- Every socket that arrives is read under the next token. -/
theorem opens_commands (s : Scheduler) (events : List EchoEvent) :
    (s.commands events).filterMap (·.opens?) =
      ((arrived events).map Prod.snd).zipIdx (s.lastToken + 1) := by
  induction events generalizing s with
  | nil => rfl
  | cons e events ih =>
    have here : (s.step e).2.filterMap (·.opens?) =
        (e.arrival?.toList.map Prod.snd).zipIdx (s.lastToken + 1) := by
      cases s.kind e with
      | closes =>
        refine List.filterMap_eq_nil_iff.mpr fun command asked => ?_
        obtain ⟨entry, -, about⟩ := List.mem_flatMap.mp asked
        simp only [List.mem_cons, List.not_mem_nil, or_false] at about
        rcases about with rfl | rfl <;> rfl
      | idles arrives stale same silent =>
        rw [arrives]
        exact List.filterMap_eq_nil_iff.mpr fun command asked => (silent command asked).2
      | @turns starts _ _ _ stream found =>
        rw [EchoEvent.arrival?_of_stream stream]
        refine List.filterMap_eq_nil_iff.mpr fun command asked => ?_
        rw [step_record, (handle_open starts stream found).1] at asked
        rcases EchoConnection.mem_turn stream asked with ⟨_, rfl⟩ | rfl | rfl | rfl <;> rfl
      | @arrives _ starts n arrives =>
        rw [step_of_arrival arrives, arrives, onConnection]
        cases starts <;> rfl
    rw [commands, List.filterMap_append, here, ih, arrived_cons, List.map_append,
      List.zipIdx_append, lastToken_step_eq, List.length_map]
    congr 2
    omega

end Scheduler

namespace Daemon

variable {home : Nat → Option Nat} {written : Nat → List (List UInt8)} {d : Daemon}

/-- A record that is handled names no token that is yet to be given. -/
theorem Sound.named (sound : d.Sound home written) {e : DaemonEvent} {event : EchoEvent}
    (handed : event ∈ d.hands e) {token : Nat} (names : event.names? token ≠ none) :
    token ≤ d.scheduler.lastToken := by
  refine Nat.le_of_not_lt fun later => ?_
  have homeless := sound.given token later
  cases e with
  | accepts | reads | writes => cases handed
  | closes =>
    rw [List.mem_singleton.mp handed] at names
    exact names rfl
  | handles =>
    rcases popped : d.world.take 0 with ⟨w, _ | record⟩
    · simp [hands, popped] at handed
    · simp only [hands, popped, List.mem_singleton] at handed
      subst handed
      have taken : (d.world.take 0).2 = some record := congrArg Prod.snd popped
      refine sound.bridge.housed.told _ (World.mem_waiting_of_take taken) token ?_ homeless
      by_contra other
      exact names (if_neg other)

/-- All records that name a token are delivered. -/
theorem Sound.delivers (sound : d.Sound home written) (events : List DaemonEvent) (token : Nat) :
    (delivered token d.scheduler.lastToken (d.handled events)).filterMap (·.record?) =
      (d.handled events).filterMap (·.names? token) := by
  induction events generalizing d home written with
  | nil => rfl
  | cons e events ih =>
    have rest := ih (sound.step e)
    have given : (d.step e).scheduler.lastToken =
        d.scheduler.lastToken + (arrived (d.hands e)).length := by
      rw [scheduler_step, Scheduler.lastToken_run]
    rw [handled, delivered_append, List.filterMap_append, List.filterMap_append, ← given, rest]
    rw [records_delivered fun event handed names => sound.named handed names]

/-- A daemon starts with nothing given. -/
theorem scheduler_launch {h : Host} {n : Network} {config : BridgeConfig}
    (launched : Daemon.launch h n config = .ok d) : d.scheduler = {} := by
  obtain ⟨size, near, rfl⟩ := launch_eq launched
  rfl

/-- No socket arrives twice. -/
theorem nodup_arrived {h : Host} {n : Network} {config : BridgeConfig}
    (launched : Daemon.launch h n config = .ok d) (events : List DaemonEvent) :
    ((arrived (d.handled events)).map Prod.snd).Nodup := by
  have sound := (Sound.launch launched).run_homes events
  have single := sound.bridge.housed.single
  rw [homesAfter, scheduler_launch launched] at single
  generalize (arrived (d.handled events)).map Prod.snd = sockets at single
  refine List.pairwise_iff_getElem.mpr fun i j hi hj apart same => ?_
  have home : ∀ k (bound : k < sockets.length),
      homes (fun _ => none) 0 sockets (k + 1) = some sockets[k] := fun k bound => by
    rw [homes, if_pos (Nat.succ_pos k)]
    exact List.getElem?_eq_getElem bound
  have equal := single (i + 1) (j + 1) _ (home i hi) (same ▸ home j hj)
  omega

end Daemon

/-- Connections are isolated. In any two runs with the same arrivals, of different sockets, to which
the same is delivered for a token, the same commands are given to the socket of this token, in the
same order, whatever else happens and whenever it does. Tokens are given in order from one on, each
once, and never the one of the accept loop. A record that names a token that is not open changes
nothing and asks for nothing. The runs of a daemon are such runs: no socket arrives twice, and all
records that name a token are delivered to its connection. -/
theorem connections_are_isolated :
    (∀ (events events' : List EchoEvent) (i : Nat) (starts : Bool) (n : Nat),
      arrived events = arrived events' → ((arrived events).map Prod.snd).Nodup →
      (arrived events)[i]? = some (starts, n) →
      delivered (i + 1) 0 events = delivered (i + 1) 0 events' →
      (Scheduler.commands {} events).filter (·.socket? = some n) =
        (Scheduler.commands {} events').filter (·.socket? = some n)) ∧
    (∀ events : List EchoEvent,
      let given := (Scheduler.commands {} events).filterMap (·.opens?)
      given = ((arrived events).map Prod.snd).zipIdx 1 ∧
        (given.map Prod.snd).Nodup ∧ acceptToken ∉ given.map Prod.snd) ∧
    (∀ (s : Scheduler) (starts : Bool) (r : Completion (List UInt8)) (token : Nat),
      r.stream? = some token → s.find? token = none → s.handle starts r = (s, [])) ∧
    ∀ (h : Host) (n : Network) (config : BridgeConfig) (d : Daemon) (events : List DaemonEvent),
      Daemon.launch h n config = .ok d →
      (d.run events).scheduler = Scheduler.run {} (d.handled events) ∧
      ((arrived (d.handled events)).map Prod.snd).Nodup ∧
      ∀ token, (delivered token 0 (d.handled events)).filterMap (·.record?) =
        (d.handled events).filterMap (·.names? token) := by
  refine ⟨fun events events' i starts n same distinct arrives share => ?_, fun events => ?_,
    fun s starts r token stream closed => Scheduler.handle_stale starts stream closed,
    fun h n config d events launched => ?_⟩
  · have own : Scheduler.Owns {} (i + 1) n := .empty
    have next : i + 1 = Scheduler.lastToken {} + i + 1 := by simp
    rw [own.commands next arrives distinct,
      own.commands next (same ▸ arrives) (same ▸ distinct)]
    exact share ▸ rfl
  · intro given
    have opens : given = _ := Scheduler.opens_commands {} events
    refine ⟨opens, ?_, ?_⟩
    · rw [opens, List.zipIdx_map_snd]
      exact List.nodup_range'
    · rw [opens, List.zipIdx_map_snd, List.mem_range'_1, acceptToken]
      omega
  · have first := Daemon.scheduler_launch launched
    refine ⟨first ▸ d.scheduler_run events, Daemon.nodup_arrived launched events, fun token => ?_⟩
    have delivers := (Daemon.Sound.launch launched).delivers events token
    rwa [first] at delivers

/-- Two clients, whose records come in turn. -/
def inTurn : List EchoEvent :=
  [.record true (.accept { schedulee := 0, connection := some 5 }),
    .record true (.accept { schedulee := 0, connection := some 7 }),
    .record false (.read { schedulee := 2, payload := some [9] }),
    .record false (.read { schedulee := 1, payload := some [1, 2] }),
    .record false (.write { schedulee := 2, error := some "reset" }),
    .record false (.write { schedulee := 1, bytesWritten := 1 })]

/-- The same first client, while the second one sends nothing. -/
def oneSilent : List EchoEvent :=
  [.record true (.accept { schedulee := 0, connection := some 5 }),
    .record false (.read { schedulee := 1, payload := some [1, 2] }),
    .record false (.write { schedulee := 1, bytesWritten := 1 }),
    .record true (.accept { schedulee := 0, connection := some 7 })]

theorem connections_are_isolated_in_turn :
    (arrived inTurn = arrived oneSilent ∧ ((arrived inTurn).map Prod.snd).Nodup ∧
      (arrived inTurn)[0]? = some (true, 5) ∧ delivered 1 0 inTurn = delivered 1 0 oneSilent) ∧
    (Scheduler.commands {} inTurn).filter (·.socket? = some 5) =
      (Scheduler.commands {} oneSilent).filter (·.socket? = some 5) ∧
    (Scheduler.commands {} inTurn).filter (·.socket? = some 5) =
      [.read 5 1, .write 5 [1, 2] 1, .write 5 [2] 1] := by
  have same : arrived inTurn = arrived oneSilent := rfl
  have distinct : ((arrived inTurn).map Prod.snd).Nodup := by decide
  have share : delivered 1 0 inTurn = delivered 1 0 oneSilent := rfl
  exact ⟨⟨same, distinct, rfl, share⟩,
    connections_are_isolated.1 inTurn oneSilent 0 true 5 same distinct rfl share, by decide⟩

end SocketBridge
