import SocketBridge.Proofs.Bridge.Held
import SocketBridge.Proofs.Bridge.Silence
import SocketBridge.Proofs.Echo.Run
import SocketBridge.Proofs.Stream.Writer

/-!
# Tokens and their sockets

A token belongs to one socket for good: only the tasks of this socket push records for it. A socket
that a waiting record names has no token yet, and nothing was asked of it.
-/

namespace SocketBridge

variable {α : Type} {home : Nat → Option Nat}

/-- A connected socket of which nothing was asked. -/
structure Socket.Fresh (s : Socket α) : Prop where
  live : s.cancelled = false
  readable : s.readable = true
  unread : s.reading = none
  line : s.writer.commands = []
  running : s.writer.running = true

/-- Whether a step keeps to the sockets of the tokens it names, and does nothing to sockets that
have none. -/
def Step.Within (home : Nat → Option Nat) : Step α → Prop
  | .take _ | .dropListener _ | .pollAccept _ _ _ => True
  | .pollRead _ answer => answer.cancels = false
  | .pollWrite _ answer => answer.cancels = false
  | .read n _ task | .write n _ task => home task.schedulee = some n
  | .shutdownWrite n | .cancelSocket n | .dropSocket n => ∃ token, home token = some n
  | _ => False

namespace World

/-- Every token is at home on one socket. -/
structure Housed (home : Nat → Option Nat) (w : World α) : Prop where
  bound : ∀ token n, home token = some n → n < w.sockets.length
  single : ∀ token other n, home token = some n → home other = some n → token = other
  reading : ∀ n s r, w.sockets[n]? = some s → s.reading = some r →
    home r.task.schedulee = some n
  writing : ∀ n s data task, w.sockets[n]? = some s → .write data task ∈ s.writer.commands →
    home task.schedulee = some n
  told : ∀ r ∈ w.queues.waiting, ∀ token, r.2.stream? = some token → home token ≠ none
  fresh : ∀ r ∈ w.queues.waiting, ∀ n, r.2.connection = some n →
    (∃ s, w.sockets[n]? = some s ∧ s.Fresh) ∧ ∀ token, home token ≠ some n
  named : (w.queues.waiting.filterMap (·.2.connection)).Nodup

end World

/-- A read and its records keep the schedulee. -/
theorem ReadLoop.schedulee_turn (r : ReadLoop α) (cancelled : Bool)
    (answer : Poll (List UInt8) String) :
    (∀ next, (r.turn cancelled answer).next = some next →
      next.task.schedulee = r.task.schedulee) ∧
    ∀ q, (r.turn cancelled answer).record = some q → q.schedulee = r.task.schedulee := by
  have turns := r.turn_does cancelled answer
  generalize r.turn cancelled answer = turn at turns
  cases turns with
  | waits => exact ⟨fun _ same => by cases same; rfl, nofun⟩
  | stops => exact ⟨nofun, nofun⟩
  | closes record last =>
    refine ⟨nofun, fun q same => ?_⟩
    cases same
    rcases last with rfl | ⟨text, rfl⟩ <;> rfl
  | receives bytes came nonempty turn outcome =>
    cases outcome with
    | rejects | overflows => exact ⟨nofun, fun q same => by cases same; rfl⟩
    | keeps => exact ⟨fun _ same => by cases same; rfl, nofun⟩
    | moves =>
      exact ⟨fun _ same => by cases same; rfl, fun q same => by cases same; rfl⟩

/-- What is left in line was in line, and a record is that of a write in line. -/
theorem Writer.commands_turn (w : Writer) (cancelled unreachable : Bool) {answer : Poll Nat String}
    (live : answer.cancels = false) :
    (w.turn cancelled unreachable answer).next.commands ⊆ w.commands ∧
    ∀ task q, (w.turn cancelled unreachable answer).record = some (task, q) →
      ∃ data owner, .write data owner ∈ w.commands ∧ q.schedulee = owner.schedulee := by
  cases cancelled with
  | true => exact ⟨by simp [Writer.stop], nofun⟩
  | false =>
    have turns := w.turn_does unreachable live
    generalize w.turn false unreachable answer = turn at turns
    cases turns with
    | idles line =>
      refine ⟨?_, nofun⟩
      split
      · exact List.nil_subset _
      · exact fun _ member => member
    | waits => exact ⟨fun _ member => member, nofun⟩
    | performs p rest line ready record told =>
      refine ⟨line ▸ List.subset_cons_self .., fun task q same => ?_⟩
      subst same
      obtain ⟨⟨data, owner⟩ | _, _ | _⟩ := p
      · exact ⟨data, owner, line ▸ List.mem_cons_self,
          congrArg (·.2.schedulee) (Option.some.inj told)⟩
      · exact ⟨data, owner, line ▸ List.mem_cons_self,
          congrArg (·.2.schedulee) (Option.some.inj told)⟩
      · cases told
      · cases told

namespace World

variable {w : World α} {e : Step α} {n : Nat} {s s' : Socket α}

/-- A record for a token comes from a step on its socket. -/
theorem Housed.socket_of_tells (housed : w.Housed home) (within : e.Within home)
    {r : Nat × Completion α} (tells : w.Tells e r) {token : Nat}
    (stream : r.2.stream? = some token) : ∃ n, e.socket? = some n ∧ home token = some n := by
  cases tells with
  | accepts | acceptTurn | connectTurn => cases stream
  | @readTurn n s r _ record found reading turned =>
    refine ⟨n, rfl, ?_⟩
    cases stream
    rw [(r.schedulee_turn _ _).2 record turned]
    exact housed.reading n s r found reading
  | @writeTurn n s _ task record found running turned =>
    refine ⟨n, rfl, ?_⟩
    cases stream
    obtain ⟨data, owner, waits, same⟩ := (s.writer.commands_turn _ _ within).2 task record turned
    rw [same]
    exact housed.writing n s data owner found waits
  | @refused n s data task =>
    cases stream
    exact ⟨n, rfl, within⟩

/-- A socket that a waiting record names is left as it is, but for the handles onto it. -/
theorem fresh_of_moves (fresh : s.Fresh) (waits : w.socketHandles n ≠ 0)
    (unhoused : ∀ token, home token ≠ some n) (within : e.Within home)
    (moves : w.Moves n s e s') : s'.Fresh := by
  obtain ⟨live, readable, unread, line, running⟩ := fresh
  cases moves with
  | apart => exact ⟨live, readable, unread, line, running⟩
  | ignores => exact ⟨live, readable, unread, line, running⟩
  | reads decoder task => exact absurd within (unhoused _)
  | writes data task => exact absurd within (unhoused _)
  | shuts | cancels =>
    obtain ⟨token, homed⟩ := within
    exact absurd homed (unhoused token)
  | readTurn r reading => exact nomatch unread.symm.trans reading
  | writeTurn _ answer =>
    have keeps : answer.cancels = false := within
    have turned : (s.writer.turn s.cancelled (w.socketHandles n == 0) answer).next = s.writer := by
      rw [live, Writer.turn, line, if_neg Bool.false_ne_true, if_neg (by simpa using waits)]
    rw [turned, keeps]
    exact ⟨live, readable, unread, line, running⟩

theorem handles_of_waiting {r : Nat × Completion α} (waits : r ∈ w.queues.waiting)
    (names : r.2.connection = some n) : w.socketHandles n ≠ 0 := by
  have counted : 0 < w.queues.waiting.countP fun r => r.2.connection == some n :=
    List.countP_pos_iff.mpr ⟨r, waits, by simp [names]⟩
  unfold socketHandles
  omega

/-- No two waiting records name one socket. -/
theorem Housed.named_step (housed : w.Housed home) :
    ((w.step e).queues.waiting.filterMap (·.2.connection)).Nodup := by
  by_cases taken : ∃ queue, e = .take queue
  · obtain ⟨queue, rfl⟩ := taken
    rw [step]
    rcases w.queues_take queue with queues | ⟨_, same⟩
    · rw [queues]
      exact housed.named.sublist ((List.eraseP_sublist).filterMap _)
    · rw [same]
      exact housed.named
  · rw [queues_step fun queue he => taken ⟨queue, he⟩, Queues.append, List.filterMap_append]
    rcases w.pushes_cases e with silent | ⟨r, one, tells⟩
    · rw [silent, List.filterMap_nil, List.append_nil]
      exact housed.named
    · rw [one]
      cases names : r.2.connection with
      | none => simpa [names] using housed.named
      | some m =>
        obtain ⟨rfl, -⟩ := opens_of_pushes (one ▸ List.mem_singleton_self r) names
        refine List.nodup_append.mpr ⟨housed.named, by simp [names], fun a old b new same => ?_⟩
        obtain ⟨q, waits, named⟩ := List.mem_filterMap.mp old
        obtain ⟨⟨s, found, -⟩, -⟩ := housed.fresh q waits a named
        have bound := (List.getElem?_eq_some_iff.mp found).1
        simp only [List.filterMap_cons, names, List.filterMap_nil, List.mem_singleton] at new
        omega

theorem Housed.step (housed : w.Housed home) (within : e.Within home) :
    (w.step e).Housed home := by
  refine ⟨?_, housed.single, ?_, ?_, ?_, ?_, housed.named_step⟩
  · intro token n homed
    have bound := housed.bound token n homed
    rcases w.opens_step e with same | ⟨guard, link, grown⟩
    · omega
    · rw [grown, List.length_append]
      omega
  · intro n s' r found' reading'
    obtain ⟨s, found, moves⟩ | ⟨-, guard, link, rfl⟩ := moves_or_opens found'
    · cases moves with
      | apart | ignores | writes | shuts | cancels => exact housed.reading n _ r found reading'
      | reads decoder task =>
        cases reading'
        exact within
      | readTurn r' reading answer =>
        have keeps : answer.cancels = false := within
        rw [keeps] at reading'
        rw [(r'.schedulee_turn s.cancelled answer).1 r reading']
        exact housed.reading n s r' found reading
      | writeTurn running answer =>
        have keeps : answer.cancels = false := within
        rw [keeps] at reading'
        exact housed.reading n s r found reading'
    · cases reading'
  · intro n s' data task found' waits
    obtain ⟨s, found, moves⟩ | ⟨-, guard, link, rfl⟩ := moves_or_opens found'
    · cases moves with
      | apart | ignores | reads | cancels => exact housed.writing n _ data task found waits
      | writes data' task' =>
        rcases List.mem_append.mp waits with waits | new
        · exact housed.writing n s data task found waits
        · cases List.mem_singleton.mp new
          exact within
      | shuts =>
        rcases List.mem_append.mp waits with waits | new
        · exact housed.writing n s data task found waits
        · cases List.mem_singleton.mp new
      | readTurn r reading answer =>
        have keeps : answer.cancels = false := within
        rw [keeps] at waits
        exact housed.writing n s data task found waits
      | writeTurn running answer =>
        have keeps : answer.cancels = false := within
        rw [keeps] at waits
        exact housed.writing n s data task found ((s.writer.commands_turn _ _ keeps).1 waits)
    · cases waits
  · intro r waits token stream
    rcases mem_waiting_step waits with waits | pushed
    · exact housed.told r waits token stream
    · obtain ⟨n, -, homed⟩ := housed.socket_of_tells within (tells_of_pushes pushed) stream
      rw [homed]
      exact nofun
  · intro r waits n names
    rcases mem_waiting_step waits with waits | pushed
    · obtain ⟨⟨s, found, fresh⟩, unhoused⟩ := housed.fresh r waits n names
      obtain ⟨s', found', moves⟩ := moves_step found e
      exact ⟨⟨s', found', fresh_of_moves fresh (handles_of_waiting waits names) unhoused within
        moves⟩, unhoused⟩
    · obtain ⟨rfl, guard, link, grown⟩ := opens_of_pushes pushed names
      refine ⟨⟨{ guard := guard, link }, by simp [grown], rfl, rfl, rfl, rfl, rfl⟩,
        fun token homed => ?_⟩
      exact absurd (housed.bound token _ homed) (Nat.lt_irrefl _)

theorem Housed.run (housed : w.Housed home) {steps : List (Step α)}
    (within : ∀ e ∈ steps, e.Within home) : (w.run steps).Housed home := by
  induction steps generalizing w with
  | nil => exact housed
  | cons e steps ih =>
    exact ih (housed.step (within e List.mem_cons_self)) fun e member =>
      within e (List.mem_cons_of_mem _ member)

/-- A new token is given to a socket that has none and that no record names any more. -/
theorem Housed.give (housed : w.Housed home) {token : Nat} (free : home token = none)
    (bound : n < w.sockets.length) (unhoused : ∀ other, home other ≠ some n)
    (unnamed : ∀ r ∈ w.queues.waiting, r.2.connection ≠ some n) :
    w.Housed fun other => if other = token then some n else home other := by
  have kept {other m : Nat} (homed : home other = some m) :
      (if other = token then some n else home other) = some m := by
    rw [if_neg, homed]
    rintro rfl
    exact nomatch free.symm.trans homed
  have given {other m : Nat} (homed : (if other = token then some n else home other) = some m) :
      other = token ∧ m = n ∨ home other = some m := by
    split at homed
    · exact .inl ⟨‹_›, (Option.some.inj homed).symm⟩
    · exact .inr homed
  refine ⟨fun other m homed => ?_, fun one other m homed homed' => ?_, ?_, ?_, ?_, ?_,
    housed.named⟩
  · rcases given homed with ⟨-, rfl⟩ | homed
    · exact bound
    · exact housed.bound other m homed
  · rcases given homed with ⟨rfl, rfl⟩ | old
    · rcases given homed' with ⟨rfl, -⟩ | old'
      · rfl
      · exact absurd old' (unhoused other)
    · rcases given homed' with ⟨-, rfl⟩ | old'
      · exact absurd old (unhoused one)
      · exact housed.single one other m old old'
  · exact fun m s r found reading => kept (housed.reading m s r found reading)
  · exact fun m s data task found waits => kept (housed.writing m s data task found waits)
  · intro r waits other stream
    split
    · exact nofun
    · exact housed.told r waits other stream
  · intro r waits m names
    obtain ⟨fresh, unhoused'⟩ := housed.fresh r waits m names
    refine ⟨fresh, fun other homed => ?_⟩
    rcases given homed with ⟨-, rfl⟩ | homed
    · exact unnamed r waits names
    · exact unhoused' other homed

/-- The record that is taken was the only one to name its socket. -/
theorem Housed.unnamed_of_take (housed : w.Housed home) {queue : Nat} {c : Completion α}
    (taken : (w.take queue).2 = some c) (names : c.connection = some n) :
    ∀ r ∈ (w.take queue).1.queues.waiting, r.2.connection ≠ some n := by
  have head := head_of_take taken
  rcases w.queues_take queue with queues | ⟨empty, -⟩
  · obtain ⟨a, before, after, others, own, split, rest⟩ :=
      List.exists_of_eraseP (p := fun r : Nat × Completion α => r.1 == queue)
        (mem_waiting_of_take taken) (beq_self_eq_true queue)
    have first : a.2 = c := by
      have skipped : before.filter (fun r => r.1 == queue) = [] :=
        List.filter_eq_nil_iff.mpr others
      have kept : (a :: after).filter (fun r => r.1 == queue) =
          a :: after.filter (fun r => r.1 == queue) := List.filter_cons_of_pos own
      rw [Queues.contents, split, List.filter_append, skipped, List.nil_append, kept] at head
      exact Option.some.inj head
    have named := housed.named
    rw [split] at named
    rw [queues, rest]
    intro r waits same
    have front : (before ++ a :: after).Perm (a :: (before ++ after)) := List.perm_middle
    have twice := (front.filterMap fun r => r.2.connection).nodup_iff.mp named
    have naming : a.2.connection = some n := first ▸ names
    simp only [List.filterMap_cons, naming] at twice
    exact (List.nodup_cons.mp twice).1 (List.mem_filterMap.mpr ⟨r, waits, same⟩)
  · rw [empty] at head
    cases head

/-- The program holds the socket that a record names once it has taken the record. -/
theorem held_of_take {queue : Nat} {c : Completion α} (taken : (w.take queue).2 = some c)
    (names : c.connection = some n) (found : w.sockets[n]? = some s) :
    (w.take queue).1.sockets[n]? = some { s with held := s.held + 1 } := by
  rcases popped : w.queues.pop? queue with ⟨_ | record, queues⟩
  · simp [take, popped] at taken
  · simp only [take, popped, Option.some.injEq] at taken
    subst taken
    cases listener : record.listener <;> simp [take, popped, names, listener, found]

end World

end SocketBridge
