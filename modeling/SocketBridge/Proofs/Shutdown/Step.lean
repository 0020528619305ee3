import Mathlib.Data.List.Induction
import Mathlib.Data.List.Nodup
import SocketBridge.Shutdown

/-!
# What a listener finds

A listener that turns to the channel finds a trigger, or that the coordinator is gone, or nothing
yet. One lemma for each event says what all listeners find after it; to look or to wait changes
nothing of that.
-/

namespace SocketBridge

namespace Broadcast

/-- A receiver that has come to the end of a channel stays there. -/
theorem receive_of_end {b : Broadcast} {next : Nat} (ended : b.sent ≤ next) :
    b.receive next = (if b.closed then .closed else .empty, next) := by
  have oldest : b.oldest ≤ b.sent := Nat.sub_le ..
  rw [receive, if_neg (by omega), if_neg (by omega)]

/-- A channel is empty for a receiver that has come to its end, as long as there is a sender. -/
theorem receive_eq_empty_iff {b : Broadcast} {next : Nat} :
    (b.receive next).1 = .empty ↔ b.sent ≤ next ∧ b.closed = false := by
  by_cases ended : b.sent ≤ next
  · rw [receive_of_end ended]
    cases b.closed <;> simp [ended]
  · have more : (b.receive next).1 ≠ .empty := by
      unfold receive
      split
      · nofun
      · rw [if_pos (by omega)]
        nofun
    exact ⟨fun empty => absurd empty more, fun both => absurd both.1 ended⟩

/-- No receiver gets ahead of the sender. -/
theorem receive_le_sent {b : Broadcast} {next : Nat} (behind : next ≤ b.sent) :
    (b.receive next).2 ≤ b.sent := by
  have oldest : b.oldest ≤ b.sent := Nat.sub_le ..
  unfold receive
  split
  · exact oldest
  · split <;> omega

end Broadcast

namespace ShutdownListener

/-- What a listener finds that turns to the channel. -/
def sees (l : ShutdownListener) (b : Broadcast) : Bool :=
  l.fired || decide (l.next < b.sent) || b.closed

theorem look_eq (l : ShutdownListener) (b : Broadcast) :
    l.look b = ({ l with next := if l.fired then l.next else (b.receive l.next).2,
                         fired := l.sees b }, l.sees b) := by
  obtain ⟨id, next, fired⟩ := l
  cases fired with
  | true => rfl
  | false =>
    have found : ((b.receive next).1 != .empty) = sees ⟨id, next, false⟩ b := by
      rw [Bool.eq_iff_iff, bne_iff_ne, ne_eq, Broadcast.receive_eq_empty_iff, not_and_or,
        Nat.not_le, Bool.not_eq_false]
      simp [sees]
    simp only [look, found]
    rfl

/-- A poll finds what a look finds, and leaves the listener as a look does. -/
theorem poll_eq_look (l : ShutdownListener) (b : Broadcast) : l.poll b = l.look b := by
  obtain ⟨id, next, fired⟩ := l
  cases fired with
  | true => rfl
  | false =>
    simp only [poll, look]
    cases received : b.receive next with
    | mk found next' =>
      cases found with
      | empty =>
        have empty : (b.receive next).1 = .empty := congrArg Prod.fst received
        have ended := Broadcast.receive_of_end (Broadcast.receive_eq_empty_iff.mp empty).1
        obtain rfl : next' = next := congrArg Prod.snd (received.symm.trans ended)
        rfl
      | signal | lagged | closed => rfl

/-- To look changes nothing of what a listener finds. -/
theorem sees_look (l : ShutdownListener) (b : Broadcast) : (l.look b).1.sees b = l.sees b := by
  rw [look_eq]
  cases found : l.sees b with
  | true => rfl
  | false =>
    simp only [sees, Bool.or_eq_false_iff, decide_eq_false_iff_not, Nat.not_lt] at found
    obtain ⟨⟨unfired, ended⟩, «open»⟩ := found
    simp only [sees, unfired, Broadcast.receive_of_end ended, «open»]
    simpa using ended

/-- What becomes of a listener when the one with a number is asked. -/
def asked (l : ShutdownListener) (b : Broadcast) (id : Nat) : ShutdownListener :=
  if l.id = id then (l.look b).1 else l

theorem id_asked (l : ShutdownListener) (b : Broadcast) (id : Nat) : (l.asked b id).id = l.id := by
  unfold asked
  split
  · rw [look_eq]
  · rfl

theorem sees_asked (l : ShutdownListener) (b : Broadcast) (id : Nat) :
    (l.asked b id).sees b = l.sees b := by
  unfold asked
  split
  · exact l.sees_look b
  · rfl

theorem next_asked_le {l : ShutdownListener} {b : Broadcast} (behind : l.next ≤ b.sent)
    (id : Nat) : (l.asked b id).next ≤ b.sent := by
  unfold asked
  split
  · rw [look_eq]
    cases l.fired with
    | true => exact behind
    | false => exact Broadcast.receive_le_sent behind
  · exact behind

end ShutdownListener

namespace Shutdown

/-- What a listener finds that turns to the channel now; nothing if there is no such listener. -/
def sees? (s : Shutdown) (id : Nat) : Option Bool :=
  (s.listeners.find? (·.id == id)).map (·.sees s.channel)

theorem look_answer (s : Shutdown) (id : Nat) : (s.look id).2 = s.sees? id := by
  simp only [look, ask, sees?, ShutdownListener.look_eq]

theorem wait_eq_look (s : Shutdown) (id : Nat) : s.wait id = s.look id := by
  have same : ShutdownListener.poll = ShutdownListener.look :=
    funext fun l => funext (ShutdownListener.poll_eq_look l)
  rw [wait, look, same]

end Shutdown

/-- What is done with a coordinator and its listeners. Listeners are numbered in the order in which
they subscribe. -/
inductive ShutdownEvent
  | subscribe
  | trigger
  | look (listener : Nat)
  | wait (listener : Nat)
  | drop (listener : Nat)
  | dropCoordinator
deriving DecidableEq

namespace ShutdownEvent

/-- Whether an event is one that listeners wait for. -/
def fires : ShutdownEvent → Bool
  | trigger | dropCoordinator => true
  | _ => false

/-- Whether an event only asks a listener. -/
def asks : ShutdownEvent → Bool
  | look _ | wait _ => true
  | _ => false

end ShutdownEvent

namespace Shutdown

def step (s : Shutdown) : ShutdownEvent → Shutdown
  | .subscribe => s.subscribe.1
  | .trigger => s.trigger.1
  | .look id => (s.look id).1
  | .wait id => (s.wait id).1
  | .drop id => s.drop id
  | .dropCoordinator => s.dropCoordinator

/-- A coordinator and its listeners after a history. -/
def run (history : List ShutdownEvent) : Shutdown := history.foldl step {}

theorem run_concat (history : List ShutdownEvent) (e : ShutdownEvent) :
    run (history ++ [e]) = (run history).step e := by
  rw [run, List.foldl_append]
  rfl

/-- The channel counts the listeners, each of which has a number of its own and has come to no
signal that was not sent. -/
structure Sound (s : Shutdown) : Prop where
  receivers : s.channel.receivers = s.listeners.length
  ids : (s.listeners.map (·.id)).Nodup
  below : ∀ l ∈ s.listeners, l.id < s.subscribed
  behind : ∀ l ∈ s.listeners, l.next ≤ s.channel.sent

variable {s : Shutdown} {id : Nat}

theorem step_of_gone (gone : s.channel.closed = true) :
    s.step .subscribe = s ∧ s.step .trigger = s := by
  simp [step, subscribe, trigger, alive, gone]

theorem step_subscribe (here : s.channel.closed = false) :
    s.step .subscribe =
      { channel := s.channel.subscribe.1, subscribed := s.subscribed + 1,
        listeners := s.listeners ++ [⟨s.subscribed, s.channel.sent, false⟩] } := by
  simp only [step, subscribe, alive, here, Bool.not_false, if_true]
  rfl

theorem step_trigger (here : s.channel.closed = false) (heard : s.channel.receivers ≠ 0) :
    s.step .trigger = { s with channel := { s.channel with sent := s.channel.sent + 1 } } := by
  simp [step, trigger, alive, here, Broadcast.send, heard]

/-- A trigger that nobody hears is not sent. -/
theorem step_trigger_unheard (unheard : s.channel.receivers = 0) : s.step .trigger = s := by
  cases here : s.channel.closed with
  | true => exact (step_of_gone here).2
  | false => simp [step, trigger, alive, here, Broadcast.send, unheard]

theorem step_wait : s.step (.wait id) = s.step (.look id) := by
  rw [step, step, wait_eq_look]

theorem step_drop (member : id ∈ s.listeners.map (·.id)) :
    s.step (.drop id) =
      { s with channel := s.channel.leave, listeners := s.listeners.filter (·.id != id) } := by
  obtain ⟨l, inside, rfl⟩ := List.mem_map.mp member
  have there : s.listeners.any (·.id == l.id) = true :=
    List.any_eq_true.mpr ⟨l, inside, beq_iff_eq.mpr rfl⟩
  exact if_pos there

theorem step_drop_missing (missing : id ∉ s.listeners.map (·.id)) : s.step (.drop id) = s := by
  refine if_neg fun there => missing ?_
  obtain ⟨l, inside, same⟩ := List.any_eq_true.mp there
  exact List.mem_map.mpr ⟨l, inside, beq_iff_eq.mp same⟩

theorem closed_step (e : ShutdownEvent) :
    (s.step e).channel.closed = (s.channel.closed || decide (e = .dropCoordinator)) := by
  cases e with
  | subscribe =>
    cases here : s.channel.closed with
    | true => simp [(step_of_gone here).1, here]
    | false => simp [step_subscribe here, Broadcast.subscribe, here]
  | trigger =>
    cases here : s.channel.closed with
    | true => simp [(step_of_gone here).2, here]
    | false =>
      by_cases heard : s.channel.receivers = 0
      · simp [step_trigger_unheard heard, here]
      · simp [step_trigger here heard, here]
  | look | wait => simp [step, look, wait, ask]
  | drop id =>
    by_cases member : id ∈ s.listeners.map (·.id)
    · simp [step_drop member, Broadcast.leave]
    · simp [step_drop_missing member]
  | dropCoordinator => simp [step, dropCoordinator, Broadcast.close]

theorem subscribed_step (e : ShutdownEvent) :
    (s.step e).subscribed =
      s.subscribed + if e = .subscribe ∧ s.channel.closed = false then 1 else 0 := by
  cases e with
  | subscribe =>
    cases here : s.channel.closed with
    | true => simp [(step_of_gone here).1]
    | false => simp [step_subscribe here]
  | trigger => simp [step, trigger, apply_ite]
  | look | wait => simp [step, look, wait, ask]
  | drop id => simp [step, drop, apply_ite]
  | dropCoordinator => simp [step, dropCoordinator]

theorem trigger_answer (s : Shutdown) :
    s.trigger.2 = if s.channel.closed then none else some s.channel.receivers := by
  cases here : s.channel.closed with
  | true => simp [trigger, alive, here]
  | false =>
    by_cases heard : s.channel.receivers = 0
    · simp [trigger, alive, here, Broadcast.send, heard]
    · simp [trigger, alive, here, Broadcast.send, heard]

theorem listeners_look :
    (s.step (.look id)).listeners = s.listeners.map (·.asked s.channel id) := rfl

namespace Sound

/-- The number of the next listener is not given yet. -/
theorem fresh (sound : s.Sound) : s.subscribed ∉ s.listeners.map (·.id) := by
  intro member
  obtain ⟨l, inside, same⟩ := List.mem_map.mp member
  exact absurd (sound.below l inside) (by omega)

theorem subscribe (sound : s.Sound) : (s.step .subscribe).Sound := by
  cases here : s.channel.closed with
  | true => rwa [(step_of_gone here).1]
  | false =>
    rw [step_subscribe here]
    refine ⟨?_, ?_, fun l member => ?_, fun l member => ?_⟩
    · rw [List.length_append, ← sound.receivers]
      rfl
    · rw [List.map_append, List.map_singleton, ← List.concat_eq_append]
      exact List.Nodup.concat sound.fresh sound.ids
    · rcases List.mem_append.mp member with old | new
      · exact Nat.lt_succ_of_lt (sound.below l old)
      · rw [List.mem_singleton.mp new]
        exact Nat.lt_succ_self _
    · rcases List.mem_append.mp member with old | new
      · exact sound.behind l old
      · rw [List.mem_singleton.mp new]
        exact Nat.le_refl _

theorem trigger (sound : s.Sound) : (s.step .trigger).Sound := by
  cases here : s.channel.closed with
  | true => rwa [(step_of_gone here).2]
  | false =>
    by_cases heard : s.channel.receivers = 0
    · rwa [step_trigger_unheard heard]
    · rw [step_trigger here heard]
      exact ⟨sound.receivers, sound.ids, sound.below,
        fun l member => Nat.le_succ_of_le (sound.behind l member)⟩

theorem look (sound : s.Sound) : (s.step (.look id)).Sound := by
  refine ⟨?_, ?_, fun l member => ?_, fun l member => ?_⟩
  · rw [listeners_look, List.length_map]
    exact sound.receivers
  · rw [listeners_look, List.map_map]
    simp only [Function.comp_def, ShutdownListener.id_asked]
    exact sound.ids
  · rw [listeners_look] at member
    obtain ⟨before, inside, rfl⟩ := List.mem_map.mp member
    rw [ShutdownListener.id_asked]
    exact sound.below before inside
  · obtain ⟨before, inside, rfl⟩ := List.mem_map.mp member
    exact ShutdownListener.next_asked_le (sound.behind before inside) id

theorem drop (sound : s.Sound) : (s.step (.drop id)).Sound := by
  by_cases member : id ∈ s.listeners.map (·.id)
  · rw [step_drop member]
    have one : s.listeners.countP (·.id == id) = 1 := by
      have once := List.count_eq_one_of_mem sound.ids member
      rwa [List.count, List.countP_map] at once
    have parted := List.length_eq_countP_add_countP (·.id == id) (l := s.listeners)
    have rest : (s.listeners.filter (·.id != id)).length = s.listeners.length - 1 := by
      rw [parted, one, Nat.add_sub_cancel_left, ← List.countP_eq_length_filter]
      exact List.countP_congr fun l _ => by simp
    refine ⟨?_, ?_, fun l kept => sound.below l (List.mem_of_mem_filter kept),
      fun l kept => sound.behind l (List.mem_of_mem_filter kept)⟩
    · rw [rest, ← sound.receivers]
      rfl
    · exact (List.filter_sublist.map _).nodup sound.ids
  · rwa [step_drop_missing member]

theorem dropCoordinator (sound : s.Sound) : (s.step .dropCoordinator).Sound :=
  ⟨sound.receivers, sound.ids, sound.below, sound.behind⟩

theorem step (sound : s.Sound) (e : ShutdownEvent) : (s.step e).Sound := by
  cases e with
  | subscribe => exact sound.subscribe
  | trigger => exact sound.trigger
  | look id => exact sound.look
  | wait id =>
    rw [step_wait]
    exact sound.look
  | drop id => exact sound.drop
  | dropCoordinator => exact sound.dropCoordinator

theorem run (history : List ShutdownEvent) : (Shutdown.run history).Sound := by
  induction history using List.reverseRecOn with
  | nil => exact ⟨rfl, List.nodup_nil, nofun, nofun⟩
  | append_singleton history e ih =>
    rw [run_concat]
    exact ih.step e

end Sound

theorem sees?_eq_none_iff : s.sees? id = none ↔ id ∉ s.listeners.map (·.id) := by
  rw [sees?, Option.map_eq_none_iff, List.find?_eq_none, List.mem_map]
  simp only [beq_iff_eq, not_exists, not_and]

/-- Once the coordinator is gone every listener finds that it is. -/
theorem sees?_of_gone (gone : s.channel.closed = true) :
    s.sees? id = (s.sees? id).map fun _ => true := by
  simp only [sees?, ShutdownListener.sees, gone, Bool.or_true, Option.map_map, Function.comp_def]

/-- Whoever turns to the channel leaves what every listener finds, itself included. -/
theorem sees?_look (asked : Nat) : (s.step (.look asked)).sees? id = s.sees? id := by
  calc (s.step (.look asked)).sees? id
      = ((s.listeners.map (·.asked s.channel asked)).find? (·.id == id)).map
          (·.sees s.channel) := rfl
    _ = (s.listeners.find? (·.id == id)).map
          fun l => (l.asked s.channel asked).sees s.channel := by
        rw [List.find?_map, Option.map_map]
        simp only [Function.comp_def, ShutdownListener.id_asked]
    _ = s.sees? id := by simp only [ShutdownListener.sees_asked, sees?]

theorem sees?_step_of_asks {e : ShutdownEvent} (asks : e.asks = true) :
    (s.step e).sees? id = s.sees? id := by
  cases e with
  | look asked => exact sees?_look asked
  | wait asked =>
    rw [step_wait]
    exact sees?_look asked
  | subscribe | trigger | drop | dropCoordinator => cases asks

theorem sees?_drop (dropped : Nat) :
    (s.step (.drop dropped)).sees? id = if id = dropped then none else s.sees? id := by
  by_cases member : dropped ∈ s.listeners.map (·.id)
  · have kept : (s.step (.drop dropped)).sees? id =
        ((s.listeners.filter (·.id != dropped)).find? (·.id == id)).map (·.sees s.channel) := by
      rw [step_drop member]
      rfl
    rw [kept]
    split
    · rename_i same
      subst same
      have gone : (s.listeners.filter (·.id != id)).find? (·.id == id) = none := by
        rw [List.find?_eq_none]
        intro l member
        simpa using (List.mem_filter.mp member).2
      rw [gone, Option.map_none]
    · rename_i other
      have same : (fun l : ShutdownListener =>
          decide ((l.id != dropped) = true ∧ (l.id == id) = true)) = (·.id == id) := by
        funext l
        by_cases own : l.id = id <;> simp [own, other]
      rw [List.find?_filter, same, sees?]
  · rw [step_drop_missing member]
    split
    · rename_i same
      rw [same, sees?_eq_none_iff]
      exact member
    · rfl

namespace Sound

/-- A new listener has not fired. -/
theorem sees?_subscribe (sound : s.Sound) (here : s.channel.closed = false) :
    (s.step .subscribe).sees? id = if id = s.subscribed then some false else s.sees? id := by
  let new : ShutdownListener := ⟨s.subscribed, s.channel.sent, false⟩
  have joined : (s.step .subscribe).sees? id =
      ((s.listeners ++ [new]).find? (·.id == id)).map (·.sees s.channel) := by
    rw [step_subscribe here]
    rfl
  rw [joined, List.find?_append]
  split
  · rename_i same
    subst same
    have none : s.listeners.find? (·.id == s.subscribed) = none :=
      Option.map_eq_none_iff.mp (sees?_eq_none_iff.mpr sound.fresh)
    simp [none, new, ShutdownListener.sees, here]
  · rename_i other
    have absent : (s.subscribed == id) = false := beq_false_of_ne (Ne.symm other)
    simp [absent, new, sees?]

/-- A trigger is there for every listener. -/
theorem sees?_trigger (sound : s.Sound) :
    (s.step .trigger).sees? id = (s.sees? id).map fun _ => true := by
  cases here : s.channel.closed with
  | true =>
    rw [(step_of_gone here).2]
    exact sees?_of_gone here
  | false =>
    by_cases heard : s.channel.receivers = 0
    · rw [step_trigger_unheard heard]
      rw [sound.receivers, List.length_eq_zero_iff] at heard
      simp only [sees?, heard, List.find?_nil, Option.map_none]
    · rw [step_trigger here heard, sees?, sees?, Option.map_map]
      refine Option.map_congr fun l found => ?_
      have behind := sound.behind l (List.mem_of_find?_eq_some found)
      simp [ShutdownListener.sees, Nat.lt_succ_of_le behind]

/-- What a listener finds after an event: a new one nothing yet, all of them a trigger or that the
coordinator is gone, and one that was dropped is there no more. -/
theorem sees?_step (sound : s.Sound) (e : ShutdownEvent) (id : Nat) :
    (s.step e).sees? id = match e with
      | .subscribe =>
        if s.channel.closed = false ∧ id = s.subscribed then some false else s.sees? id
      | .trigger | .dropCoordinator => (s.sees? id).map fun _ => true
      | .drop dropped => if id = dropped then none else s.sees? id
      | .look _ | .wait _ => s.sees? id := by
  cases e with
  | subscribe =>
    cases here : s.channel.closed with
    | true => simp [(step_of_gone here).1]
    | false => simp [sound.sees?_subscribe here]
  | trigger => exact sound.sees?_trigger
  | look | wait => exact sees?_step_of_asks rfl
  | drop dropped => exact sees?_drop dropped
  | dropCoordinator =>
    have gone : (s.step .dropCoordinator).channel.closed = true := rfl
    rw [sees?_of_gone gone, sees?, sees?, Option.map_map, Option.map_map]
    rfl

end Sound

/-- A listener that is there after an event has just subscribed, or was there before. -/
theorem Sound.sees?_step_eq_some (sound : s.Sound) {e : ShutdownEvent} {found : Bool} :
    (s.step e).sees? id = some found ↔
      (e = .subscribe ∧ s.channel.closed = false ∧ id = s.subscribed ∧ found = false) ∨
      ∃ before, s.sees? id = some before ∧ found = (before || e.fires) ∧ e ≠ .drop id := by
  have fresh : s.sees? s.subscribed = none := sees?_eq_none_iff.mpr sound.fresh
  rw [sound.sees?_step]
  cases e with
  | subscribe =>
    by_cases new : s.channel.closed = false ∧ id = s.subscribed
    · obtain ⟨here, rfl⟩ := new
      simp [here, fresh, @eq_comm Bool false]
    · rw [if_neg new]
      constructor
      · exact fun there => Or.inr ⟨found, there, (Bool.or_false found).symm, nofun⟩
      · rintro (⟨-, here, same, -⟩ | ⟨before, there, rfl, -⟩)
        · exact absurd ⟨here, same⟩ new
        · exact there.trans (congrArg some (Bool.or_false before).symm)
  | trigger | dropCoordinator =>
    cases s.sees? id <;> simp [ShutdownEvent.fires, @eq_comm Bool true]
  | look | wait => simp [ShutdownEvent.fires]
  | drop dropped =>
    by_cases own : id = dropped
    · simp [own]
    · simp [own, Ne.symm own, ShutdownEvent.fires]

/-- As many listeners are reached as are there. -/
theorem Sound.receivers_eq (sound : s.Sound) :
    s.channel.receivers = (s.listeners.map (·.id)).length := by
  rw [List.length_map, sound.receivers]

end Shutdown

end SocketBridge
