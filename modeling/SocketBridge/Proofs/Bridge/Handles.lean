import Mathlib.Data.Finset.Image
import Mathlib.Logic.Function.Basic
import SocketBridge.Proofs.Bridge.Objects
import SocketBridge.Proofs.Bridge.Held
import SocketBridge.Proofs.Cancel
import SocketBridge.Proofs.Metrics

/-!
# Handle accounting

A socket or listener is alive while there is a handle onto it: one that the program holds or one in
a record that waits. A bridge does not look for what is alive. It counts one up when it opens an
object and one down when the last handle onto one is given up, and shows the same on a gauge that
all bridges share. What a step may do to the counts is said here once for all steps.
-/

namespace SocketBridge

variable {α : Type}

/-- An accept loop opens only what the host hands over. -/
theorem ready_of_acceptTurn {cancelled : Bool} {answer : Poll (Except String Link) String}
    {link : Link} (turned : (acceptTurn cancelled answer).result = some (.ok link)) :
    answer.ready = some (.ok (.ok link)) := by
  unfold acceptTurn at turned
  split at turned
  · cases turned
  · cases turned
  · cases turned
  · cases turned
  · rename_i came
    cases turned
    exact ready_of_succeeded came

/-- So does a connect. -/
theorem Connect.ready_of_turn {c : Connect} {cancelled : Bool} {answer : ConnectAnswer}
    {link : Link} (turned : (c.turn cancelled answer).result = some (.ok link)) :
    ∃ poll, answer = .attempted poll ∧ poll.ready = some (.ok (.ok link)) := by
  cases cancelled with
  | true => cases turned
  | false =>
    unfold turn at turned
    rw [if_neg Bool.false_ne_true] at turned
    split at turned
    · cases turned
    · cases turned
    · cases turned
    · split at turned
      · cases turned
      · cases turned
      · rename_i came
        cases turned
        exact ⟨_, rfl, ready_of_succeeded came⟩
      · split at turned <;> cases turned
    · cases turned

/-- Whether the host gives a step something to open: an address that is bound and listens, or a
stream whose ends it tells. -/
def Step.Brings : Step α → Prop
  | .listen _ _ backlog answer => backlog ≠ 0 ∧ answer.isOk
  | .pollConnect _ (.attempted poll) => ∃ link, poll.ready = some (.ok (.ok link))
  | .pollAccept _ _ poll => ∃ link, poll.ready = some (.ok (.ok link))
  | _ => False

/-- Whether a step gives up a handle. -/
def Step.Drops : Step α → Prop
  | .dropSocket _ | .dropListener _ => True
  | _ => False

/-- Whether a record holds a handle onto an object. -/
def Completion.holds (c : Completion α) : Owner → Bool
  | .socket n => c.connection == some n
  | .listener l => c.listener == some l
  | .connect _ => false

/-- The steps that give up the handles in a record. -/
def Completion.releases (c : Completion α) : List (Step α) :=
  (c.connection.map Step.dropSocket).toList ++ (c.listener.map Step.dropListener).toList

namespace World

variable (w : World α)

/-- The guard of a socket or listener. -/
def guard? : Owner → Option Guard
  | .socket n => (w.sockets[n]?).map Socket.guard
  | .listener l => (w.listeners[l]?).map Listener.guard
  | .connect _ => none

/-- How many handles onto an object the program holds. -/
def held : Owner → Nat
  | .socket n => ((w.sockets[n]?).map Socket.held).getD 0
  | .listener l => ((w.listeners[l]?).map Listener.held).getD 0
  | .connect _ => 0

/-- How many handles onto an object there are. -/
def handlesOf : Owner → Nat
  | .socket n => w.socketHandles n
  | .listener l => w.listenerHandles l
  | .connect _ => 0

/-- The gauge of live handles, which is not shown before the first one. -/
def gauge : Int := w.metrics.handles.getD 0

/-- All sockets and listeners that were ever opened. -/
def objects : Finset Owner :=
  (Finset.range w.sockets.length).image .socket ∪ (Finset.range w.listeners.length).image .listener

/-- The sockets and listeners that are alive. -/
def alive : Finset Owner := w.objects.filter fun o => w.handlesOf o ≠ 0

/-- Those on one bridge. -/
def aliveOn (bridge : Nat) : Finset Owner :=
  w.alive.filter fun o => (w.guard? o).map Guard.tracker = some bridge

theorem handlesOf_eq (o : Owner) :
    w.handlesOf o = w.held o + w.queues.waiting.countP fun r => r.2.holds o := by
  cases o with
  | socket n => rfl
  | listener l => rfl
  | connect c => simp [handlesOf, held, Completion.holds]

theorem mem_objects (o : Owner) : o ∈ w.objects ↔ ∃ g, w.guard? o = some g := by
  cases o <;> simp [objects, guard?, List.getElem?_eq_some_iff]

theorem mem_alive (o : Owner) :
    o ∈ w.alive ↔ (∃ g, w.guard? o = some g) ∧ w.handlesOf o ≠ 0 := by
  rw [alive, Finset.mem_filter, mem_objects]

theorem mem_aliveOn (bridge : Nat) (o : Owner) :
    o ∈ w.aliveOn bridge ↔ ∃ g, w.guard? o = some g ∧ g.tracker = bridge ∧ w.handlesOf o ≠ 0 := by
  rw [aliveOn, Finset.mem_filter, mem_alive]
  constructor
  · rintro ⟨⟨⟨g, found⟩, held⟩, on⟩
    rw [found] at on
    exact ⟨g, found, Option.some.inj on, held⟩
  · rintro ⟨g, found, rfl, held⟩
    exact ⟨⟨⟨g, found⟩, held⟩, by rw [found]; rfl⟩

/-- What a bridge knows of its handles, those in records apart. -/
structure Holdings where
  handles : Handles
  gauge : Int
  guard? : Owner → Option Guard
  held : Owner → Nat

def holdings : Holdings := ⟨w.handles, w.gauge, w.guard?, w.held⟩

@[simp] theorem holdings_spawn (s : Spawned) : (w.spawn s).holdings = w.holdings := rfl

@[simp] theorem holdings_modifyConnect (c : Nat) (f : ConnectSlot → ConnectSlot) :
    (w.modifyConnect c f).holdings = w.holdings := rfl

@[simp] theorem holdings_emit (queue : Nat) (c : Completion α) :
    (w.emit queue c).holdings = w.holdings := rfl

@[simp] theorem holdings_mark (marks : List Mark) : (w.mark marks).holdings = w.holdings := by
  simp only [mark, holdings, gauge, Metrics.handles_marks]
  rfl

@[simp] theorem holdings_tellConnect (task : Task) (record : ConnectRecord) :
    (w.tellConnect task record).holdings = w.holdings := by
  rw [tellConnect, holdings_emit, holdings_mark]

/-- What a change to one entry keeps is the same at every place. -/
theorem map_getElem?_modify {β γ : Type} (l : List β) (n m : Nat) {f : β → β} {h : β → γ}
    (kept : ∀ b, h (f b) = h b) : ((l.modify n f)[m]?).map h = (l[m]?).map h := by
  rw [List.getElem?_modify, Option.map_eq_map, Option.map_map]
  congr 1
  funext b
  simp only [Function.comp_apply]
  split
  · exact kept b
  · rfl

theorem guard?_modifySocket (n : Nat) {f : Socket α → Socket α}
    (kept : ∀ s, (f s).guard = s.guard) : (w.modifySocket n f).guard? = w.guard? := by
  funext o
  cases o with
  | socket m => exact map_getElem?_modify w.sockets n m kept
  | listener | connect => rfl

theorem guard?_modifyListener (l : Nat) {f : Listener → Listener}
    (kept : ∀ x, (f x).guard = x.guard) : (w.modifyListener l f).guard? = w.guard? := by
  funext o
  cases o with
  | listener m => exact map_getElem?_modify w.listeners l m kept
  | socket | connect => rfl

/-- A socket whose guard and handles stay. -/
theorem holdings_modifySocket (n : Nat) {f : Socket α → Socket α}
    (guard : ∀ s, (f s).guard = s.guard) (kept : ∀ s, (f s).held = s.held) :
    (w.modifySocket n f).holdings = w.holdings := by
  have same : (w.modifySocket n f).held = w.held := by
    funext o
    cases o with
    | socket m => exact congrArg (·.getD 0) (map_getElem?_modify w.sockets n m kept)
    | listener | connect => rfl
  rw [holdings, same, w.guard?_modifySocket n guard]
  rfl

/-- A listener whose guard and handles stay. -/
theorem holdings_modifyListener (l : Nat) {f : Listener → Listener}
    (guard : ∀ x, (f x).guard = x.guard) (kept : ∀ x, (f x).held = x.held) :
    (w.modifyListener l f).holdings = w.holdings := by
  have same : (w.modifyListener l f).held = w.held := by
    funext o
    cases o with
    | listener m => exact congrArg (·.getD 0) (map_getElem?_modify w.listeners l m kept)
    | socket | connect => rfl
  rw [holdings, same, w.guard?_modifyListener l guard]
  rfl

theorem held_modifySocket (n : Nat) (f : Socket α → Socket α) :
    (w.modifySocket n f).held = fun o => if o = .socket n then
      ((w.sockets[n]?).map fun s => (f s).held).getD 0 else w.held o := by
  funext o
  cases o with
  | socket m =>
    by_cases own : n = m
    · subst own
      cases found : w.sockets[n]? <;> simp [held, found]
    · simp [held, own, Ne.symm own]
  | listener | connect => rfl

theorem held_modifyListener (l : Nat) (f : Listener → Listener) :
    (w.modifyListener l f).held = fun o => if o = .listener l then
      ((w.listeners[l]?).map fun x => (f x).held).getD 0 else w.held o := by
  funext o
  cases o with
  | listener m =>
    by_cases own : l = m
    · subst own
      cases found : w.listeners[l]? <;> simp [held, getElem?_modifyListener, found]
    · simp [held, getElem?_modifyListener, own, Ne.symm own]
  | socket | connect => rfl

/-- One object more, onto which the program holds so many handles. -/
def Holdings.add (h : Holdings) (tracker : Nat) (o : Owner) (held : Nat) : Holdings where
  handles := (h.handles.track tracker).1
  gauge := h.gauge + 1
  guard? := Function.update h.guard? o (some (h.handles.track tracker).2)
  held := Function.update h.held o held

/-- One entry more is found behind all others. -/
theorem getElem?_concat {β : Type} (l : List β) (b : β) (n : Nat) :
    (l ++ [b])[n]? = if n = l.length then some b else l[n]? := by
  rcases Nat.lt_trichotomy n l.length with old | new | beyond
  · rw [List.getElem?_append_left old, if_neg old.ne]
  · rw [new, List.getElem?_concat_length, if_pos rfl]
  · have outside : (l ++ [b]).length ≤ n := by
      rw [List.length_append]
      exact beyond
    rw [if_neg beyond.ne', List.getElem?_eq_none outside, List.getElem?_eq_none beyond.le]

@[simp] theorem holdings_openSocket (bridge : Nat) (link : Link) :
    (w.openSocket bridge link).1.holdings =
      w.holdings.add bridge (.socket w.sockets.length) 0 := by
  have guards : (w.openSocket bridge link).1.guard? =
      Function.update w.guard? (.socket w.sockets.length) (some (w.track bridge).2) := by
    funext o
    cases o with
    | socket n =>
      simp only [guard?, sockets_openSocket, getElem?_concat, Function.update_apply,
        Owner.socket.injEq]
      split <;> rfl
    | listener | connect => rfl
  have held : (w.openSocket bridge link).1.held =
      Function.update w.held (.socket w.sockets.length) 0 := by
    funext o
    cases o with
    | socket n =>
      simp only [World.held, sockets_openSocket, getElem?_concat, Function.update_apply,
        Owner.socket.injEq]
      split <;> rfl
    | listener | connect => rfl
  simp only [holdings, Holdings.add, guards, held]
  rfl

/-- The counts stay as they are, and so does what is alive. -/
structure Keeps (w w' : World α) : Prop where
  handles : w'.handles = w.handles
  gauge : w'.gauge = w.gauge
  guards : w'.guard? = w.guard?
  alive : ∀ o g, w.guard? o = some g → (w'.handlesOf o = 0 ↔ w.handlesOf o = 0)

/-- A new object is counted and alive. -/
structure Opens (w w' : World α) (tracker : Nat) (o : Owner) : Prop where
  fresh : w.guard? o = none
  handles : w'.handles = (w.handles.track tracker).1
  gauge : w'.gauge = w.gauge + 1
  guards : w'.guard? = Function.update w.guard? o (some (w.handles.track tracker).2)
  alive : w'.handlesOf o ≠ 0
  others : ∀ o' ≠ o, w'.handlesOf o' = w.handlesOf o'

/-- An object was alive and is so no more, and is counted no more. -/
structure Closes (w w' : World α) (o : Owner) (g : Guard) : Prop where
  found : w.guard? o = some g
  handles : w'.handles = w.handles.release g
  gauge : w'.gauge = w.gauge - 1
  guards : w'.guard? = w.guard?
  before : w.handlesOf o ≠ 0
  after : w'.handlesOf o = 0
  others : ∀ o' ≠ o, w'.handlesOf o' = w.handlesOf o'

/-- What a step may do to the counts: nothing, or it opens an object, or it gives up the last handle
onto one. No object comes to life or dies beside the counts. -/
inductive Counts (w : World α) (e : Step α) (w' : World α) : Prop
  | keeps (keeps : w.Keeps w')
  | opens (brings : e.Brings) (tracker : Nat) (o : Owner) (opens : w.Opens w' tracker o)
  | closes (drops : e.Drops) (o : Owner) (g : Guard) (closes : w.Closes w' o g)

variable {w} {e : Step α} {o : Owner} {g : Guard}

theorem handlesOf_of_pushes (held : (w.step e).held o = w.held o)
    (kept : ∀ queue, e ≠ .take queue) :
    (w.step e).handlesOf o = w.handlesOf o + (w.pushes e).countP fun r => r.2.holds o := by
  rw [handlesOf_eq, handlesOf_eq, held, queues_step kept, Queues.append, List.countP_append,
    Nat.add_assoc]

/-- A new record holds a handle onto the object that the step opens, or onto a listener whose
accept loop starts and who has a handle already. -/
theorem handlesOf_of_holds {r : Nat × Completion α} (pushed : r ∈ w.pushes e)
    (holds : r.2.holds o = true) :
    w.handlesOf o ≠ 0 ∨ (w.guard? o = none ∧ ∃ g, (w.step e).guard? o = some g) := by
  cases o with
  | connect c => cases holds
  | socket n =>
    obtain ⟨rfl, guard, link, grown⟩ := opens_of_pushes pushed (beq_iff_eq.mp holds)
    refine .inr ⟨by simp [guard?], guard, by simp [guard?, grown]⟩
  | listener l =>
    have names : r.2.listener = some l := beq_iff_eq.mp holds
    cases tells_of_pushes pushed with
    | accepts task found held =>
      cases names
      left
      simp only [handlesOf, listenerHandles, found, Option.map_some, Option.getD_some]
      omega
    | acceptTurn result => cases result <;> cases names
    | connectTurn | readTurn | writeTurn | refused => cases names

/-- A step that leaves guards and handles of the program as they are. -/
theorem counts_of_same (same : (w.step e).holdings = w.holdings)
    (kept : ∀ queue, e ≠ .take queue) : w.Counts e (w.step e) := by
  have guards : (w.step e).guard? = w.guard? := congrArg Holdings.guard? same
  refine .keeps ⟨congrArg Holdings.handles same, congrArg Holdings.gauge same, guards, ?_⟩
  intro o g found
  rw [handlesOf_of_pushes (congrFun (congrArg Holdings.held same) o) kept]
  by_cases named : ∃ r ∈ w.pushes e, r.2.holds o = true
  · obtain ⟨r, pushed, holds⟩ := named
    rcases handlesOf_of_holds pushed holds with alive | ⟨missing, -⟩
    · omega
    · rw [found] at missing
      cases missing
  · have unnamed : (w.pushes e).countP (fun r => r.2.holds o) = 0 :=
      List.countP_eq_zero.mpr fun r pushed holds => named ⟨r, pushed, holds⟩
    rw [unnamed, Nat.add_zero]

/-- A step that opens an object and tells nobody else of any. -/
theorem counts_of_add {tracker held : Nat}
    (added : (w.step e).holdings = w.holdings.add tracker o held) (brings : e.Brings)
    (fresh : w.guard? o = none)
    (alive : held + (w.pushes e).countP (fun r => r.2.holds o) ≠ 0)
    (others : ∀ o' ≠ o, (w.pushes e).countP (fun r => r.2.holds o') = 0) :
    w.Counts e (w.step e) := by
  have kept : ∀ queue, e ≠ .take queue := by
    rintro queue rfl
    exact brings
  have helds : (w.step e).held = Function.update w.held o held := congrArg Holdings.held added
  refine .opens brings tracker o ⟨fresh, congrArg Holdings.handles added,
    congrArg Holdings.gauge added, congrArg Holdings.guard? added, ?_, fun o' other => ?_⟩
  · rw [handlesOf_eq, helds, Function.update_self, queues_step kept, Queues.append,
      List.countP_append]
    omega
  · rw [handlesOf_of_pushes (by rw [helds, Function.update_of_ne other]) kept, others o' other,
      Nat.add_zero]

/-- A step that gives up one of the program's handles, which may be the last one. -/
theorem counts_of_drop {w₁ : World α}
    (stepped : w.step e = if w₁.handlesOf o = 0 then w₁.release g else w₁) (drops : e.Drops)
    (found : w.guard? o = some g) (had : w.held o ≠ 0) (handles : w₁.handles = w.handles)
    (gauge : w₁.gauge = w.gauge) (guards : w₁.guard? = w.guard?) (queues : w₁.queues = w.queues)
    (others : ∀ o' ≠ o, w₁.held o' = w.held o') : w.Counts e (w.step e) := by
  have before : w.handlesOf o ≠ 0 := by
    rw [handlesOf_eq]
    omega
  have unmoved : ∀ o' ≠ o, w₁.handlesOf o' = w.handlesOf o' := by
    intro o' other
    rw [handlesOf_eq, handlesOf_eq, others o' other, queues]
  rw [stepped]
  split
  · rename_i after
    refine .closes drops o g ⟨found, ?_, ?_, guards, before, after, unmoved⟩
    · rw [← handles]
      rfl
    · rw [← gauge]
      rfl
  · rename_i after
    refine .keeps ⟨handles, gauge, guards, fun o' g' found' => ?_⟩
    by_cases own : o' = o
    · rw [own]
      exact iff_of_false after before
    · rw [unmoved o' own]

/-- A step that only changes how many handles the program holds, and not whether it holds any. -/
theorem counts_of_held (handles : (w.step e).handles = w.handles)
    (gauge : (w.step e).gauge = w.gauge) (guards : (w.step e).guard? = w.guard?)
    (queues : (w.step e).queues = w.queues)
    (held : ∀ o, (w.step e).held o = 0 ↔ w.held o = 0) : w.Counts e (w.step e) := by
  refine .keeps ⟨handles, gauge, guards, fun o g found => ?_⟩
  have same := held o
  rw [handlesOf_eq, handlesOf_eq, queues]
  omega

theorem holdings_addBridge (config : IoConfig) :
    (w.step (.addBridge config)).holdings = w.holdings := by
  simp only [step, addBridge]
  split <;> rfl

theorem holdings_listen (bridge : Nat) (address : SocketAddr) {backlog : UInt32}
    (room : backlog ≠ 0) (near : SocketAddr) :
    (w.step (.listen bridge address backlog (.ok near))).holdings =
      w.holdings.add bridge (.listener w.listeners.length) 1 := by
  have listeners : (w.step (.listen bridge address backlog (.ok near))).listeners =
      w.listeners ++ [{ guard := (w.track bridge).2, near, held := 1 }] := by
    rw [step, listen, if_neg room]
    rfl
  have guards : (w.step (.listen bridge address backlog (.ok near))).guard? =
      Function.update w.guard? (.listener w.listeners.length) (some (w.track bridge).2) := by
    funext o
    cases o with
    | listener l =>
      simp only [guard?, listeners, getElem?_concat, Function.update_apply, Owner.listener.injEq]
      split <;> rfl
    | socket n => simp [guard?]
    | connect => rfl
  have held : (w.step (.listen bridge address backlog (.ok near))).held =
      Function.update w.held (.listener w.listeners.length) 1 := by
    funext o
    cases o with
    | listener l =>
      simp only [World.held, listeners, getElem?_concat, Function.update_apply,
        Owner.listener.injEq]
      split <;> rfl
    | socket n => simp [World.held]
    | connect => rfl
  simp only [holdings, Holdings.add, guards, held]
  rw [step, listen, if_neg room]
  rfl

theorem counts_listen (bridge : Nat) (address : SocketAddr) (backlog : UInt32)
    (answer : Except (ListenCall × OsError) SocketAddr) :
    w.Counts (.listen bridge address backlog answer)
      (w.step (.listen bridge address backlog answer)) := by
  have kept (queue : Nat) :
      (.listen bridge address backlog answer : Step α) ≠ .take queue := nofun
  by_cases full : backlog = 0
  · exact counts_of_same (by simp [step, listen, full, orSame]) kept
  cases answer with
  | error failed => exact counts_of_same (by simp [step, listen, full, orSame]) kept
  | ok near =>
    have silent := w.pushes_of_unowned (e := .listen bridge address backlog (.ok near)) rfl
    exact counts_of_add (holdings_listen bridge address full near) ⟨full, rfl⟩
      (by simp [guard?]) (by simp) (by simp [silent])

theorem holdings_accept (l : Nat) (task : Task) :
    (w.step (.accept l task)).holdings = w.holdings := by
  simp only [step, accept]
  split
  · rfl
  · split
    · rfl
    · split
      · rw [holdings_emit]
      · rw [holdings_spawn, holdings_modifyListener, holdings_emit] <;>
          · intro x
            rfl

theorem holdings_cancelListener (l : Nat) :
    (w.step (.cancelListener l)).holdings = w.holdings := by
  refine holdings_modifyListener _ _ ?_ ?_ <;>
    · intro x
      split <;> rfl

theorem holdings_read (n : Nat) (decoder : Decoder α) (task : Task) :
    (w.step (.read n decoder task)).holdings = w.holdings := by
  simp only [step, World.read]
  split
  · rfl
  · split
    · rfl
    · split
      · rfl
      · refine (holdings_spawn ..).trans (holdings_modifySocket _ _ ?_ ?_) <;>
          · intro s
            rfl

theorem holdings_write (n : Nat) (data : List UInt8) (task : Task) :
    (w.step (.write n data task)).holdings = w.holdings := by
  simp only [step, write]
  split
  · rfl
  · split
    · rfl
    · split
      · exact holdings_modifySocket _ _ (fun _ => rfl) fun _ => rfl
      · split
        · rfl
        · rw [holdings_emit, holdings_mark]

theorem holdings_shutdownWrite (n : Nat) :
    (w.step (.shutdownWrite n)).holdings = w.holdings := by
  simp only [step, shutdownWrite]
  split
  · rfl
  · split
    · rfl
    · exact holdings_modifySocket _ _ (fun _ => rfl) fun _ => rfl

theorem holdings_cancelSocket (n : Nat) :
    (w.step (.cancelSocket n)).holdings = w.holdings := by
  refine holdings_modifySocket _ _ ?_ ?_ <;>
    · intro s
      split <;> rfl

theorem holdings_pollRead (n : Nat) (answer : Poll (List UInt8) String) :
    (w.step (.pollRead n answer)).holdings = w.holdings := by
  simp only [step, pollRead]
  split
  · split
    · rw [holdings_mark, holdings_modifySocket] <;>
        · intro s
          split <;> rfl
    · rw [holdings_emit, holdings_mark, holdings_modifySocket] <;>
        · intro s
          split <;> rfl
  · rfl

theorem holdings_pollWrite (n : Nat) (answer : Poll Nat String) :
    (w.step (.pollWrite n answer)).holdings = w.holdings := by
  simp only [step, pollWrite]
  split
  · rfl
  · split
    · split
      · rw [holdings_mark, holdings_modifySocket] <;>
          · intro s
            split <;> rfl
      · rw [holdings_emit, holdings_mark, holdings_modifySocket] <;>
          · intro s
            split <;> rfl
    · rfl

/-- What a poll of a connect or an accept loop may do to the holdings: nothing, or it opens a socket
that one new record names. -/
inductive Admits (w : World α) (e : Step α) : Prop
  | nobody (same : (w.step e).holdings = w.holdings)
  | client (brings : e.Brings) (tracker : Nat) (r : Nat × Completion α)
    (added : (w.step e).holdings = w.holdings.add tracker (.socket w.sockets.length) 0)
    (pushed : w.pushes e = [r]) (names : r.2.connection = some w.sockets.length)
    (unlisted : r.2.listener = none)

/-- A record that names the socket that was opened holds nothing else. -/
theorem Admits.counts (admits : w.Admits e) (kept : ∀ queue, e ≠ .take queue) :
    w.Counts e (w.step e) := by
  cases admits with
  | nobody same => exact counts_of_same same kept
  | client brings tracker r added pushed names unlisted =>
    refine counts_of_add added brings (by simp [guard?]) ?_ fun o other => ?_
    · rw [pushed, List.countP_singleton, Completion.holds, names]
      simp
    · rw [pushed, List.countP_singleton]
      cases o with
      | socket n =>
        have apart : w.sockets.length ≠ n := fun same => other (congrArg _ same.symm)
        simp [Completion.holds, names, apart]
      | listener l => simp [Completion.holds, unlisted]
      | connect c => rfl

theorem admits_pollConnect (c : Nat) (answer : ConnectAnswer) :
    w.Admits (.pollConnect c answer) := by
  cases found : w.connects[c]? with
  | none => exact .nobody (by simp [step, pollConnect, found])
  | some slot =>
    obtain ⟨bridge, cancelled, running⟩ := slot
    cases running with
    | none => exact .nobody (by simp [step, pollConnect, found])
    | some running =>
      have pushed := pushes_eq (queues_pollConnect found rfl answer)
      rcases turned : (running.turn cancelled answer).result with _ | text | link
      · exact .nobody (by simp [step, pollConnect, found, turned])
      · exact .nobody (by simp [step, pollConnect, found, turned])
      · obtain ⟨poll, rfl, ready⟩ := Connect.ready_of_turn turned
        have added : (w.step (.pollConnect c (.attempted poll))).holdings =
            w.holdings.add bridge (.socket w.sockets.length) 0 := by
          simp only [step, pollConnect, found, turned, holdings_tellConnect,
            holdings_openSocket, holdings_modifyConnect, sockets_modifyConnect]
        rw [turned] at pushed
        exact .client ⟨link, ready⟩ bridge _ added pushed rfl rfl

theorem admits_pollAccept (l i : Nat) (answer : Poll (Except String Link) String) :
    w.Admits (.pollAccept l i answer) := by
  cases found : w.listeners[l]? with
  | none => exact .nobody (by simp [step, pollAccept, found])
  | some x =>
    rcases running : x.loops[i]? with _ | _ | task
    · exact .nobody (by simp [step, pollAccept, found, running])
    · exact .nobody (by simp [step, pollAccept, found, running])
    · have pushed := pushes_eq (queues_pollAccept found running answer)
      rcases turned : (acceptTurn x.cancelled answer).result with _ | text | link
      · refine .nobody ?_
        simp only [step, pollAccept, found, running, turned]
        rw [holdings_modifyListener] <;>
          · intro x
            rfl
      · refine .nobody ?_
        simp only [step, pollAccept, found, running, turned, holdings_emit, holdings_mark]
        rw [holdings_modifyListener] <;>
          · intro x
            rfl
      · have added : (w.step (.pollAccept l i answer)).holdings =
            w.holdings.add x.guard.tracker (.socket w.sockets.length) 0 := by
          simp only [step, pollAccept, found, running, turned, holdings_emit, holdings_mark,
            holdings_openSocket, sockets_modifyListener]
          rw [holdings_modifyListener] <;>
            · intro x
              rfl
        rw [turned] at pushed
        exact .client ⟨link, ready_of_acceptTurn turned⟩ x.guard.tracker _ added pushed rfl rfl

theorem counts_cloneSocket (n : Nat) : w.Counts (.cloneSocket n) (w.step (.cloneSocket n)) := by
  refine counts_of_held rfl rfl (w.guard?_modifySocket n ?_) rfl fun o => ?_
  · intro s
    split <;> rfl
  · simp only [step, cloneSocket, held_modifySocket]
    split
    · rename_i own
      rw [own, World.held]
      cases w.sockets[n]? with
      | none => rfl
      | some s =>
        simp only [Option.map_some, Option.getD_some]
        split <;> simp_all
    · rfl

theorem counts_cloneListener (l : Nat) :
    w.Counts (.cloneListener l) (w.step (.cloneListener l)) := by
  refine counts_of_held rfl rfl (w.guard?_modifyListener l ?_) rfl fun o => ?_
  · intro x
    split <;> rfl
  · simp only [step, cloneListener, held_modifyListener]
    split
    · rename_i own
      rw [own, World.held]
      cases w.listeners[l]? with
      | none => rfl
      | some x =>
        simp only [Option.map_some, Option.getD_some]
        split <;> simp_all
    · rfl

theorem counts_dropSocket (n : Nat) : w.Counts (.dropSocket n) (w.step (.dropSocket n)) := by
  cases found : w.sockets[n]? with
  | none => exact counts_of_same (by simp [step, dropSocket, found]) nofun
  | some s =>
    by_cases held : s.held = 0
    · exact counts_of_same (by simp [step, dropSocket, found, held]) nofun
    · let w₁ := w.modifySocket n fun s => { s with held := s.held - 1 }
      have stepped : w.step (.dropSocket n) =
          if w₁.handlesOf (.socket n) = 0 then w₁.release s.guard else w₁ := by
        simp only [step, dropSocket, found, if_neg held]
        rfl
      refine counts_of_drop stepped trivial (by simp [guard?, found])
        (by simpa [World.held, found] using held) rfl rfl
        (w.guard?_modifySocket n fun _ => rfl) rfl fun o other => ?_
      simp only [w₁, held_modifySocket, if_neg other]

theorem counts_dropListener (l : Nat) :
    w.Counts (.dropListener l) (w.step (.dropListener l)) := by
  cases found : w.listeners[l]? with
  | none => exact counts_of_same (by simp [step, dropListener, found]) nofun
  | some x =>
    by_cases held : x.held = 0
    · exact counts_of_same (by simp [step, dropListener, found, held]) nofun
    · let w₁ := w.modifyListener l fun x => { x with held := x.held - 1 }
      have stepped : w.step (.dropListener l) =
          if w₁.handlesOf (.listener l) = 0 then w₁.release x.guard else w₁ := by
        simp only [step, dropListener, found, if_neg held]
        rfl
      refine counts_of_drop stepped trivial (by simp [guard?, found])
        (by simpa [World.held, found] using held) rfl rfl
        (w.guard?_modifyListener l fun _ => rfl) rfl fun o other => ?_
      simp only [w₁, held_modifyListener, if_neg other]

end World

/-- A record that is popped is the first of its queue. -/
theorem Queues.pop?_eq_some {β : Type} {q q' : Queues β} {queue : Nat} {a : β}
    (popped : q.pop? queue = (some a, q')) :
    ∃ before after, q.waiting = before ++ (queue, a) :: after ∧
      q' = { q with waiting := before ++ after } := by
  obtain ⟨head, rfl⟩ := Prod.mk.inj popped
  obtain ⟨r, first, rfl⟩ : ∃ r, (q.waiting.filter (·.1 == queue)).head? = some r ∧ r.2 = a := by
    simpa only [contents, List.head?_map, Option.map_eq_some_iff] using head
  obtain ⟨waits, own⟩ := List.mem_filter.mp (List.mem_of_head? first)
  obtain ⟨r', before, after, others, own', split, erased⟩ :=
    @List.exists_of_eraseP _ (·.1 == queue) _ _ waits own
  have same : r' = r := by
    have nothing : before.filter (·.1 == queue) = [] := List.filter_eq_nil_iff.mpr others
    rw [split, List.filter_append, nothing, List.nil_append, List.filter_cons, if_pos own'] at first
    exact Option.some.inj first
  subst same
  obtain rfl := beq_iff_eq.mp own
  exact ⟨before, after, split, by rw [erased]⟩

namespace World

variable {w : World α} {e : Step α} {o : Owner} {g : Guard}

/-- The program gets the handles that are in a record. -/
theorem held_take {queue : Nat} {c : Completion α} {queues : Queues (Completion α)}
    (popped : w.queues.pop? queue = (some c, queues)) (found : w.guard? o = some g) :
    (w.take queue).1.held o = w.held o + if c.holds o then 1 else 0 := by
  cases o with
  | connect => cases found
  | socket n =>
    obtain ⟨s, found, -⟩ := Option.map_eq_some_iff.mp found
    cases connection : c.connection with
    | none =>
      cases listener : c.listener <;>
        simp [take, popped, World.held, Completion.holds, connection, listener]
    | some m =>
      by_cases own : m = n <;> cases listener : c.listener <;>
        simp [take, popped, World.held, Completion.holds, connection, listener, found, own]
  | listener l =>
    obtain ⟨x, found, -⟩ := Option.map_eq_some_iff.mp found
    cases listener : c.listener with
    | none =>
      cases connection : c.connection <;>
        simp [take, popped, World.held, Completion.holds, connection, listener]
    | some m =>
      by_cases own : m = l <;> cases connection : c.connection <;>
        simp [take, popped, World.held, Completion.holds, connection, listener, found, own,
          getElem?_modifyListener]

/-- Taking a record moves the handles in it from the queue to the program. -/
theorem counts_take (queue : Nat) : w.Counts (.take queue) (w.step (.take queue)) := by
  rcases popped : w.queues.pop? queue with ⟨_ | c, queues⟩
  · have same : w.step (.take queue) = w := by simp [step, take, popped]
    rw [same]
    exact .keeps ⟨rfl, rfl, rfl, fun _ _ _ => Iff.rfl⟩
  · obtain ⟨before, after, waiting, rfl⟩ := Queues.pop?_eq_some popped
    have kept : (w.step (.take queue)).handles = w.handles ∧
        (w.step (.take queue)).gauge = w.gauge ∧
        (w.step (.take queue)).queues.waiting = before ++ after := by
      simp only [step, take, popped]
      cases c.connection <;> cases c.listener <;> exact ⟨rfl, rfl, rfl⟩
    have guards : (w.step (.take queue)).guard? = w.guard? := by
      simp only [step, take, popped]
      cases c.connection <;> cases c.listener <;>
        simp only [guard?_modifyListener, guard?_modifySocket, implies_true] <;> rfl
    refine .keeps ⟨kept.1, kept.2.1, guards, fun o g found => ?_⟩
    have moved : (w.step (.take queue)).handlesOf o = w.handlesOf o := by
      rw [handlesOf_eq, handlesOf_eq, step, held_take popped found, ← step, kept.2.2, waiting]
      simp only [List.countP_append, List.countP_cons]
      omega
    rw [moved]

/-- What any step does to the counts. -/
theorem counts_step (w : World α) (e : Step α) : w.Counts e (w.step e) := by
  cases e with
  | addBridge config => exact counts_of_same (holdings_addBridge config) nofun
  | listen bridge address backlog answer =>
    exact counts_listen bridge address backlog answer
  | connect | cancelConnect => exact counts_of_same rfl nofun
  | accept l task => exact counts_of_same (holdings_accept l task) nofun
  | cancelListener l => exact counts_of_same (holdings_cancelListener l) nofun
  | cloneListener l => exact counts_cloneListener l
  | dropListener l => exact counts_dropListener l
  | read n decoder task => exact counts_of_same (holdings_read n decoder task) nofun
  | write n data task => exact counts_of_same (holdings_write n data task) nofun
  | shutdownWrite n => exact counts_of_same (holdings_shutdownWrite n) nofun
  | cancelSocket n => exact counts_of_same (holdings_cancelSocket n) nofun
  | cloneSocket n => exact counts_cloneSocket n
  | dropSocket n => exact counts_dropSocket n
  | take queue => exact counts_take queue
  | pollConnect c answer => exact (admits_pollConnect c answer).counts nofun
  | pollAccept l i answer => exact (admits_pollAccept l i answer).counts nofun
  | pollRead n answer => exact counts_of_same (holdings_pollRead n answer) nofun
  | pollWrite n answer => exact counts_of_same (holdings_pollWrite n answer) nofun

end World

end SocketBridge
