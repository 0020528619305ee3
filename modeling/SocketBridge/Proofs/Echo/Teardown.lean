import SocketBridge.Proofs.Echo.Tidy

/-!
# The end of a daemon

A daemon that stops cancels and gives up its listener, closes all connections and throws away the
records that wait. What runs on its bridge is polled meanwhile, at any time. Two things hold at
every moment: the calls that are still to be made give up all handles that the program holds, and
they cancel everything that is not calm before its handle is given up.
-/

namespace SocketBridge

/-- A daemon that stops: the calls that come next, and whether it has found no more records. -/
structure Teardown where
  world : World (List UInt8)
  calls : List (Step (List UInt8))
  drained : Bool := false

/-- What may happen to it. -/
inductive TeardownEvent
  | goesOn
  | accepts (listener loop : Nat) (answer : Poll (Except String Link) String)
  | reads (socket : Nat) (answer : Poll (List UInt8) String)
  | writes (socket : Nat) (answer : Poll Nat String)

/-- Stops a daemon, with its connections in some order. -/
def Daemon.stop (d : Daemon) (order : List (Nat × EchoConnection)) : Teardown where
  world := d.world
  calls := .cancelListener d.listener :: .dropListener d.listener ::
    (Scheduler.closeAll { connections := order }).2.map EchoCommand.step

namespace Teardown

/-- Makes the next call. If there is none, takes a record, whose handles are given up next. -/
def next (t : Teardown) : Teardown :=
  match t.calls with
  | call :: calls => { t with world := t.world.step call, calls }
  | [] =>
    if t.drained then t
    else match t.world.take 0 with
      | (_, none) => { t with drained := true }
      | (world, some c) => { t with world, calls := c.releases }

def step (t : Teardown) : TeardownEvent → Teardown
  | .goesOn => t.next
  | .accepts listener loop answer => { t with world := t.world.pollAccept listener loop answer }
  | .reads socket answer => { t with world := t.world.pollRead socket answer }
  | .writes socket answer => { t with world := t.world.pollWrite socket answer }

/-- What has become of it after so many events of a schedule. -/
def after (t : Teardown) (schedule : Nat → TeardownEvent) : Nat → Teardown
  | 0 => t
  | time + 1 => (t.after schedule time).step (schedule time)

/-- What holds all the time. -/
structure Winding (t : Teardown) : Prop where
  funnels : t.world.Funnels 0
  accounted : t.world.Accounted
  parts : ∀ e ∈ t.calls, e.Parts
  due : ∀ o, t.world.Due t.calls o
  done : t.drained = true → t.calls = [] ∧ t.world.queues.waiting = []

/-- Nothing pushes any more. -/
def Silent (t : Teardown) : Prop := ∀ o, t.world.Calm o

variable {t : Teardown} {e : Step (List UInt8)}

theorem Winding.silent (winding : t.Winding) (idle : t.calls = []) : t.Silent := fun o =>
  (World.due_nil.mp (idle ▸ winding.due o)).2

/-- What is polled in silence leaves the queues. -/
theorem Silent.queues (silent : t.Silent) (closing : e.Closing) (kept : ¬e.Transfers) :
    (t.world.step e).queues = t.world.queues := by
  have untaken : ∀ queue, e ≠ .take queue := by
    rintro queue rfl
    exact kept trivial
  rw [World.queues_step untaken, World.pushes_of_calm (fun o _ => silent o) closing,
    Queues.append_nil]

theorem next_of_none {world : World (List UInt8)} (empty : (world.take 0).2 = none) :
    next ⟨world, [], false⟩ = ⟨world, [], true⟩ := by
  rcases popped : world.take 0 with ⟨w, _ | record⟩
  · simp [next, popped]
  · simp [popped] at empty

theorem next_of_some {world : World (List UInt8)} {record : Completion (List UInt8)}
    (taken : (world.take 0).2 = some record) :
    next ⟨world, [], false⟩ = ⟨(world.take 0).1, record.releases, false⟩ := by
  rcases popped : world.take 0 with ⟨w, _ | record'⟩
  · simp [popped] at taken
  · have same : record' = record := by simpa [popped] using taken
    simp [next, popped, same]

/-- What an event may be: a poll, or what the daemon does next. That is a call, a record to throw
away, or nothing more. -/
inductive Does (t : Teardown) : TeardownEvent → Teardown → Prop
  | polls (e : TeardownEvent) (waits : e ≠ .goesOn) (poll : Step (List UInt8))
    (closing : poll.Closing) (kept : ¬poll.Transfers) :
    Does t e { t with world := t.world.step poll }
  | calls (call : Step (List UInt8)) (rest : List (Step (List UInt8)))
    (line : t.calls = call :: rest) :
    Does t .goesOn { t with world := t.world.step call, calls := rest }
  | takes (idle : t.calls = []) (undrained : t.drained = false)
    (record : Completion (List UInt8)) (taken : (t.world.take 0).2 = some record) :
    Does t .goesOn { t with world := t.world.step (.take 0), calls := record.releases }
  | drains (idle : t.calls = []) (undrained : t.drained = false)
    (empty : (t.world.take 0).2 = none) : Does t .goesOn { t with drained := true }
  | rests (idle : t.calls = []) (drained : t.drained = true) : Does t .goesOn t

theorem does_step (t : Teardown) (e : TeardownEvent) : t.Does e (t.step e) := by
  cases e with
  | accepts l i answer => exact .polls (.accepts l i answer) (by simp) (.pollAccept l i answer) trivial id
  | reads n answer => exact .polls (.reads n answer) (by simp) (.pollRead n answer) trivial id
  | writes n answer => exact .polls (.writes n answer) (by simp) (.pollWrite n answer) trivial id
  | goesOn =>
    obtain ⟨world, calls, drained⟩ := t
    rw [step]
    cases calls with
    | cons call rest => exact .calls call rest rfl
    | nil =>
      cases drained with
      | true => exact .rests rfl rfl
      | false =>
        cases taken : (world.take 0).2 with
        | none => exact next_of_none taken ▸ .drains rfl rfl taken
        | some record => exact next_of_some taken ▸ .takes rfl rfl record taken

theorem Winding.step (winding : t.Winding) (e : TeardownEvent) : (t.step e).Winding := by
  have does := t.does_step e
  generalize t.step e = t' at does ⊢
  cases does with
  | polls _ waits poll closing kept =>
    refine ⟨winding.funnels.step (closing.funnels 0), winding.accounted.step poll, winding.parts,
      fun o => (winding.due o).poll closing kept, fun drained => ?_⟩
    obtain ⟨idle, empty⟩ := winding.done drained
    exact ⟨idle, by rw [(winding.silent idle).queues closing kept, empty]⟩
  | calls call rest line =>
    have parts := winding.parts
    rw [line] at parts
    obtain ⟨here, there⟩ := List.forall_mem_cons.mp parts
    refine ⟨winding.funnels.step (here.closing.funnels 0), winding.accounted.step call, there,
      fun o => World.Due.call (line ▸ winding.due o) here, fun drained => ?_⟩
    cases line.symm.trans (winding.done drained).1
  | takes idle undrained record taken =>
    refine ⟨winding.funnels.step (e := .take 0) trivial, winding.accounted.step (.take 0),
      fun e => Completion.parts_of_releases, fun o => World.Due.take (idle ▸ winding.due o) taken,
      fun drained => ?_⟩
    cases undrained.symm.trans drained
  | drains idle undrained empty =>
    exact ⟨winding.funnels, winding.accounted, winding.parts, winding.due, fun _ =>
      ⟨idle, winding.funnels.waiting_of_take empty⟩⟩
  | rests => exact winding

theorem Winding.after (winding : t.Winding) (schedule : Nat → TeardownEvent) (time : Nat) :
    (t.after schedule time).Winding := by
  induction time with
  | zero => exact winding
  | succ time ih => exact ih.step (schedule time)

/-- No event disturbs the silence. -/
theorem Silent.step (silent : t.Silent) (winding : t.Winding) (e : TeardownEvent) :
    (t.step e).Silent := by
  have kept {e : Step (List UInt8)} (closing : e.Closing) (o : Owner) : (t.world.step e).Calm o :=
    (silent o).step (closing.asleep o)
  have does := t.does_step e
  generalize t.step e = t' at does ⊢
  cases does with
  | polls _ waits poll closing => exact kept closing
  | calls call rest line => exact kept (winding.parts call (line ▸ List.mem_cons_self)).closing
  | takes => exact kept trivial
  | drains | rests => exact silent

/-- How much is left to do once nothing is pushed any more. -/
def rank (t : Teardown) : Nat :=
  3 * t.world.queues.waiting.length + t.calls.length + if t.drained then 0 else 1

/-- In the silence there is never more to do, and less whenever the daemon goes on. -/
theorem Silent.rank_le (silent : t.Silent) (winding : t.Winding) (e : TeardownEvent) :
    t.drained = true ∨
      ((t.step e).rank ≤ t.rank ∧ (e = .goesOn → (t.step e).rank < t.rank)) := by
  have less {t' : Teardown} (less : t'.rank < t.rank) :
      t'.rank ≤ t.rank ∧ (e = .goesOn → t'.rank < t.rank) := ⟨Nat.le_of_lt less, fun _ => less⟩
  have does := t.does_step e
  generalize t.step e = t' at does ⊢
  cases does with
  | rests idle drained => exact .inl drained
  | polls _ waits poll closing kept =>
    refine .inr ⟨?_, fun going => absurd going waits⟩
    simp only [rank, silent.queues closing kept, Nat.le_refl]
  | calls call rest line =>
    have queues := World.queues_of_parts (w := t.world)
      (winding.parts call (line ▸ List.mem_cons_self))
    exact .inr (less (by simp [rank, queues, line]))
  | takes idle undrained record taken =>
    -- a record leaves at most two handles to give up
    have shorter := World.length_waiting_of_take taken
    have few := record.length_releases
    refine .inr (less ?_)
    simp only [rank, idle, World.step, List.length_nil, undrained]
    omega
  | drains idle undrained empty => exact .inr (less (by simp [rank, undrained]))

/-- What never grows and shrinks again and again until something is reached: then it is reached. -/
theorem reached_of_fair {goes reached : Nat → Prop}
    (fair : ∀ time, ∃ later, time ≤ later ∧ goes later) (measure : Nat → Nat) {start : Nat}
    (shrinks : ∀ time, start ≤ time → reached time ∨
      (measure (time + 1) ≤ measure time ∧ (goes time → measure (time + 1) < measure time))) :
    ∃ time, start ≤ time ∧ reached time := by
  induction bound : measure start using Nat.strongRecOn generalizing start with
  | ind size ih =>
    by_contra never
    have unreached : ∀ time, start ≤ time → ¬reached time := fun time passed here =>
      never ⟨time, passed, here⟩
    have falls : ∀ time, start ≤ time → measure time ≤ measure start := by
      intro time passed
      induction time, passed using Nat.le_induction with
      | base => exact Nat.le_refl _
      | succ time passed below =>
        exact ((shrinks time passed).resolve_left (unreached time passed)).1.trans below
    obtain ⟨later, passed, going⟩ := fair start
    have less := ((shrinks later passed).resolve_left (unreached later passed)).2 going
    have small : measure (later + 1) < size := by
      have below := falls later passed
      omega
    obtain ⟨time, after, here⟩ := ih _ small (fun time after => shrinks time (by omega)) rfl
    exact unreached time (by omega) here

/-- While calls are left, the daemon makes them one by one. -/
theorem calls_step (t : Teardown) (e : TeardownEvent) :
    t.calls = [] ∨ ((t.step e).calls.length ≤ t.calls.length ∧
      (e = .goesOn → (t.step e).calls.length < t.calls.length)) := by
  have does := t.does_step e
  generalize t.step e = t' at does ⊢
  cases does with
  | takes idle | drains idle | rests idle => exact .inl idle
  | polls _ waits => exact .inr ⟨Nat.le_refl _, fun going => absurd going waits⟩
  | calls call rest line => exact .inr ⟨by simp [line], fun _ => by simp [line]⟩

/-- A daemon that goes on again and again finds no more records in the end. -/
theorem Winding.drains (winding : t.Winding) {schedule : Nat → TeardownEvent}
    (fair : ∀ time, ∃ later, time ≤ later ∧ schedule later = .goesOn) :
    ∃ time, (t.after schedule time).drained = true := by
  have calls : ∃ time, 0 ≤ time ∧ (t.after schedule time).calls = [] :=
    reached_of_fair fair (fun time => (t.after schedule time).calls.length) fun time _ =>
      (t.after schedule time).calls_step (schedule time)
  obtain ⟨called, -, idle⟩ := calls
  have silent : ∀ time, called ≤ time → (t.after schedule time).Silent := by
    intro time passed
    induction time, passed using Nat.le_induction with
    | base => exact (winding.after schedule called).silent idle
    | succ time _ ih => exact ih.step (winding.after schedule time) (schedule time)
  have records : ∃ time, called ≤ time ∧ (t.after schedule time).drained = true :=
    reached_of_fair fair (fun time => (t.after schedule time).rank) fun time passed =>
      (silent time passed).rank_le (winding.after schedule time) (schedule time)
  obtain ⟨time, -, drained⟩ := records
  exact ⟨time, drained⟩

/-- Nothing is alive when no more records are found. -/
theorem Winding.active (winding : t.Winding) (drained : t.drained = true) (bridge : Nat) :
    t.world.activeHandles bridge = 0 := by
  obtain ⟨idle, empty⟩ := winding.done drained
  have none : t.world.aliveOn bridge = ∅ := by
    refine Finset.eq_empty_iff_forall_notMem.mpr fun o member => ?_
    obtain ⟨g, -, -, alive⟩ := (t.world.mem_aliveOn bridge o).mp member
    have unheld := (World.due_nil.mp (idle ▸ winding.due o)).1
    exact alive (by rw [World.handlesOf_eq, unheld, empty]; rfl)
  rw [winding.accounted.active, none, Finset.card_empty]

/-- After that only polls happen, and they push nothing. -/
theorem Winding.rests (winding : t.Winding) (drained : t.drained = true) (e : TeardownEvent) :
    (t.step e).drained = true ∧ (t.step e).world.queues = t.world.queues := by
  have idle := (winding.done drained).1
  have does := t.does_step e
  generalize t.step e = t' at does ⊢
  cases does with
  | polls _ waits poll closing kept => exact ⟨drained, (winding.silent idle).queues closing kept⟩
  | calls call rest line => cases line.symm.trans idle
  | takes _ undrained | drains _ undrained => cases undrained.symm.trans drained
  | rests => exact ⟨drained, rfl⟩

theorem Winding.rests_after (winding : t.Winding) {schedule : Nat → TeardownEvent} {time : Nat}
    (drained : (t.after schedule time).drained = true) {later : Nat} (passed : time ≤ later) :
    (t.after schedule later).drained = true ∧
      (t.after schedule later).world.queues = (t.after schedule time).world.queues := by
  induction later, passed using Nat.le_induction with
  | base => exact ⟨drained, rfl⟩
  | succ later _ ih =>
    obtain ⟨still, same⟩ := (winding.after schedule later).rests ih.1 (schedule later)
    exact ⟨still, same.trans ih.2⟩

/-- A daemon by itself. -/
theorem after_goesOn (t : Teardown) (time : Nat) :
    t.after (fun _ => .goesOn) time = next^[time] t := by
  induction time with
  | zero => rfl
  | succ time ih => rw [after, ih, step, Function.iterate_succ_apply']

/-- It makes all calls that are left. -/
theorem iterate_calls (world : World (List UInt8)) (calls : List (Step (List UInt8)))
    (drained : Bool) :
    next^[calls.length] ⟨world, calls, drained⟩ = ⟨world.run calls, [], drained⟩ := by
  induction calls generalizing world with
  | nil => rfl
  | cons call rest ih => exact ih (world.step call)

/-- It takes all records. -/
theorem iterate_drain {world : World (List UInt8)} (funnels : world.Funnels 0) {count : Nat}
    (enough : world.queues.waiting.length ≤ count) :
    ∃ time, next^[time] ⟨world, [], false⟩ = ⟨(world.drain 0 count).1, [], true⟩ := by
  induction count generalizing world with
  | zero =>
    refine ⟨1, next_of_none ?_⟩
    cases taken : (world.take 0).2 with
    | none => rfl
    | some record =>
      have waits := World.mem_waiting_of_take taken
      rw [List.eq_nil_of_length_eq_zero (Nat.le_zero.mp enough)] at waits
      cases waits
  | succ count ih =>
    cases taken : (world.take 0).2 with
    | none =>
      have still : (world.drain 0 (count + 1)).1 = world := by
        rcases popped : world.take 0 with ⟨w, _ | record⟩
        · simp [World.drain, popped]
        · simp [popped] at taken
      exact ⟨1, by rw [still]; exact next_of_none taken⟩
    | some record =>
      have parts : ∀ e ∈ record.releases, e.Parts := fun e => Completion.parts_of_releases
      have fewer := World.length_waiting_of_take taken
      have funnels' : ((world.take 0).1.run record.releases).Funnels 0 :=
        (funnels.step (e := .take 0) trivial).run fun e member => (parts e member).closing.funnels 0
      obtain ⟨time, rest⟩ := ih funnels' (by rw [World.queues_run_of_parts parts]; omega)
      have drain : (world.drain 0 (count + 1)).1 =
          (((world.take 0).1.run record.releases).drain 0 count).1 := by
        rcases popped : world.take 0 with ⟨w, _ | record'⟩
        · simp [popped] at taken
        · have same : record' = record := by simpa [popped] using taken
          simp [World.drain, popped, same, World.discard_eq_run]
      refine ⟨time + (record.releases.length + 1), ?_⟩
      rw [Function.iterate_add_apply, Function.iterate_succ_apply, next_of_some taken,
        iterate_calls, rest, drain]

end Teardown

namespace Daemon

variable {d : Daemon} {order : List (Nat × EchoConnection)}

theorem Tidy.stop (tidy : d.Tidy) (accounted : d.world.Accounted)
    (any : order.Perm d.scheduler.connections) : (d.stop order).Winding where
  funnels := tidy.funnels
  accounted := accounted
  parts e member := by
    rcases List.mem_cons.mp member with rfl | member
    · exact trivial
    rcases List.mem_cons.mp member with rfl | member
    · exact trivial
    · exact World.parts_closeAll member
  due o := by
    by_cases holds : d.Holds o
    · have held := tidy.one o holds
      obtain rfl | ⟨token, c, isOpen, rfl⟩ := holds
      · exact World.due_of_cancel rfl rfl held _
      · have listed := any.mem_iff.mpr (Scheduler.mem_of_find? isOpen)
        refine ((World.due_closeAll listed held).later ?_).later ?_
        · simp [Step.drops?]
        · simp [Step.drops?]
    · obtain ⟨unheld, calm⟩ := tidy.rest o holds
      exact World.due_of_done unheld calm _
  done drained := by cases drained

theorem accounted_launch {h : Host} {n : Network} {config : BridgeConfig}
    (launched : Daemon.launch h n config = .ok d) : d.world.Accounted := by
  obtain ⟨size, near, rfl⟩ := launch_eq launched
  have bridge : ({ buffers := [size] } : World (List UInt8)).Accounted :=
    World.Keeps.accounted (w := {}) ⟨rfl, rfl, rfl, fun _ _ _ => Iff.rfl⟩ World.accounted_empty
  have listens := bridge.step (.listen 0 near 1 (.ok near))
  exact listens.step (.accept 0 { schedulee := acceptToken })

/-- A daemon that is left alone while it stops. -/
theorem teardown_eq (funnels : d.world.Funnels 0) :
    ∃ time, (d.stop d.scheduler.connections).after (fun _ => .goesOn) time =
      ⟨d.teardown.world, [], true⟩ := by
  let calls := (d.stop d.scheduler.connections).calls
  have parted : (d.world.run calls).Funnels 0 := funnels.run fun e member => by
    rcases List.mem_cons.mp member with rfl | member
    · exact trivial
    rcases List.mem_cons.mp member with rfl | member
    · exact trivial
    · exact (World.parts_closeAll member).closing.funnels 0
  obtain ⟨time, drains⟩ := Teardown.iterate_drain parted (Nat.le_refl _)
  refine ⟨time + calls.length, ?_⟩
  have called : Teardown.next^[calls.length] (d.stop d.scheduler.connections) =
      ⟨d.world.run calls, [], false⟩ := Teardown.iterate_calls d.world calls false
  have closed : d.world.run calls = (closeAll { d with
      world := (d.world.cancelListener d.listener).dropListener d.listener }).world :=
    (obey_commands _ _).symm
  rw [Teardown.after_goesOn, Function.iterate_add_apply, called, drains, teardown, closed]

end Daemon

/-- The end of a daemon is clean. Whatever has happened since it was launched, in whatever order it
closes its connections and whatever is polled meanwhile, with any answers of the host: if it goes on
again and again, it finds no more records in the end. From then on nothing is counted on any bridge,
so there is nothing to wait for, and no record is pushed any more. A daemon that is left alone while
it stops ends as `Daemon.teardown` says. -/
theorem teardown_is_clean {h : Host} {n : Network} {config : BridgeConfig} {d : Daemon}
    (launched : Daemon.launch h n config = .ok d) (events : List DaemonEvent)
    {order : List (Nat × EchoConnection)}
    (any : order.Perm (d.run events).scheduler.connections) (schedule : Nat → TeardownEvent) :
    let t := ((d.run events).stop order).after schedule
    ((∀ time, ∃ later, time ≤ later ∧ schedule later = .goesOn) →
      ∃ time, (t time).drained = true) ∧
    (∀ time later, (t time).drained = true → time ≤ later →
      (t later).drained = true ∧ (t later).world.queues.waiting = [] ∧
      (t later).world.queues.pushed = (t time).world.queues.pushed ∧
      ∀ bridge, (t later).world.activeHandles bridge = 0 ∧
        (t later).world.handles.idle bridge = true) ∧
    ∃ time,
      ((d.run events).stop (d.run events).scheduler.connections).after (fun _ => .goesOn) time =
        ⟨(d.run events).teardown.world, [], true⟩ := by
  intro t
  have tidy := (Daemon.Tidy.launch launched).run (Daemon.Sound.launch launched) events
  have accounted : (d.run events).world.Accounted := by
    rw [Daemon.world_run]
    exact (Daemon.accounted_launch launched).run (d.trace events)
  have winding := tidy.stop accounted any
  refine ⟨winding.drains, fun time later drained passed => ?_, Daemon.teardown_eq tidy.funnels⟩
  obtain ⟨still, same⟩ := winding.rests_after drained passed
  have unwound := winding.after schedule later
  have none := unwound.active still
  exact ⟨still, (unwound.done still).2, congrArg Queues.pushed same, fun bridge =>
    ⟨none bridge, beq_iff_eq.mpr (none bridge)⟩⟩

/-- A client whose echo is in line, and one whose record nobody took. -/
def lateClients : List DaemonEvent :=
  let near := SocketAddr.near 7070
  let client : Poll (Except String Link) String := { ready := some (.ok (.ok ⟨near, near⟩)) }
  [.accepts 0 client, .handles, .handles, .reads 0 (some (.ok [1, 2, 3])), .handles,
    .accepts 0 client]

/-- The accept loop and the first client's writer are polled by turns, before each step of the
daemon. -/
def byTurns (time : Nat) : TeardownEvent :=
  let near := SocketAddr.near 7070
  if time % 2 = 1 then .goesOn
  else if time % 4 = 0 then .accepts 0 0 { ready := some (.ok (.ok ⟨near, near⟩)) }
  else .writes 0 { ready := some (.ok 2) }

/-- Three handles are counted when the daemon stops, and one more client comes just before the
listener is cancelled. -/
theorem teardown_is_clean_of_late_clients :
    ∃ d, Daemon.launch loneHost loneNetwork {} = .ok d ∧
      let t := ((d.run lateClients).stop (d.run lateClients).scheduler.connections).after byTurns
      (t 0).world.activeHandles 0 = 3 ∧ (t 1).world.activeHandles 0 = 4 ∧
      ∃ time, (t time).drained = true ∧ (t time).world.activeHandles 0 = 0 := by
  have reached : (Daemon.launch loneHost loneNetwork {}).toOption.map (fun d =>
      let t := ((d.run lateClients).stop (d.run lateClients).scheduler.connections).after byTurns
      ((t 0).world.activeHandles 0, (t 1).world.activeHandles 0)) = some (3, 4) := by
    decide +kernel
  cases launched : Daemon.launch loneHost loneNetwork {} with
  | error f =>
    rw [launched] at reached
    cases reached
  | ok d =>
    rw [launched] at reached
    obtain ⟨before, came⟩ := Prod.mk.inj (Option.some.inj reached)
    obtain ⟨drains, clean, -⟩ := teardown_is_clean launched lateClients (.refl _) byTurns
    obtain ⟨time, drained⟩ := drains fun time =>
      ⟨2 * time + 1, by omega, if_pos (by omega)⟩
    exact ⟨d, rfl, before, came, time, drained,
      ((clean time time drained (Nat.le_refl _)).2.2.2 0).1⟩

end SocketBridge
