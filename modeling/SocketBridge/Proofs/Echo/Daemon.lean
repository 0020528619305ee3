import SocketBridge.Echo.Daemon
import SocketBridge.Proofs.Echo.Mail

/-!
# Runs of the echo daemon

An event is a record that the scheduler handles, the end of all connections, or a poll of something
that runs on the bridge. Each makes the bridge take some steps. A socket is cancelled by the
scheduler only, so no poll cancels it.
-/

namespace SocketBridge

/-- What may happen to a daemon. -/
inductive DaemonEvent
  | handles
  | closes
  | accepts (loop : Nat) (answer : Poll (Except String Link) String)
  | reads (socket : Nat) (ready : Option (Except String (List UInt8)))
  | writes (socket : Nat) (ready : Option (Except String Nat))

/-- A command as a step of the bridge. -/
def EchoCommand.step : EchoCommand → Step (List UInt8)
  | read socket token => .read socket .bytes { schedulee := token }
  | write socket data token => .write socket data { schedulee := token }
  | shutdownWrite socket => .shutdownWrite socket
  | cancel socket => .cancelSocket socket
  | drop socket => .dropSocket socket
  | dropListener listener => .dropListener listener

namespace Daemon

/-- The steps that the bridge takes at an event. -/
def moves (d : Daemon) : DaemonEvent → List (Step (List UInt8))
  | .handles =>
    match d.world.take 0 with
    | (_, none) => []
    | (w, some c) => .take 0 :: (d.scheduler.handle (starts w c) c).2.map EchoCommand.step
  | .closes => d.scheduler.closeAll.2.map EchoCommand.step
  | .accepts loop answer => [.pollAccept d.listener loop answer]
  | .reads socket ready => [.pollRead socket { ready }]
  | .writes socket ready => [.pollWrite socket { ready }]

def step (d : Daemon) : DaemonEvent → Daemon
  | .handles => d.next.1
  | .closes => d.closeAll
  | .accepts loop answer => { d with world := d.world.pollAccept d.listener loop answer }
  | .reads socket ready => { d with world := d.world.pollRead socket { ready } }
  | .writes socket ready => { d with world := d.world.pollWrite socket { ready } }

def run (d : Daemon) : List DaemonEvent → Daemon
  | [] => d
  | e :: events => (d.step e).run events

/-- What the scheduler is given at an event. -/
def hands (d : Daemon) : DaemonEvent → List EchoEvent
  | .handles =>
    match d.world.take 0 with
    | (_, none) => []
    | (w, some c) => [.record (starts w c) c]
  | .closes => [.closeAll]
  | .accepts .. | .reads .. | .writes .. => []

/-- All that the scheduler is given in a run. -/
def handled (d : Daemon) : List DaemonEvent → List EchoEvent
  | [] => []
  | e :: events => d.hands e ++ (d.step e).handled events

/-- All steps that the bridge takes in a run. -/
def trace (d : Daemon) : List DaemonEvent → List (Step (List UInt8))
  | [] => []
  | e :: events => d.moves e ++ (d.step e).trace events

theorem obey_commands (w : World (List UInt8)) (commands : List EchoCommand) :
    commands.foldl obey w = w.run (commands.map EchoCommand.step) := by
  induction commands generalizing w with
  | nil => rfl
  | cons command commands ih =>
    rw [List.foldl_cons, ih, List.map_cons, World.run_cons]
    cases command <;> rfl

/-- The bridge of a daemon changes by the steps that its events make. -/
theorem world_step (d : Daemon) (e : DaemonEvent) :
    (d.step e).world = d.world.run (d.moves e) := by
  cases e with
  | accepts | reads | writes => rfl
  | closes => exact obey_commands _ _
  | handles =>
    rcases popped : d.world.take 0 with ⟨w, _ | c⟩
    · simp only [step, next, moves, popped]
      rfl
    · simp only [step, next, moves, popped, World.run_cons, World.step]
      exact obey_commands _ _

theorem world_run (d : Daemon) (events : List DaemonEvent) :
    (d.run events).world = d.world.run (d.trace events) := by
  induction events generalizing d with
  | nil => rfl
  | cons e events ih => rw [run, ih, trace, World.run_append, world_step]

theorem scheduler_step (d : Daemon) (e : DaemonEvent) :
    (d.step e).scheduler = d.scheduler.run (d.hands e) := by
  cases e with
  | accepts | reads | writes => rfl
  | closes => rfl
  | handles =>
    rcases popped : d.world.take 0 with ⟨w, _ | c⟩
    · simp only [step, next, hands, popped]
      rfl
    · simp only [step, next, hands, popped]
      rfl

theorem scheduler_run (d : Daemon) (events : List DaemonEvent) :
    (d.run events).scheduler = d.scheduler.run (d.handled events) := by
  induction events generalizing d with
  | nil => rfl
  | cons e events ih => rw [run, ih, handled, Scheduler.run_append, scheduler_step]

end Daemon

end SocketBridge
