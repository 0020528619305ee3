import SocketBridge.Broadcast

/-!
# Shutdown

A coordinator triggers the shutdown over a channel that keeps one signal. A listener has fired once
it finds anything but an empty channel: a trigger, that it missed some, or that the coordinator is
gone.
-/

namespace SocketBridge

/-- A listener with the signal it has come to; once it has fired it stays so. -/
structure ShutdownListener where
  id : Nat
  next : Nat
  fired : Bool := false
deriving DecidableEq

namespace ShutdownListener

/-- Looks without waiting. -/
def look (l : ShutdownListener) (b : Broadcast) : ShutdownListener × Bool :=
  if l.fired then (l, true)
  else
    let (found, next) := b.receive l.next
    let fired := found != .empty
    ({ l with next, fired }, fired)

/-- One poll of a wait, and whether the wait is over. -/
def poll (l : ShutdownListener) (b : Broadcast) : ShutdownListener × Bool :=
  if l.fired then (l, true)
  else
    match b.receive l.next with
    | (.empty, _) => (l, false)
    | (_, next) => ({ l with next, fired := true }, true)

end ShutdownListener

structure Shutdown where
  channel : Broadcast := { capacity := 1 }
  subscribed : Nat := 0
  listeners : List ShutdownListener := []

namespace Shutdown

/-- Whether the coordinator is there. -/
def alive (s : Shutdown) : Bool := !s.channel.closed

/-- Adds a listener; none once the coordinator is gone. -/
def subscribe (s : Shutdown) : Shutdown × Option Nat :=
  if s.alive then
    let (channel, next) := s.channel.subscribe
    ({ channel, subscribed := s.subscribed + 1,
       listeners := s.listeners ++ [{ id := s.subscribed, next }] }, some s.subscribed)
  else (s, none)

/-- How many listeners there are, while there is a coordinator to ask. -/
def receivers? (s : Shutdown) : Option Nat := if s.alive then some s.channel.receivers else none

/-- Triggers; tells how many listeners are reached. -/
def trigger (s : Shutdown) : Shutdown × Option Nat :=
  if s.alive then
    let (channel, reached) := s.channel.send
    ({ s with channel }, some (reached.getD 0))
  else (s, none)

/-- Lets a listener turn to the channel; no answer when there is no such listener. -/
def ask (s : Shutdown) (id : Nat) (f : ShutdownListener → Broadcast → ShutdownListener × Bool) :
    Shutdown × Option Bool :=
  ({ s with listeners := s.listeners.map fun l => if l.id = id then (f l s.channel).1 else l },
    (s.listeners.find? (·.id == id)).map fun l => (f l s.channel).2)

/-- Lets a listener look whether it has fired. -/
def look (s : Shutdown) (id : Nat) : Shutdown × Option Bool := s.ask id ShutdownListener.look

/-- Polls the wait of a listener; tells whether it is over. -/
def wait (s : Shutdown) (id : Nat) : Shutdown × Option Bool := s.ask id ShutdownListener.poll

def drop (s : Shutdown) (id : Nat) : Shutdown :=
  if s.listeners.any (·.id == id) then
    { s with channel := s.channel.leave, listeners := s.listeners.filter (·.id != id) }
  else s

def dropCoordinator (s : Shutdown) : Shutdown := { s with channel := s.channel.close }

end Shutdown

end SocketBridge
