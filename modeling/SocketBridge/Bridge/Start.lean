import SocketBridge.Bridge.Operation

/-!
# Starting a bridge

A bridge runs on workers of its own, on a runtime handed to it, or on the one around the caller.
-/

namespace SocketBridge

inductive RuntimeChoice
  | own
  | given
  | around (present : Bool)
deriving DecidableEq

/-- A missing runtime is reported before the settings are looked at. -/
def World.startBridge {α : Type} (w : World α) (r : RuntimeChoice) (c : IoConfig) :
    Except ChannelError (World α × Nat) :=
  if r = .around false then .error .noRuntime else w.addBridge c

/-- A bridge as text. -/
def bridgeText (r : RuntimeChoice) (active : Nat) : String :=
  "IoBridge \x7b owns_runtime: " ++ toString (decide (r = .own)) ++ ", active_handles: " ++
    toString active ++ " \x7d"

end SocketBridge
