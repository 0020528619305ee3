import SocketBridge.Connect

/-!
# Accept loops

A loop takes clients from its listener one by one. It ends silently when the listener is cancelled
and with one failure otherwise.
-/

namespace SocketBridge

/-- What comes of one turn of an accept loop: whether it goes on, and a client or a failure. -/
structure AcceptTurn where
  continues : Bool
  result : Option (Except String Link) := none

/-- One turn, given whether the listener is cancelled and what the host answers. A client whose ends
cannot be told ends the loop as a failed accept does. -/
def acceptTurn (cancelled : Bool) (answer : Poll (Except String Link) String) : AcceptTurn :=
  match race cancelled answer with
  | none => ⟨true, none⟩
  | some .cancelled => ⟨false, none⟩
  | some (.failed text) => ⟨false, some (.error text)⟩
  | some (.succeeded (.error text)) => ⟨false, some (.error text)⟩
  | some (.succeeded (.ok link)) => ⟨true, some (.ok link)⟩

end SocketBridge
