import SocketBridge.Cancel
import SocketBridge.Metrics
import SocketBridge.Queue

/-!
# Ordered writes

Writes and half-closes wait in one line per socket. Each write is given to the host once, and its
record tells how many of its bytes were taken.
-/

namespace SocketBridge

inductive WriteCommand
  | write (data : List UInt8) (task : Task)
  | shutdown
deriving DecidableEq

structure WriteRecord where
  schedulee : Nat
  error : Option String := none
  bytesWritten : Nat := 0
deriving DecidableEq

/-- The writing half of a socket, with what the host has taken so far. -/
structure Writer where
  commands : List WriteCommand := []
  running : Bool := true
  taken : List UInt8 := []
  halfClosed : Bool := false
deriving DecidableEq

/-- What comes of one turn: the line, a record with its task, and what is counted before the record
is told. -/
structure WriteTurn where
  next : Writer
  record : Option (Task × WriteRecord) := none
  marks : List Mark := []
deriving DecidableEq

namespace Writer

/-- Puts a command in line, unless the line is closed. -/
def push (w : Writer) (c : WriteCommand) : Writer := { w with commands := w.commands ++ [c] }

/-- Closes the line; what waits in it is dropped without records. -/
def stop (w : Writer) : Writer := { w with commands := [], running := false }

/-- One turn, given whether the socket is cancelled, whether its last handle is gone, and what the
host answers to the first command: nothing yet, a failure or a number of bytes taken. -/
def turn (w : Writer) (cancelled unreachable : Bool) (answer : Poll Nat String) : WriteTurn :=
  if cancelled then ⟨w.stop, none, []⟩
  else match w.commands with
    | [] => ⟨if unreachable then w.stop else w, none, []⟩
    | .write data task :: rest =>
      match race cancelled answer with
      | none => ⟨w, none, []⟩
      | some .cancelled => ⟨w.stop, none, []⟩
      | some (.failed text) =>
        ⟨{ w with commands := rest },
          some (task, { schedulee := task.schedulee, error := some text }),
          [.completion .write false]⟩
      | some (.succeeded n) =>
        ⟨{ w with commands := rest, taken := w.taken ++ data.take n },
          some (task, { schedulee := task.schedulee, bytesWritten := n }),
          [.completion .write true, .bytesWritten n]⟩
    | .shutdown :: rest =>
      match race cancelled answer with
      | none => ⟨w, none, []⟩
      | some (.succeeded _) => ⟨{ w with commands := rest, halfClosed := true }, none, []⟩
      | some _ => ⟨{ w with commands := rest }, none, []⟩

end Writer

end SocketBridge
