import SocketBridge.Text.Utf8

/-!
# Decoders

A decoder is shown the filled part of a read buffer and answers with a payload and the number of
bytes it consumed; the rest is shown again with the next bytes.
-/

namespace SocketBridge

inductive DecodeError
  | invalidUtf8 (offset : Nat)
  | bufferFull (buffered : Nat)
  | trailing (buffered : Nat)
deriving DecidableEq

def DecodeError.message : DecodeError → String
  | invalidUtf8 offset => s!"invalid UTF-8 sequence at byte {offset}"
  | bufferFull buffered => s!"read buffer full with {buffered} undecodable bytes"
  | trailing buffered => s!"stream ended with {buffered} undecoded bytes"

/-- A decoder may remember what it was shown before, oldest first, and nothing else. -/
structure Decoder (α : Type) where
  decode : (shown : List (List UInt8)) → (filled : List UInt8) → Except DecodeError (α × Nat)

namespace Decoder

/-- Passes bytes on as they are. -/
def bytes : Decoder (List UInt8) := ⟨fun _ filled => .ok (filled, filled.length)⟩

/-- Decodes text and holds back a last character that is not complete. -/
def text : Decoder String :=
  ⟨fun _ filled =>
    let s := Utf8.scan filled
    match s.ending with
    | .invalid => .error (.invalidUtf8 (filled.length - s.rest.length))
    | _ => .ok (String.ofList s.chars, filled.length - s.rest.length)⟩

/-- Changes what a decoder's payloads are made of. -/
def map {α β : Type} (f : α → β) (d : Decoder α) : Decoder β :=
  ⟨fun shown filled => (d.decode shown filled).map fun (a, consumed) => (f a, consumed)⟩

end Decoder

end SocketBridge
