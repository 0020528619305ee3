import SocketBridge.Cancel
import SocketBridge.Decoder
import SocketBridge.Metrics
import SocketBridge.Queue
import SocketBridge.Stream.Buffer

/-!
# Streaming reads

A read goes on turn by turn: bytes from the host are put behind those not consumed yet, a decoder is
shown all of them, and those it leaves are moved to the front of the buffer. Data are numbered from
zero; the stream ends with one more record at most.
-/

namespace SocketBridge

/-- One record of a read. Data have a payload and a number, the end of the stream has only a number,
an error has neither. -/
structure ReadRecord (α : Type) where
  schedulee : Nat
  error : Option String := none
  payload : Option α := none
  sequence : Option Nat := none
deriving DecidableEq

def ReadRecord.isEndOfStream {α : Type} (r : ReadRecord α) : Bool :=
  r.error.isNone && r.payload.isNone

/-- One call of a decoder: what it was shown and what it answered. -/
structure DecodeCall (α : Type) where
  filled : List UInt8
  answer : Except DecodeError (α × Nat)

/-- A read that runs: its buffer, and what it has shown its decoder. -/
structure ReadLoop (α : Type) where
  task : Task
  decoder : Decoder α
  buffer : ReadBuffer
  shown : List (List UInt8) := []

/-- What comes of one turn: the read that goes on, a record, the bytes that were received, the call
of the decoder, and what is counted before the record is told. -/
structure ReadTurn (α : Type) where
  next : Option (ReadLoop α) := none
  record : Option (ReadRecord α) := none
  received : List UInt8 := []
  call : Option (DecodeCall α) := none
  marks : List Mark := []

namespace ReadLoop

variable {α : Type}

def start (task : Task) (decoder : Decoder α) (size : Nat) : ReadLoop α :=
  { task, decoder, buffer := .empty size }

/-- Shows the decoder what is in the buffer, with new bytes behind it. -/
def decode (r : ReadLoop α) (received : List UInt8) : DecodeCall α :=
  let filled := (r.buffer.put received).held
  ⟨filled, r.decoder.decode r.shown filled⟩

/-- The record of a payload. -/
def data (r : ReadLoop α) (payload : α) : ReadRecord α :=
  { schedulee := r.task.schedulee, payload := some payload, sequence := some r.task.sequence }

/-- The record of the end of the stream. -/
def ending (r : ReadLoop α) : ReadRecord α :=
  { schedulee := r.task.schedulee, sequence := some r.task.sequence }

/-- The record of a failed read. -/
def failure (r : ReadLoop α) (text : String) : ReadRecord α :=
  { schedulee := r.task.schedulee, error := some text }

/-- The read fails. -/
def fail (r : ReadLoop α) (text : String) : ReadTurn α :=
  { record := some (r.failure text), marks := [.completion .read false] }

/-- No more bytes will come. -/
def finish (r : ReadLoop α) : ReadTurn α :=
  if 0 < r.buffer.filled then r.fail (DecodeError.trailing r.buffer.filled).message
  else { record := some r.ending, marks := [.completion .read true] }

/-- Bytes have come, and are counted before the decoder sees them. It cannot consume more than it
was shown. -/
def receive (r : ReadLoop α) (received : List UInt8) : ReadTurn α :=
  let buffer := r.buffer.put received
  let call := r.decode received
  let shown := r.shown ++ [call.filled]
  let turn : ReadTurn α :=
    match call.answer with
    | .error e => r.fail e.message
    | .ok (payload, reported) =>
      let consumed := min reported buffer.filled
      if consumed = 0 then
        if buffer.filled = buffer.size then r.fail (DecodeError.bufferFull buffer.filled).message
        else { next := some { r with buffer, shown } }
      else
        { next := some { r with task := r.task.advance, buffer := buffer.consume consumed, shown }
          record := some (r.data payload)
          marks := [.completion .read true] }
  { turn with received, call := some call, marks := .bytesRead received.length :: turn.marks }

/-- One turn, given whether the socket is cancelled and what the host answers: nothing yet, a
failure or bytes, where no bytes are the end of the stream. Bytes for which there is no room are
left with the host. -/
def turn (r : ReadLoop α) (cancelled : Bool) (answer : Poll (List UInt8) String) : ReadTurn α :=
  match race cancelled answer with
  | none => { next := some r }
  | some .cancelled => {}
  | some (.failed text) => r.fail text
  | some (.succeeded bytes) =>
    let received := bytes.take r.buffer.free
    if received.isEmpty then r.finish else r.receive received

end ReadLoop

end SocketBridge
