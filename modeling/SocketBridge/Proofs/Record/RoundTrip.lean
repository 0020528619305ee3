import SocketBridge.Proofs.Record.Layout

/-!
# Round trips of streams

Values of several kinds are written one after another and read back by their kinds. Nothing in the
bytes tells the kinds, so that reader and writer have to agree on them.
-/

namespace SocketBridge.Record

/-- A value in a stream. -/
inductive Field
  | int (n : Int32)
  | text (s : String)
  | block (bs : List UInt8)
  | address (a : Address)
deriving DecidableEq

inductive FieldKind
  | int | text | block | address
deriving DecidableEq

namespace Field

def kind : Field → FieldKind
  | int _ => .int
  | text _ => .text
  | block _ => .block
  | address _ => .address

def put : Field → EStateM RecordError (List UInt8) Unit
  | int n => writer.putInt n
  | text s => writer.putText s
  | block bs => writer.putBlock bs
  | address a => a.write writer

/-- Whether all lengths in a value can be written in front of it. -/
def Fits : Field → Prop
  | int _ => True
  | text s => s.utf8ByteSize < 2 ^ 31
  | block bs => bs.length < 2 ^ 31
  | address a => (a.hostname.getD "").utf8ByteSize < 2 ^ 31

instance (field : Field) : Decidable field.Fits :=
  match field with
  | int _ => isTrue trivial
  | text s => inferInstanceAs (Decidable (s.utf8ByteSize < 2 ^ 31))
  | block bs => inferInstanceAs (Decidable (bs.length < 2 ^ 31))
  | address a => inferInstanceAs (Decidable ((a.hostname.getD "").utf8ByteSize < 2 ^ 31))

def bytes : Field → List UInt8
  | int n => Bytes.ofInt32 n
  | text s => textBytes s
  | block bs => blockBytes bs
  | address a => addressBytes a

theorem writes_put {field : Field} (fits : field.Fits) : Writes field.put field.bytes () := by
  cases field with
  | int n => exact writes_putInt n
  | text s => exact writes_putText fits
  | block bs => exact writes_putBlock fits
  | address a => exact writes_address fits

end Field

def FieldKind.get : FieldKind → EStateM RecordError (List UInt8) Field
  | int => .int <$> reader.getInt
  | text => .text <$> reader.getText
  | block => .block <$> reader.getBlock
  | address => .address <$> Address.read reader

theorem Field.reads_get {field : Field} (fits : field.Fits) :
    Reads field.kind.get field.bytes field := by
  cases field with
  | int n => exact (reads_getInt n).map Field.int
  | text s => exact (reads_getText fits).map Field.text
  | block bs => exact (reads_getBlock fits).map Field.block
  | address a => exact (reads_address fits).map Field.address

def putAll : List Field → EStateM RecordError (List UInt8) Unit
  | [] => pure ()
  | field :: fields => do
    field.put
    putAll fields

def getAll : List FieldKind → EStateM RecordError (List UInt8) (List Field)
  | [] => pure []
  | kind :: kinds => do
    let field ← kind.get
    let fields ← getAll kinds
    return field :: fields

theorem writes_putAll {fields : List Field} (fits : ∀ field ∈ fields, field.Fits) :
    Writes (putAll fields) (fields.flatMap Field.bytes) () := by
  induction fields with
  | nil => exact Writes.pure ()
  | cons field fields ih =>
    obtain ⟨here, there⟩ := List.forall_mem_cons.mp fits
    exact (Field.writes_put here).bind (ih there)

theorem reads_getAll {fields : List Field} (fits : ∀ field ∈ fields, field.Fits) :
    Reads (getAll (fields.map Field.kind)) (fields.flatMap Field.bytes) fields := by
  induction fields with
  | nil => exact Reads.pure []
  | cons field fields ih =>
    obtain ⟨here, there⟩ := List.forall_mem_cons.mp fits
    exact (Field.reads_get here).bind ((ih there).map (field :: ·))

/-- Values that fit are written, and read back by their kinds as they were. What stands behind them
is not touched. -/
theorem stream_round_trip (fields : List Field) (fits : ∀ field ∈ fields, field.Fits) :
    ∃ bytes, putAll fields [] = .ok () bytes ∧
      ∀ more, getAll (fields.map Field.kind) (bytes ++ more) = .ok fields more :=
  ⟨fields.flatMap Field.bytes, writes_putAll fits [], reads_getAll fits⟩

/-- The highest zone, which is stored as a negative number, with a name. -/
def farAddress : Address where
  ip := .v6 ⟨List.replicate 16 0xFE, rfl⟩
  port := 65535
  scope := some 0xFFFFFFFF
  hostname := some "gate"
  scope_ne_zero := by decide
  scope_eq_none := nofun
  hostname_ne_empty := by decide

theorem stream_round_trip_of_far_address :
    let fields := [.int (-1), .text "", .address farAddress, .block [0xC3], .text "gate"]
    (Field.address farAddress ∈ fields ∧ ∀ field ∈ fields, field.Fits) ∧
      ∃ bytes, putAll fields [] = .ok () bytes ∧
        ∀ more, getAll (fields.map Field.kind) (bytes ++ more) = .ok fields more := by
  intro fields
  have fits : ∀ field ∈ fields, field.Fits := by decide
  exact ⟨⟨by decide, fits⟩, stream_round_trip fields fits⟩

end SocketBridge.Record
