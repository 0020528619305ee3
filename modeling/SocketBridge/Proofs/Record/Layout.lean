import SocketBridge.Proofs.Bytes
import SocketBridge.Proofs.Record.Fields
import SocketBridge.Proofs.Text.Utf8
import SocketBridge.Record.Layout

/-!
# What is written and what reads it

A write is described by the bytes that it adds, a read by the bytes that it takes off the front,
whatever stands behind them. A record is described field by field, each by the bytes that it has for
itself.
-/

namespace SocketBridge.Record

variable {α β : Type}

/-- Writing succeeds and adds these bytes behind all that is there. -/
def Writes (write : EStateM RecordError (List UInt8) α) (bytes : List UInt8) (a : α) : Prop :=
  ∀ before, write before = .ok a (before ++ bytes)

/-- Reading takes exactly these bytes, whatever follows them, and gives a value. -/
def Reads (read : EStateM RecordError (List UInt8) α) (bytes : List UInt8) (a : α) : Prop :=
  ∀ more, read (bytes ++ more) = .ok a more

theorem Writes.pure (a : α) : Writes (pure a) [] a := fun before => by
  rw [List.append_nil]
  rfl

theorem Writes.bind {first : EStateM RecordError (List UInt8) α}
    {next : α → EStateM RecordError (List UInt8) β} {bytes more : List UInt8} {a : α} {b : β}
    (here : Writes first bytes a) (there : Writes (next a) more b) :
    Writes (first >>= next) (bytes ++ more) b := by
  intro before
  change EStateM.bind first next before = _
  rw [EStateM.bind, here before, ← List.append_assoc]
  exact there _

theorem Reads.pure (a : α) : Reads (pure a) [] a := fun _ => rfl

theorem Reads.bind {first : EStateM RecordError (List UInt8) α}
    {next : α → EStateM RecordError (List UInt8) β} {bytes more : List UInt8} {a : α} {b : β}
    (here : Reads first bytes a) (there : Reads (next a) more b) :
    Reads (first >>= next) (bytes ++ more) b := by
  intro behind
  change EStateM.bind first next _ = _
  rw [EStateM.bind, List.append_assoc, here]
  exact there behind

theorem Reads.map {read : EStateM RecordError (List UInt8) α} {bytes : List UInt8} {a : α}
    (here : Reads read bytes a) (f : α → β) : Reads (f <$> read) bytes (f a) := by
  intro behind
  change EStateM.map f read _ = _
  rw [EStateM.map, here]

/-- The bytes of a block: its length, and then it. -/
def blockBytes (bs : List UInt8) : List UInt8 := Bytes.ofInt32 (Int32.ofNat bs.length) ++ bs

def textBytes (s : String) : List UInt8 := blockBytes (Utf8.bytesOf s)

/-- The bytes of one address. -/
def addressBytes (a : Address) : List UInt8 :=
  Bytes.ofInt32 a.family.code ++ textBytes (a.hostname.getD "") ++ blockBytes a.octets ++
    Bytes.ofInt32 (Int32.ofNat a.port.toNat) ++
    if a.family = .inet6 then Bytes.ofInt32 (a.scope.getD 0).toInt32 else []

theorem writes_putInt (n : Int32) : Writes (putInt n) (Bytes.ofInt32 n) () := fun _ => rfl

theorem writes_putBlock {bs : List UInt8} (fits : bs.length < maxLength) :
    Writes (putBlock bs) (blockBytes bs) () := by
  have room : ¬ maxLength ≤ bs.length := by omega
  unfold putBlock
  rw [if_neg room]
  exact Writes.bind (writes_putInt _) fun _ => rfl

theorem encode_toList (s : String) : Utf8.encode s.toList = Utf8.bytesOf s := by
  rw [← Utf8.bytesOf_ofList, String.ofList_toList]

theorem writes_putText {s : String} (fits : s.utf8ByteSize < maxLength) :
    Writes (putText s) (textBytes s) () := by
  rw [putText, encode_toList]
  exact writes_putBlock fits

theorem take_apply (n : Nat) (bs : List UInt8) :
    take n bs = if bs.length < n then .error (.truncated n bs.length) bs
      else .ok (bs.take n) (bs.drop n) := by
  unfold take
  change (if bs.length < n then _ else _ : EStateM RecordError (List UInt8) (List UInt8)) bs = _
  by_cases short : bs.length < n
  · rw [if_pos short, if_pos short]
    rfl
  · rw [if_neg short, if_neg short]
    rfl

theorem getBlock_eq : getBlock = (do
    let n ← getInt
    if n < 0 then throw (.negativeLength n)
    take n.toInt.toNat) := rfl

theorem getText_eq : getText = (do
    match Utf8.decode? (← getBlock) with
    | some cs => return String.ofList cs
    | none => throw .invalidUtf8) := rfl

theorem reads_take (bs : List UInt8) : Reads (take bs.length) bs bs := by
  intro more
  have enough : ¬ (bs ++ more).length < bs.length := by
    rw [List.length_append]
    omega
  rw [take_apply, if_neg enough, List.take_left, List.drop_left]

theorem reads_getInt (n : Int32) : Reads getInt (Bytes.ofInt32 n) n := by
  have four := (reads_take (Bytes.ofInt32 n)).map Bytes.toInt32
  rwa [Bytes.length_ofInt32, Bytes.toInt32_ofInt32] at four

/-- A length that fits is not negative and comes back as it was. -/
theorem toInt_ofNat_length {n : Nat} (fits : n < maxLength) : (Int32.ofNat n).toInt = n :=
  Int32.toInt_ofNat_of_lt (by rw [maxLength] at fits; omega)

theorem not_ofNat_length_neg {n : Nat} (fits : n < maxLength) : ¬ Int32.ofNat n < 0 := by
  rw [Int32.lt_iff_toInt_lt, toInt_ofNat_length fits]
  exact Int.not_lt.mpr (Int.natCast_nonneg _)

theorem reads_getBlock {bs : List UInt8} (fits : bs.length < maxLength) :
    Reads getBlock (blockBytes bs) bs := by
  refine Reads.bind (reads_getInt _) ?_
  rw [if_neg (not_ofNat_length_neg fits), toInt_ofNat_length fits]
  exact reads_take bs

theorem decode?_bytesOf (s : String) : Utf8.decode? (Utf8.bytesOf s) = some s.toList := by
  have read := Utf8.scan_encode_append s.toList []
  rw [List.append_nil, encode_toList, Utf8.scan_nil] at read
  simp only [Utf8.decode?, read, if_true, List.append_nil]

theorem reads_getText {s : String} (fits : s.utf8ByteSize < maxLength) :
    Reads getText (textBytes s) s := by
  have read : Reads getBlock (textBytes s) (Utf8.bytesOf s) := reads_getBlock fits
  rw [← List.append_nil (textBytes s)]
  refine Reads.bind read ?_
  rw [decode?_bytesOf]
  simpa only [String.ofList_toList] using Reads.pure (String.ofList s.toList)

/-- Whether what is written in one call has a length that can be written in front of it. -/
def Fits : Primitive → Prop
  | .int _ => True
  | .text s => s.utf8ByteSize < maxLength
  | .block bs => bs.length < maxLength

def primitiveBytes : Primitive → List UInt8
  | .int n => Bytes.ofInt32 n
  | .text s => textBytes s
  | .block bs => blockBytes bs

theorem writes_put {p : Primitive} (fits : Fits p) : Writes (writer.put p) (primitiveBytes p) () :=
  match p with
  | .int n => writes_putInt n
  | .text _ => writes_putText fits
  | .block _ => writes_putBlock fits

theorem reads_get {p : Primitive} (fits : Fits p) :
    Reads (reader.get p.kind) (primitiveBytes p) p.value :=
  match p with
  | .int n => reads_getInt n
  | .text _ => reads_getText fits
  | .block _ => reads_getBlock fits

theorem writes_forM_put {ps : List Primitive} (fits : ∀ p ∈ ps, Fits p) :
    Writes (ps.forM writer.put) (ps.flatMap primitiveBytes) () := by
  induction ps with
  | nil => exact Writes.pure ()
  | cons p ps ih =>
    obtain ⟨here, there⟩ := List.forall_mem_cons.mp fits
    exact (writes_put here).bind (ih there)

/-- What is written of some values gives them back and leaves what stands behind it. -/
theorem gives_of_fits {ps : List Primitive} (fits : ∀ p ∈ ps, Fits p) (more : List UInt8) :
    reader.Gives (ps.flatMap primitiveBytes ++ more) ps more := by
  induction ps with
  | nil => exact .nil more
  | cons p ps ih =>
    obtain ⟨here, there⟩ := List.forall_mem_cons.mp fits
    refine .cons ?_ (ih there)
    rw [List.flatMap_cons, List.append_assoc]
    exact reads_get here _

theorem addressBytes_eq (a : Address) : addressBytes a = a.fields.flatMap primitiveBytes := by
  unfold addressBytes Address.fields
  by_cases zoned : a.family = .inet6
  · simp [zoned, primitiveBytes]
  · simp [zoned, primitiveBytes]

theorem length_octets_lt (a : Address) : a.octets.length < maxLength := by
  rw [a.length_octets]
  split <;> decide

/-- Only a name can be too long for a record. -/
theorem fits_fields_iff (a : Address) :
    (∀ p ∈ a.fields, Fits p) ↔ (a.hostname.getD "").utf8ByteSize < maxLength := by
  have raw := length_octets_lt a
  unfold Address.fields
  constructor
  · intro fits
    exact fits (.text _) (by simp)
  · intro name p member
    rcases List.mem_append.mp member with front | zone
    · simp only [List.mem_cons, List.not_mem_nil, or_false] at front
      rcases front with rfl | rfl | rfl | rfl
      · trivial
      · exact name
      · exact raw
      · trivial
    · split at zone
      · rw [List.mem_singleton.mp zone]
        trivial
      · cases zone

theorem writes_address {a : Address} (fits : (a.hostname.getD "").utf8ByteSize < maxLength) :
    Writes (a.write writer) (addressBytes a) () := by
  rw [a.write_eq_forM, addressBytes_eq]
  exact writes_forM_put ((fits_fields_iff a).mpr fits)

theorem reads_address {a : Address} (fits : (a.hostname.getD "").utf8ByteSize < maxLength) :
    Reads (Address.read reader) (addressBytes a) a := by
  intro more
  rw [addressBytes_eq]
  exact Address.read_eq_ok_iff_gives.mpr (gives_of_fits ((fits_fields_iff a).mpr fits) more)

end SocketBridge.Record
