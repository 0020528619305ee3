import SocketBridge.Proofs.Record.Failure
import SocketBridge.Proofs.Record.RoundTrip
import SocketBridge.Record.Cursor

/-!
# Reading on after failures

Calls are made of one reader, one after another, whether the last one failed or not. What a cursor
has not passed yet is what is left to the plain reader, so that the two give the same answers. What
each call passes over is told by its answer.
-/

namespace SocketBridge.Record

variable {σ τ : Type}

section Calls

def FieldKind.getFrom (r : RecordReader σ) : FieldKind → EStateM RecordError σ Field
  | int => .int <$> r.getInt
  | text => .text <$> r.getText
  | block => .block <$> r.getBlock
  | address => .address <$> Address.read r

theorem getFrom_reader (kind : FieldKind) : kind.getFrom reader = kind.get := by
  cases kind with
  | int => rfl
  | text => rfl
  | block => rfl
  | address => rfl

/-- One call, with the states around it. -/
structure Call (σ : Type) where
  kind : FieldKind
  before : σ
  answer : Except RecordError Field
  after : σ

def Call.view (view : σ → τ) (call : Call σ) : Call τ :=
  ⟨call.kind, view call.before, call.answer, view call.after⟩

def call (r : RecordReader σ) (kind : FieldKind) (s : σ) : Call σ :=
  match kind.getFrom r s with
  | .ok field s' => ⟨kind, s, .ok field, s'⟩
  | .error e s' => ⟨kind, s, .error e, s'⟩

/-- Calls in turn. A failure is an answer, and the next call goes on behind it. -/
def calls (r : RecordReader σ) : List FieldKind → σ → List (Call σ)
  | [], _ => []
  | kind :: kinds, s => call r kind s :: calls r kinds (call r kind s).after

variable {view : σ → τ} {r : RecordReader σ} {r' : RecordReader τ}

theorem call_kind (kind : FieldKind) (s : σ) : (call r kind s).kind = kind := by
  unfold call
  split <;> rfl

theorem call_before (kind : FieldKind) (s : σ) : (call r kind s).before = s := by
  unfold call
  split <;> rfl

theorem map_kind_calls (kinds : List FieldKind) (s : σ) :
    (calls r kinds s).map Call.kind = kinds := by
  induction kinds generalizing s with
  | nil => rfl
  | cons kind kinds ih => rw [calls, List.map_cons, call_kind, ih]

theorem view_call {kind : FieldKind} (views : Views view (kind.getFrom r) (kind.getFrom r')) (s : σ) :
    (call r kind s).view view = call r' kind (view s) := by
  rw [call, call, views s]
  cases kind.getFrom r s with
  | ok field s' => rfl
  | error e s' => rfl

theorem map_view_calls (views : ∀ kind : FieldKind, Views view (kind.getFrom r) (kind.getFrom r'))
    (kinds : List FieldKind) (s : σ) :
    (calls r kinds s).map (Call.view view) = calls r' kinds (view s) := by
  induction kinds generalizing s with
  | nil => rfl
  | cons kind kinds ih =>
    have here := view_call (views kind) s
    rw [calls, calls, List.map_cons, ih, here, ← here]
    rfl

/-- What holds of every call holds of all calls in turn. -/
theorem forall_mem_calls {holds : Call σ → Prop} (one : ∀ kind s, holds (call r kind s))
    (kinds : List FieldKind) (s : σ) : ∀ c ∈ calls r kinds s, holds c := by
  induction kinds generalizing s with
  | nil => nofun
  | cons kind kinds ih =>
    exact List.forall_mem_cons.mpr ⟨one kind s, ih _⟩

end Calls

namespace Cursor

variable {bytes : List UInt8}

/-- What has not been passed yet. -/
def rest (c : Cursor bytes) : List UInt8 := bytes.drop c.pos

theorem length_rest (c : Cursor bytes) : c.rest.length = c.remaining := List.length_drop

theorem slice_eq (c : Cursor bytes) {n : Nat} (enough : n ≤ c.remaining) :
    c.slice n enough = c.rest.take n := by
  have length : (c.rest.take n).length = n := by
    rw [List.length_take, length_rest]
    omega
  unfold slice
  apply List.ext_getElem
  · rw [List.length_ofFn, length]
  · intro i _ _
    simp only [rest, List.getElem_ofFn, List.getElem_take, List.getElem_drop, List.get_eq_getElem]

theorem rest_skip (c : Cursor bytes) {n : Nat} (enough : n ≤ c.remaining) :
    (c.skip n enough).rest = c.rest.drop n := by
  rw [rest, rest, List.drop_drop]
  rfl

theorem take_apply (n : Nat) (c : Cursor bytes) : take n c =
    if short : c.remaining < n then .error (.truncated n c.remaining) c
    else .ok (c.slice n (Nat.le_of_not_lt short)) (c.skip n (Nat.le_of_not_lt short)) := by
  unfold take
  change (if short : c.remaining < n then _ else _ :
    EStateM RecordError (Cursor bytes) (List UInt8)) c = _
  by_cases short : c.remaining < n
  · rw [dif_pos short, dif_pos short]
    rfl
  · rw [dif_neg short, dif_neg short]
    rfl

theorem views_take (n : Nat) :
    Views (rest : Cursor bytes → List UInt8) (take n) (Record.take n) := by
  intro c
  rw [take_apply, Record.take_apply, length_rest]
  by_cases short : c.remaining < n
  · rw [if_pos short, dif_pos short]
  · have enough := Nat.le_of_not_lt short
    rw [if_neg short, dif_neg short, ← slice_eq c enough, ← rest_skip c enough]

end Cursor

section Views

variable {view : σ → τ} {take : Nat → EStateM RecordError σ (List UInt8)}
  {take' : Nat → EStateM RecordError τ (List UInt8)}

/-- Readers do the same where the same bytes are taken. -/
theorem views_get_readerOver (views : ∀ n, Views view (take n) (take' n)) (kind : PrimitiveKind) :
    Views view ((readerOver take).get kind) ((readerOver take').get kind) := by
  have int : Views view (readerOver take).getInt (readerOver take').getInt :=
    (views 4).map Bytes.toInt32
  have block : Views view (readerOver take).getBlock (readerOver take').getBlock := by
    refine int.bind fun n => ?_
    by_cases negative : n < 0
    · simp only [if_pos negative]
      exact (Views.throw _).bind fun _ => views _
    · simp only [if_neg negative]
      exact (Views.pure _).bind fun _ => views _
  cases kind with
  | int => exact int
  | text =>
    refine block.bind fun bs => ?_
    cases Utf8.decode? bs with
    | some cs => exact Views.pure _
    | none => exact Views.throw _
  | block => exact block

theorem views_getFrom {r : RecordReader σ} {r' : RecordReader τ}
    (views : ∀ kind, Views view (r.get kind) (r'.get kind)) (kind : FieldKind) :
    Views view (kind.getFrom r) (kind.getFrom r') := by
  cases kind with
  | int => exact (views .int).map Field.int
  | text => exact (views .text).map Field.text
  | block => exact (views .block).map Field.block
  | address =>
    have run := RecordPlan.views_run views Address.plan
    rw [← Address.read_eq_run, ← Address.read_eq_run] at run
    exact run.map Field.address

end Views

section Spends

def FieldKind.ofPrimitive : PrimitiveKind → FieldKind
  | .int => int
  | .text => text
  | .block => block

def Field.ofPrimitive : Primitive → Field
  | .int n => int n
  | .text s => text s
  | .block bs => block bs

theorem FieldKind.cases_ofPrimitive (kind : FieldKind) :
    kind = address ∨ ∃ primitive, kind = ofPrimitive primitive := by
  cases kind with
  | int => exact Or.inr ⟨.int, rfl⟩
  | text => exact Or.inr ⟨.text, rfl⟩
  | block => exact Or.inr ⟨.block, rfl⟩
  | address => exact Or.inl rfl

theorem getFrom_ofPrimitive (r : RecordReader σ) (kind : PrimitiveKind) :
    (FieldKind.ofPrimitive kind).getFrom r =
      (fun value => Field.ofPrimitive ⟨kind, value⟩) <$> r.get kind := by
  cases kind with
  | int => rfl
  | text => rfl
  | block => rfl

theorem put_ofPrimitive (p : Primitive) : (Field.ofPrimitive p).put = writer.put p :=
  match p with
  | .int _ => rfl
  | .text _ => rfl
  | .block _ => rfl

theorem kind_ofPrimitive (p : Primitive) : (Field.ofPrimitive p).kind = .ofPrimitive p.kind :=
  match p with
  | .int _ => rfl
  | .text _ => rfl
  | .block _ => rfl

/-- What a call takes, by its answer, and what it leaves. A value takes what is written of it. An
address that is not read takes what is written of the fields that were read, and what the call takes
that failed. -/
inductive Spends : FieldKind → Except RecordError Field → List UInt8 → List UInt8 → Prop
  | value (field : Field) {taken : List UInt8} (written : field.put [] = .ok () taken)
    (left : List UInt8) : Spends field.kind (.ok field) taken left
  | primitive {kind : PrimitiveKind} {e : RecordError} {taken left : List UInt8}
    (fails : Fails kind e taken left) : Spends (.ofPrimitive kind) (.error e) taken left
  | refused {got : List Primitive} {e : RecordError} {taken : List UInt8}
    (written : got.forM writer.put [] = .ok () taken) (refuses : Address.Refuses got e)
    (left : List UInt8) : Spends .address (.error e) taken left
  | cut {got : List Primitive} {kind : PrimitiveKind} {e : RecordError}
    {front taken left : List UInt8} (written : got.forM writer.put [] = .ok () front)
    (awaits : Address.Awaits got kind) (fails : Fails kind e taken left) :
    Spends .address (.error e) (front ++ taken) left

theorem Spends.truncated {kind : FieldKind} {needed remaining : Nat} {taken left : List UInt8}
    (spends : Spends kind (.error (.truncated needed remaining)) taken left) :
    remaining = left.length ∧ remaining < needed := by
  cases spends with
  | primitive fails => exact fails.truncated
  | refused _ refuses => cases refuses
  | cut _ _ fails => exact fails.truncated

variable {kind : FieldKind} {bs rest : List UInt8}

theorem spends_of_ok {field : Field} (read : kind.get bs = .ok field rest) :
    ∃ taken, bs = taken ++ rest ∧ Spends kind (.ok field) taken rest := by
  rcases kind.cases_ofPrimitive with rfl | ⟨primitive, rfl⟩
  · obtain ⟨a, got, rfl⟩ := map_eq_ok_iff.mp read
    obtain ⟨spelling, written, split⟩ := read_eq_ok_iff.mp got
    exact ⟨spelling, split, .value (.address a) written rest⟩
  · rw [← getFrom_reader, getFrom_ofPrimitive] at read
    obtain ⟨value, got, rfl⟩ := map_eq_ok_iff.mp read
    obtain ⟨rfl, fits⟩ := get_eq_ok_iff.mp got
    refine ⟨_, rfl, ?_⟩
    rw [← kind_ofPrimitive ⟨primitive, value⟩]
    refine .value _ ?_ rest
    rw [put_ofPrimitive]
    exact writes_put fits []

theorem spends_of_error {e : RecordError} (failed : kind.get bs = .error e rest) :
    ∃ taken, bs = taken ++ rest ∧ Spends kind (.error e) taken rest := by
  rcases kind.cases_ofPrimitive with rfl | ⟨primitive, rfl⟩
  · obtain ⟨got, taken, fits, rfl, outcome⟩ := read_eq_error_iff.mp (map_eq_error_iff.mp failed)
    have written : got.forM writer.put [] = .ok () (got.flatMap primitiveBytes) :=
      writes_forM_put fits []
    rcases outcome with ⟨refuses, rfl⟩ | ⟨kind, awaits, fails⟩
    · exact ⟨_, by rw [List.append_nil], .refused written refuses rest⟩
    · exact ⟨_, rfl, .cut written awaits fails⟩
  · rw [← getFrom_reader, getFrom_ofPrimitive, map_eq_error_iff] at failed
    obtain ⟨taken, split, fails⟩ := get_eq_error_iff.mp failed
    exact ⟨taken, split, .primitive fails⟩

theorem spends_call (kind : FieldKind) (bs : List UInt8) :
    ∃ taken, bs = taken ++ (call reader kind bs).after ∧
      Spends kind (call reader kind bs).answer taken (call reader kind bs).after := by
  rw [call, getFrom_reader]
  split
  · rename_i read
    exact spends_of_ok read
  · rename_i failed
    exact spends_of_error failed

end Spends

section Discipline

variable {bytes : List UInt8}

/-- What is kept by every call of a cursor. -/
structure Call.Lawful (c : Call (Cursor bytes)) : Prop where
  forward : c.before.pos ≤ c.after.pos
  inside : c.after.pos ≤ bytes.length
  spends : Spends c.kind c.answer (bytes.extract c.before.pos c.after.pos) c.after.rest
  truncated : ∀ needed remaining, c.answer = .error (.truncated needed remaining) →
    remaining = c.after.remaining ∧ remaining < needed

theorem views_getFrom_cursor (kind : FieldKind) :
    Views (Cursor.rest : Cursor bytes → List UInt8) (kind.getFrom Cursor.reader)
      (kind.getFrom reader) := by
  exact views_getFrom (views_get_readerOver Cursor.views_take) kind

/-- Between two cursors stands what one has passed and the other not. -/
theorem Cursor.extract_eq {c c' : Cursor bytes} {taken : List UInt8}
    (split : c.rest = taken ++ c'.rest) :
    c.pos ≤ c'.pos ∧ bytes.extract c.pos c'.pos = taken := by
  have lengths := congrArg List.length split
  rw [List.length_append, length_rest, length_rest, remaining, remaining] at lengths
  have inside := c.pos_le
  have inside' := c'.pos_le
  have passed : c'.pos - c.pos = taken.length := by omega
  refine ⟨by omega, ?_⟩
  rw [List.extract_eq_take_drop, passed]
  change c.rest.take taken.length = taken
  rw [split, List.take_left]

theorem lawful_call (kind : FieldKind) (c : Cursor bytes) :
    (call Cursor.reader kind c).Lawful := by
  obtain ⟨taken, split, spends⟩ := spends_call kind c.rest
  rw [← view_call (views_getFrom_cursor kind) c] at split spends
  obtain ⟨forward, between⟩ := Cursor.extract_eq split
  constructor
  · rwa [call_before]
  · exact (call Cursor.reader kind c).after.pos_le
  · rw [call_kind, call_before, between]
    exact spends
  · intro needed remaining answer
    have spent : Spends kind (.error (.truncated needed remaining)) taken
        (call Cursor.reader kind c).after.rest := by
      rw [← answer]
      exact spends
    rw [← Cursor.length_rest]
    exact spent.truncated

theorem pos_le_of_mem_calls {kinds : List FieldKind} {c : Cursor bytes} :
    ∀ later ∈ calls Cursor.reader kinds c, c.pos ≤ later.before.pos := by
  induction kinds generalizing c with
  | nil => nofun
  | cons kind kinds ih =>
    have forward := (lawful_call kind c).forward
    rw [call_before] at forward
    refine List.forall_mem_cons.mpr ⟨?_, fun later member => ?_⟩
    · exact Nat.le_of_eq (congrArg Cursor.pos (call_before kind c)).symm
    · exact Nat.le_trans forward (ih later member)

theorem pairwise_calls (kinds : List FieldKind) (c : Cursor bytes) :
    (calls Cursor.reader kinds c).Pairwise
      fun earlier later => earlier.after.pos ≤ later.before.pos := by
  induction kinds generalizing c with
  | nil => exact .nil
  | cons kind kinds ih => exact .cons pos_le_of_mem_calls (ih _)

/-- Whatever the bytes are and whatever is asked for, failures or not: the cursor never goes back and
never leaves the bytes, and each call takes what its answer says. A value takes what is written of
it. An integer or a length that is cut off takes nothing; a length that is negative or longer than
what is left is taken alone, and a block that is no text is taken whole. A failed address takes what
is written of the fields that were read, and what the call takes that failed. An error for missing
bytes has how many are left. The plain reader, whose state is what is left, gives the same
answers. -/
theorem cursor_discipline (bytes : List UInt8) (kinds : List FieldKind) :
    let run := calls Cursor.reader kinds (Cursor.start : Cursor bytes)
    run.map (Call.view Cursor.rest) = calls reader kinds bytes ∧ run.map Call.kind = kinds ∧
      run.Pairwise (fun earlier later => earlier.after.pos ≤ later.before.pos) ∧
        ∀ c ∈ run, c.Lawful :=
  ⟨(map_view_calls views_getFrom_cursor kinds Cursor.start :), map_kind_calls kinds Cursor.start,
    pairwise_calls kinds Cursor.start, forall_mem_calls lawful_call kinds Cursor.start⟩

/-- A text that is none, a negative length, a length with too little behind it, and no more than two
bytes for an integer. -/
example :
    let bytes := [1, 0, 0, 0, 0xFF, 0xFF, 0xFF, 0xFF, 0xFF, 9, 0, 0, 0, 7, 7]
    (calls Cursor.reader [.text, .text, .block, .int] (Cursor.start : Cursor bytes)).map
        (fun c => (c.answer, c.after.pos)) =
      [(.error .invalidUtf8, 5), (.error (.negativeLength (-1)), 9), (.error (.truncated 9 2), 13),
        (.error (.truncated 4 2), 13)] := by
  cbv

end Discipline

end SocketBridge.Record
