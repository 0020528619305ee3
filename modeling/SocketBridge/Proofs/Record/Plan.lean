import SocketBridge.Record

/-!
# Reading by one question at a time

A plan is what is asked of a reader: which question comes next may hang on the answers so far and on
nothing else. What becomes of a plan is therefore told by the answers, whoever gives them. A reader
or a writer may keep a list of its calls and is no different for it.
-/

namespace SocketBridge

variable {σ τ κ α β : Type}

section Sequence

variable {x : EStateM RecordError σ α} {f : α → EStateM RecordError σ β} {s s' : σ}

theorem bind_eq_ok_iff {b : β} :
    (x >>= f) s = .ok b s' ↔ ∃ a between, x s = .ok a between ∧ f a between = .ok b s' := by
  change EStateM.bind x f s = _ ↔ _
  rw [EStateM.bind]
  cases x s with
  | ok a between =>
    constructor
    · intro done
      exact ⟨a, between, rfl, done⟩
    · rintro ⟨_, _, same, done⟩
      cases same
      exact done
  | error e between => simp

theorem bind_eq_error_iff {e : RecordError} : (x >>= f) s = .error e s' ↔
    x s = .error e s' ∨ ∃ a between, x s = .ok a between ∧ f a between = .error e s' := by
  change EStateM.bind x f s = _ ↔ _
  rw [EStateM.bind]
  cases x s with
  | ok a between =>
    constructor
    · intro failed
      exact Or.inr ⟨a, between, rfl, failed⟩
    · rintro (same | ⟨_, _, same, failed⟩)
      · cases same
      · cases same
        exact failed
  | error e between => simp

theorem map_eq_ok_iff {g : α → β} {b : β} :
    (g <$> x) s = .ok b s' ↔ ∃ a, x s = .ok a s' ∧ g a = b := by
  change EStateM.map g x s = _ ↔ _
  rw [EStateM.map]
  cases x s with
  | ok a between =>
    constructor
    · intro done
      cases done
      exact ⟨a, rfl, rfl⟩
    · rintro ⟨_, same, rfl⟩
      cases same
      rfl
  | error e between => simp

theorem map_eq_error_iff {g : α → β} {e : RecordError} :
    (g <$> x) s = .error e s' ↔ x s = .error e s' := by
  change EStateM.map g x s = _ ↔ _
  rw [EStateM.map]
  cases x s with
  | ok a between => simp
  | error e' between => simp

end Sequence

section Views

/-- What `y` does to what is seen of a state is what `x` does to the state. -/
def Views (view : σ → τ) (x : EStateM RecordError σ α) (y : EStateM RecordError τ α) : Prop :=
  ∀ s, y (view s) = match x s with
    | .ok a s' => .ok a (view s')
    | .error e s' => .error e (view s')

variable {view : σ → τ}

theorem Views.pure (a : α) :
    Views view (pure a : EStateM RecordError σ α) (pure a) := fun _ => rfl

theorem Views.throw (e : RecordError) :
    Views view (throw e : EStateM RecordError σ α) (throw e) := fun _ => rfl

theorem Views.bind {x : EStateM RecordError σ α} {y : EStateM RecordError τ α}
    {f : α → EStateM RecordError σ β} {g : α → EStateM RecordError τ β} (here : Views view x y)
    (there : ∀ a, Views view (f a) (g a)) : Views view (x >>= f) (y >>= g) := by
  intro s
  change EStateM.bind y g (view s) = match EStateM.bind x f s with
    | .ok a s' => _
    | .error e s' => _
  rw [EStateM.bind, EStateM.bind, here s]
  cases x s with
  | ok a s' => exact there a s'
  | error e s' => rfl

theorem Views.map {x : EStateM RecordError σ α} {y : EStateM RecordError τ α}
    (here : Views view x y) (f : α → β) : Views view (f <$> x) (f <$> y) := by
  intro s
  change EStateM.map f y (view s) = match EStateM.map f x s with
    | .ok b s' => _
    | .error e s' => _
  rw [EStateM.map, EStateM.map, here s]
  cases x s with
  | ok a s' => rfl
  | error e s' => rfl

end Views

/-- What one call writes or reads. -/
inductive PrimitiveKind
  | int | text | block
deriving DecidableEq

abbrev PrimitiveKind.Value : PrimitiveKind → Type
  | int => Int32
  | text => String
  | block => List UInt8

structure Primitive where
  kind : PrimitiveKind
  value : kind.Value

namespace Primitive

@[match_pattern] def int (n : Int32) : Primitive := ⟨.int, n⟩

@[match_pattern] def text (s : String) : Primitive := ⟨.text, s⟩

@[match_pattern] def block (bs : List UInt8) : Primitive := ⟨.block, bs⟩

end Primitive

/-- Calls that succeed, one after another. -/
inductive Along (call : σ → κ → σ → Prop) : σ → List κ → σ → Prop
  | nil (s : σ) : Along call s [] s
  | cons {s between s' : σ} {k : κ} {ks : List κ} (here : call s k between)
    (there : Along call between ks s') : Along call s (k :: ks) s'

theorem along_nil_iff {call : σ → κ → σ → Prop} {s s' : σ} : Along call s [] s' ↔ s' = s := by
  constructor
  · intro along
    cases along
    rfl
  · rintro rfl
    exact .nil s'

theorem along_cons_iff {call : σ → κ → σ → Prop} {s s' : σ} {k : κ} {ks : List κ} :
    Along call s (k :: ks) s' ↔ ∃ between, call s k between ∧ Along call between ks s' := by
  constructor
  · intro along
    cases along with
    | cons here there => exact ⟨_, here, there⟩
  · rintro ⟨between, here, there⟩
    exact .cons here there

section Log

/-- Keeps a list of calls beside the state. A call that fails is on it too. -/
def logCall (k : κ) (x : EStateM RecordError σ α) : EStateM RecordError (List κ × σ) α :=
  fun (calls, s) =>
    match x s with
    | .ok a s' => .ok a (calls ++ [k], s')
    | .error e s' => .error e (calls ++ [k], s')

variable {k : κ} {x : EStateM RecordError σ α} {calls : List κ} {s : σ} {after : List κ × σ}

theorem views_logCall : Views Prod.snd (logCall k x) x := by
  rintro ⟨calls, s⟩
  rw [logCall]
  cases x s with
  | ok a s' => rfl
  | error e s' => rfl

theorem logCall_eq_ok_iff {a : α} :
    logCall k x (calls, s) = .ok a after ↔ x s = .ok a after.2 ∧ after.1 = calls ++ [k] := by
  obtain ⟨calls', s'⟩ := after
  rw [logCall]
  cases x s with
  | ok b between => grind
  | error e between => simp

theorem logCall_eq_error_iff {e : RecordError} :
    logCall k x (calls, s) = .error e after ↔ x s = .error e after.2 ∧ after.1 = calls ++ [k] := by
  obtain ⟨calls', s'⟩ := after
  rw [logCall]
  cases x s with
  | ok b between => simp
  | error e between => grind

/-- Where each call puts its mark on the list, the list tells the calls. -/
theorem along_logged_iff {ι : Type} {mark : ι → κ} {call : σ → ι → σ → Prop}
    {logged : List κ × σ → ι → List κ × σ → Prop}
    (one : ∀ calls s i after,
      logged (calls, s) i after ↔ call s i after.2 ∧ after.1 = calls ++ [mark i])
    (is : List ι) :
    Along logged (calls, s) is after ↔ Along call s is after.2 ∧ after.1 = calls ++ is.map mark := by
  induction is generalizing calls s with
  | nil =>
    rw [along_nil_iff, along_nil_iff, List.map_nil, List.append_nil, Prod.ext_iff, and_comm]
  | cons i is ih =>
    rw [along_cons_iff, along_cons_iff]
    constructor
    · rintro ⟨⟨calls', between⟩, here, there⟩
      obtain ⟨made, rfl⟩ := (one ..).mp here
      obtain ⟨along, same⟩ := ih.mp there
      refine ⟨⟨between, made, along⟩, ?_⟩
      rw [same, List.append_assoc]
      rfl
    · rintro ⟨⟨between, made, along⟩, same⟩
      refine ⟨(calls ++ [mark i], between), (one ..).mpr ⟨made, rfl⟩, ih.mpr ⟨along, ?_⟩⟩
      rw [same, List.append_assoc]
      rfl

end Log

namespace RecordWriter

variable (w : RecordWriter σ)

def put : Primitive → EStateM RecordError σ Unit
  | .int n => w.putInt n
  | .text s => w.putText s
  | .block bs => w.putBlock bs

/-- The writer with a list of what was written by it. -/
def logged : RecordWriter (List Primitive × σ) where
  putInt n := logCall (.int n) (w.putInt n)
  putText s := logCall (.text s) (w.putText s)
  putBlock bs := logCall (.block bs) (w.putBlock bs)

/-- The writer takes some values, one after another, without a failure. -/
def Takes : σ → List Primitive → σ → Prop := Along fun s p s' => w.put p s = .ok () s'

variable {s s' : σ}

theorem put_logged (p : Primitive) : w.logged.put p = logCall p (w.put p) := by
  obtain ⟨kind, value⟩ := p
  cases kind with
  | int => rfl
  | text => rfl
  | block => rfl

theorem takes_logged_iff {calls ps : List Primitive} {after : List Primitive × σ} :
    w.logged.Takes (calls, s) ps after ↔ w.Takes s ps after.2 ∧ after.1 = calls ++ ps := by
  have marked : w.logged.Takes (calls, s) ps after ↔
      w.Takes s ps after.2 ∧ after.1 = calls ++ ps.map id :=
    along_logged_iff (fun _ _ p _ => by rw [put_logged]; exact logCall_eq_ok_iff) ps
  rwa [List.map_id] at marked

theorem forM_put_eq_ok_iff {ps : List Primitive} :
    ps.forM w.put s = .ok () s' ↔ w.Takes s ps s' := by
  induction ps generalizing s with
  | nil =>
    rw [Takes, along_nil_iff]
    constructor
    · intro done
      cases done
      rfl
    · rintro rfl
      rfl
  | cons p ps ih =>
    change (w.put p >>= fun _ => ps.forM w.put) s = _ ↔ _
    rw [bind_eq_ok_iff, Takes, along_cons_iff]
    constructor
    · rintro ⟨⟨⟩, between, here, there⟩
      exact ⟨between, here, ih.mp there⟩
    · rintro ⟨between, here, there⟩
      exact ⟨(), between, here, ih.mpr there⟩

/-- The first failure ends it, and is its own. -/
theorem forM_put_eq_error_iff {ps : List Primitive} {e : RecordError} :
    ps.forM w.put s = .error e s' ↔ ∃ taken p more between, ps = taken ++ p :: more ∧
      w.Takes s taken between ∧ w.put p between = .error e s' := by
  induction ps generalizing s with
  | nil =>
    constructor
    · nofun
    · rintro ⟨taken, p, more, _, split, _⟩
      exact absurd split.symm (List.append_ne_nil_of_right_ne_nil taken (List.cons_ne_nil p more))
  | cons p ps ih =>
    change (w.put p >>= fun _ => ps.forM w.put) s = _ ↔ _
    rw [bind_eq_error_iff]
    constructor
    · rintro (here | ⟨⟨⟩, between, here, there⟩)
      · exact ⟨[], p, ps, s, rfl, .nil s, here⟩
      · obtain ⟨taken, q, more, later, rfl, takes, failed⟩ := ih.mp there
        exact ⟨p :: taken, q, more, later, rfl, .cons here takes, failed⟩
    · rintro ⟨taken, q, more, later, split, takes, failed⟩
      cases taken with
      | nil =>
        obtain ⟨rfl, -⟩ := List.cons.inj split
        obtain rfl := along_nil_iff.mp takes
        exact Or.inl failed
      | cons first taken =>
        obtain ⟨rfl, tail⟩ := List.cons.inj split
        obtain ⟨between, here, there⟩ := along_cons_iff.mp takes
        exact Or.inr ⟨(), between, here, ih.mpr ⟨taken, q, more, later, tail, there, failed⟩⟩

theorem views_forM_put (ps : List Primitive) :
    Views Prod.snd (ps.forM w.logged.put) (ps.forM w.put) := by
  induction ps with
  | nil => exact Views.pure ()
  | cons p ps ih =>
    change Views Prod.snd (w.logged.put p >>= fun _ => ps.forM w.logged.put)
      (w.put p >>= fun _ => ps.forM w.put)
    rw [put_logged]
    exact views_logCall.bind fun _ => ih

end RecordWriter

namespace RecordReader

variable (r : RecordReader σ)

def get : (kind : PrimitiveKind) → EStateM RecordError σ kind.Value
  | .int => r.getInt
  | .text => r.getText
  | .block => r.getBlock

/-- The reader with a list of what it was asked for. -/
def logged : RecordReader (List PrimitiveKind × σ) where
  getInt := logCall .int r.getInt
  getText := logCall .text r.getText
  getBlock := logCall .block r.getBlock

/-- Asked for the kinds of some values, one after another, the reader gives these values. -/
def Gives : σ → List Primitive → σ → Prop := Along fun s p s' => r.get p.kind s = .ok p.value s'

theorem get_logged (kind : PrimitiveKind) : r.logged.get kind = logCall kind (r.get kind) := by
  cases kind with
  | int => rfl
  | text => rfl
  | block => rfl

theorem gives_logged_iff {s : σ} {calls : List PrimitiveKind} {ps : List Primitive}
    {after : List PrimitiveKind × σ} :
    r.logged.Gives (calls, s) ps after ↔
      r.Gives s ps after.2 ∧ after.1 = calls ++ ps.map Primitive.kind :=
  along_logged_iff (fun _ _ p _ => by rw [get_logged]; exact logCall_eq_ok_iff) ps

end RecordReader

/-- What is asked of a reader: an answer decides what is asked next. -/
inductive RecordPlan (α : Type)
  | done (a : α)
  | refuse (e : RecordError)
  | ask (kind : PrimitiveKind) (next : kind.Value → RecordPlan α)

namespace RecordPlan

def run (r : RecordReader σ) : RecordPlan α → EStateM RecordError σ α
  | done a => pure a
  | refuse e => throw e
  | ask kind next => do (next (← r.get kind)).run r

/-- What is left of a plan when some answers have been given. -/
inductive Leads : RecordPlan α → List Primitive → RecordPlan α → Prop
  | here (plan : RecordPlan α) : Leads plan [] plan
  | on {kind : PrimitiveKind} {next : kind.Value → RecordPlan α} {value : kind.Value}
    {got : List Primitive} {left : RecordPlan α} (later : Leads (next value) got left) :
    Leads (ask kind next) (⟨kind, value⟩ :: got) left

/-- A question is still there or has been answered. -/
theorem Leads.cases_ask {kind : PrimitiveKind} {next : kind.Value → RecordPlan α}
    {got : List Primitive} {left : RecordPlan α} (leads : Leads (ask kind next) got left) :
    (got = [] ∧ left = ask kind next) ∨
      ∃ value later, got = ⟨kind, value⟩ :: later ∧ Leads (next value) later left := by
  cases leads with
  | here => exact Or.inl ⟨rfl, rfl⟩
  | on later => exact Or.inr ⟨_, _, rfl, later⟩

/-- Before an answer there was the question. -/
theorem Leads.exists_ask {plan left : RecordPlan α} {got more : List Primitive} {p : Primitive}
    (leads : plan.Leads (got ++ p :: more) left) : ∃ next, plan.Leads got (ask p.kind next) := by
  induction got generalizing plan with
  | nil =>
    cases leads with
    | on later => exact ⟨_, .here _⟩
  | cons q got ih =>
    cases leads with
    | on later =>
      obtain ⟨next, before⟩ := ih later
      exact ⟨next, .on before⟩

variable {r : RecordReader σ} {s s' : σ} {plan : RecordPlan α}

theorem run_eq_ok_iff {a : α} :
    plan.run r s = .ok a s' ↔ ∃ got, plan.Leads got (.done a) ∧ r.Gives s got s' := by
  induction plan generalizing s with
  | done b =>
    constructor
    · intro done
      cases done
      exact ⟨[], .here _, .nil _⟩
    · rintro ⟨got, leads, gives⟩
      cases leads
      cases gives
      rfl
  | refuse e =>
    constructor
    · nofun
    · rintro ⟨got, leads, -⟩
      cases leads
  | ask kind next ih =>
    rw [run, bind_eq_ok_iff]
    constructor
    · rintro ⟨value, between, here, there⟩
      obtain ⟨got, leads, gives⟩ := (ih value).mp there
      exact ⟨⟨kind, value⟩ :: got, .on leads, .cons here gives⟩
    · rintro ⟨got, leads, gives⟩
      cases leads with
      | on later =>
        cases gives with
        | cons here there => exact ⟨_, _, here, (ih _).mpr ⟨_, later, there⟩⟩

/-- A failure is a refusal of what was read or the failure of the next call. -/
theorem run_eq_error_iff {e : RecordError} : plan.run r s = .error e s' ↔
    ∃ got between, r.Gives s got between ∧ ((plan.Leads got (.refuse e) ∧ s' = between) ∨
      ∃ kind next, plan.Leads got (.ask kind next) ∧ r.get kind between = .error e s') := by
  induction plan generalizing s with
  | done a =>
    constructor
    · nofun
    · rintro ⟨got, between, -, ⟨leads, -⟩ | ⟨kind, next, leads, -⟩⟩
      · cases leads
      · cases leads
  | refuse e' =>
    constructor
    · intro failed
      cases failed
      exact ⟨[], _, .nil _, Or.inl ⟨.here _, rfl⟩⟩
    · rintro ⟨got, between, gives, ⟨leads, rfl⟩ | ⟨kind, next, leads, -⟩⟩
      · cases leads
        cases gives
        rfl
      · cases leads
  | ask kind next ih =>
    rw [run, bind_eq_error_iff]
    constructor
    · rintro (here | ⟨value, between, here, there⟩)
      · exact ⟨[], s, .nil s, Or.inr ⟨kind, next, .here _, here⟩⟩
      · obtain ⟨got, later, gives, ⟨leads, rfl⟩ | ⟨asked, after, leads, failed⟩⟩ :=
          (ih value).mp there
        · exact ⟨⟨kind, value⟩ :: got, _, .cons here gives, Or.inl ⟨.on leads, rfl⟩⟩
        · exact ⟨⟨kind, value⟩ :: got, _, .cons here gives,
            Or.inr ⟨asked, after, .on leads, failed⟩⟩
    · rintro ⟨got, later, gives, ⟨leads, rfl⟩ | ⟨asked, after, leads, failed⟩⟩
      · cases leads with
        | on leads =>
          cases gives with
          | cons here there =>
            exact Or.inr ⟨_, _, here, (ih _).mpr ⟨_, _, there, Or.inl ⟨leads, rfl⟩⟩⟩
      · cases leads with
        | here =>
          cases gives
          exact Or.inl failed
        | on leads =>
          cases gives with
          | cons here there =>
            exact Or.inr ⟨_, _, here, (ih _).mpr ⟨_, _, there, Or.inr ⟨_, _, leads, failed⟩⟩⟩

/-- A plan takes two readers the same way if each question does. -/
theorem views_run {view : σ → τ} {r : RecordReader σ} {r' : RecordReader τ}
    (get : ∀ kind, Views view (r.get kind) (r'.get kind)) (plan : RecordPlan α) :
    Views view (plan.run r) (plan.run r') := by
  induction plan with
  | done a => exact Views.pure a
  | refuse e => exact Views.throw e
  | ask kind next ih => exact (get kind).bind ih

end RecordPlan

end SocketBridge
