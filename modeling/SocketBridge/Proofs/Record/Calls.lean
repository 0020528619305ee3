import SocketBridge.Proofs.Record.Fields

/-!
# Call by call

Which calls a writer or a reader gets, told by the list that it may keep of them. A writer gets the
fields of the address up to the first that it does not take; a reader is asked for the kinds of the
fields of some address up to the first that it does not give or that is refused.
-/

namespace SocketBridge.Address

variable {σ τ : Type}

section Write

variable {w : RecordWriter σ} {a : Address} {s s' : σ} {calls : List Primitive}

theorem views_write_logged (w : RecordWriter σ) (a : Address) :
    Views Prod.snd (a.write w.logged) (a.write w) := by
  rw [write_eq_forM, write_eq_forM]
  exact w.views_forM_put a.fields

theorem write_logged_eq_ok_iff : a.write w.logged ([], s) = .ok () (calls, s') ↔
    calls = a.fields ∧ w.Takes s a.fields s' := by
  rw [write_eq_forM, RecordWriter.forM_put_eq_ok_iff, RecordWriter.takes_logged_iff, and_comm]
  rfl

theorem write_logged_eq_error_iff {e : RecordError} :
    a.write w.logged ([], s) = .error e (calls, s') ↔ ∃ taken p more between,
      a.fields = taken ++ p :: more ∧ calls = taken ++ [p] ∧ w.Takes s taken between ∧
        w.put p between = .error e s' := by
  rw [write_eq_forM, RecordWriter.forM_put_eq_error_iff]
  constructor
  · rintro ⟨taken, p, more, ⟨before, between⟩, split, takes, failed⟩
    obtain ⟨takes, same⟩ := w.takes_logged_iff.mp takes
    obtain rfl : before = taken := same
    rw [w.put_logged] at failed
    obtain ⟨failed, rfl⟩ := logCall_eq_error_iff.mp failed
    exact ⟨before, p, more, between, split, rfl, takes, failed⟩
  · rintro ⟨taken, p, more, between, split, rfl, takes, failed⟩
    refine ⟨taken, p, more, (taken, between), split, w.takes_logged_iff.mpr ⟨takes, rfl⟩, ?_⟩
    rw [w.put_logged]
    exact logCall_eq_error_iff.mpr ⟨failed, rfl⟩

end Write

section Read

variable {r : RecordReader σ} {s s' : σ} {calls : List PrimitiveKind}

theorem views_read_logged (r : RecordReader σ) : Views Prod.snd (read r.logged) (read r) := by
  rw [read_eq_run, read_eq_run]
  refine RecordPlan.views_run (fun kind => ?_) plan
  rw [r.get_logged]
  exact views_logCall

theorem read_logged_eq_ok_iff {a : Address} : read r.logged ([], s) = .ok a (calls, s') ↔
    calls = a.fields.map Primitive.kind ∧ r.Gives s a.fields s' := by
  rw [read_eq_ok_iff_gives, r.gives_logged_iff, and_comm]
  rfl

theorem read_logged_eq_error_iff {e : RecordError} :
    read r.logged ([], s) = .error e (calls, s') ↔ ∃ got between, r.Gives s got between ∧
      ((Refuses got e ∧ calls = got.map Primitive.kind ∧ s' = between) ∨
        ∃ kind, Awaits got kind ∧ calls = got.map Primitive.kind ++ [kind] ∧
          r.get kind between = .error e s') := by
  rw [read_eq_error_iff]
  constructor
  · rintro ⟨got, ⟨before, between⟩, gives, outcome⟩
    obtain ⟨gives, rfl⟩ := r.gives_logged_iff.mp gives
    refine ⟨got, between, gives, ?_⟩
    rcases outcome with ⟨refuses, same⟩ | ⟨kind, awaits, failed⟩
    · obtain ⟨rfl, rfl⟩ := Prod.mk.inj same
      exact Or.inl ⟨refuses, rfl, rfl⟩
    · rw [r.get_logged] at failed
      obtain ⟨failed, rfl⟩ := logCall_eq_error_iff.mp failed
      exact Or.inr ⟨kind, awaits, rfl, failed⟩
  · rintro ⟨got, between, gives, outcome⟩
    refine ⟨got, (got.map Primitive.kind, between), r.gives_logged_iff.mpr ⟨gives, rfl⟩, ?_⟩
    rcases outcome with ⟨refuses, rfl, rfl⟩ | ⟨kind, awaits, rfl, failed⟩
    · exact Or.inl ⟨refuses, rfl⟩
    · refine Or.inr ⟨kind, awaits, ?_⟩
      rw [r.get_logged]
      exact logCall_eq_error_iff.mpr ⟨failed, rfl⟩

/-- That no address can be built is never found out by reading: whoever reports it, a call did. -/
theorem read_eq_address_error {e : AddressError} (failed : read r s = .error (.address e) s') :
    ∃ got kind between, r.Gives s got between ∧ Awaits got kind ∧
      r.get kind between = .error (.address e) s' := by
  obtain ⟨got, between, gives, ⟨refuses, -⟩ | ⟨kind, awaits, failed⟩⟩ := read_eq_error_iff.mp failed
  · cases refuses
  · exact ⟨got, kind, between, gives, awaits, failed⟩

/-- The same calls fill the fields of a stored address, and they are in canonical form then. -/
theorem stored_read_eq_ok {stored : StoredAddress}
    (done : StoredAddress.read r s = .ok stored s') :
    stored.Canonical ∧ ∃ b, read r s = .ok b s' ∧ b.store = stored := by
  rw [store_read] at done
  obtain ⟨b, made, rfl⟩ := map_eq_ok_iff.mp done
  exact ⟨b.canonical_store, b, made, rfl⟩

end Read

end SocketBridge.Address

namespace SocketBridge

open Address

/-- Whatever a writer does, it is called with the fields of the address in their order: with all of
them if it takes them all, and else up to the first that it does not take, whose failure the whole
write gives. Whatever a reader does, an address is read exactly if what is written of it is given,
and it is asked for the kinds of that and for nothing more. Otherwise reading ends at the first call
that fails, with its failure, or at the first field that no address has, with the error that names
the field. Keeping a list of the calls changes nothing in this. An error in building the address is
never one of reading itself, and what is read is stored in canonical form. So a reader that gives
back what was written in full gives the address, and is asked for no more. -/
theorem address_record_calls {σ τ : Type} (w : RecordWriter σ) (r : RecordReader τ) (a : Address)
    (s : σ) (t : τ) :
    (Views Prod.snd (a.write w.logged) (a.write w) ∧
      (∀ calls s', a.write w.logged ([], s) = .ok () (calls, s') ↔
        calls = a.fields ∧ w.Takes s a.fields s') ∧
      ∀ e calls s', a.write w.logged ([], s) = .error e (calls, s') ↔
        ∃ taken p more between, a.fields = taken ++ p :: more ∧ calls = taken ++ [p] ∧
          w.Takes s taken between ∧ w.put p between = .error e s') ∧
    (Views Prod.snd (read r.logged) (read r) ∧
      (∀ b calls t', read r.logged ([], t) = .ok b (calls, t') ↔
        calls = b.fields.map Primitive.kind ∧ r.Gives t b.fields t') ∧
      ∀ e calls t', read r.logged ([], t) = .error e (calls, t') ↔
        ∃ got between, r.Gives t got between ∧
          ((Refuses got e ∧ calls = got.map Primitive.kind ∧ t' = between) ∨
            ∃ kind, Awaits got kind ∧ calls = got.map Primitive.kind ++ [kind] ∧
              r.get kind between = .error e t')) ∧
    (∀ e t', read r t = .error (.address e) t' → ∃ got kind between, r.Gives t got between ∧
      Awaits got kind ∧ r.get kind between = .error (.address e) t') ∧
    (∀ stored t', StoredAddress.read r t = .ok stored t' →
      stored.Canonical ∧ ∃ b, read r t = .ok b t' ∧ b.store = stored) ∧
    ∀ calls s' t', a.write w.logged ([], s) = .ok () (calls, s') → r.Gives t calls t' →
      read r.logged ([], t) = .ok a (calls.map Primitive.kind, t') := by
  refine ⟨⟨views_write_logged w a, fun _ _ => write_logged_eq_ok_iff,
      fun _ _ _ => write_logged_eq_error_iff⟩,
    ⟨views_read_logged r, fun _ _ _ => read_logged_eq_ok_iff,
      fun _ _ _ => read_logged_eq_error_iff⟩,
    fun _ _ => read_eq_address_error, fun _ _ => stored_read_eq_ok, ?_⟩
  intro calls s' t' written gives
  obtain ⟨rfl, -⟩ := write_logged_eq_ok_iff.mp written
  exact read_logged_eq_ok_iff.mpr ⟨rfl, gives⟩

end SocketBridge
