import SocketBridge.Proofs.Record.Failure
import SocketBridge.Proofs.Record.RoundTrip

/-!
# Records that are cut off

Reading that has not run out of bytes does not look at what stands behind them. So bytes that lack
something at their end are read as nothing else than what they are the beginning of, and what they
are the beginning of is not read yet.
-/

namespace SocketBridge.Record

variable {kind : PrimitiveKind} {e : RecordError} {taken left bs rest : List UInt8}

/-- Only a lack of bytes hangs on what is left. -/
theorem Fails.elsewhere (fails : Fails kind e taken left) :
    (∃ needed remaining, e = .truncated needed remaining) ∨ ∀ left', Fails kind e taken left' := by
  cases fails with
  | short few => exact Or.inl ⟨_, _, rfl⟩
  | negative sized below => exact Or.inr (.negative sized below)
  | body _ _ few => exact Or.inl ⟨_, _, rfl⟩
  | encoding fits foreign => exact Or.inr (.encoding fits foreign)

theorem read_append_of_ok {a : Address} (read : Address.read reader bs = .ok a rest)
    (more : List UInt8) : Address.read reader (bs ++ more) = .ok a (rest ++ more) := by
  obtain ⟨spelling, written, rfl⟩ := read_eq_ok_iff.mp read
  exact read_eq_ok_iff.mpr ⟨spelling, written, List.append_assoc ..⟩

/-- A failure stays one when more bytes come, but for the lack of them. -/
theorem read_append_of_error (failed : Address.read reader bs = .error e rest) :
    (∃ needed remaining, e = .truncated needed remaining) ∨
      ∀ more, Address.read reader (bs ++ more) = .error e (rest ++ more) := by
  obtain ⟨got, taken, fits, rfl, ⟨refuses, rfl⟩ | ⟨kind, awaits, fails⟩⟩ :=
    read_eq_error_iff.mp failed
  · refine Or.inr fun more => read_eq_error_iff.mpr ⟨got, [], fits, ?_, Or.inl ⟨refuses, rfl⟩⟩
    rw [List.append_assoc]
  · refine fails.elsewhere.imp_right fun elsewhere more => ?_
    refine read_eq_error_iff.mpr ⟨got, taken, fits, ?_, Or.inr ⟨kind, awaits, elsewhere _⟩⟩
    rw [List.append_assoc]

/-- With something missing at the end of a record, that is what reading it fails for. -/
theorem read_cut {a : Address} {cut missing : List UInt8} (lack : missing ≠ [])
    (read : Address.read reader (cut ++ missing) = .ok a []) :
    ∃ needed remaining rest,
      Address.read reader cut = .error (.truncated needed remaining) rest := by
  rcases outcome : Address.read reader cut with ⟨b, rest⟩ | ⟨e, rest⟩
  · have same := (read_append_of_ok outcome missing).symm.trans read
    injection same with _ nothing
    exact absurd (List.append_eq_nil_iff.mp nothing).2 lack
  · rcases read_append_of_error outcome with ⟨needed, remaining, rfl⟩ | still
    · exact ⟨needed, remaining, rest, rfl⟩
    · cases (still missing).symm.trans read

/-- However a record is cut off, inside a field or between two, reading it fails for the bytes that
are missing. So no record is the beginning of another. -/
theorem cut_record_truncated (a : Address)
    (fits : (a.hostname.getD "").utf8ByteSize < 2 ^ 31) :
    ∃ spelling, a.write writer [] = .ok () spelling ∧
      (∀ cut, cut <+: spelling → cut ≠ spelling → ∃ needed remaining rest,
        Address.read reader cut = .error (.truncated needed remaining) rest) ∧
      ∀ b other, Address.write writer b [] = .ok () other → other <+: spelling →
        b = a ∧ other = spelling := by
  have written : a.write writer [] = .ok () (addressBytes a) := writes_address fits []
  have whole : Address.read reader (addressBytes a) = .ok a [] :=
    read_eq_ok_iff.mpr ⟨addressBytes a, written, (List.append_nil _).symm⟩
  have cuts : ∀ cut, cut <+: addressBytes a → cut ≠ addressBytes a → ∃ needed remaining rest,
      Address.read reader cut = .error (.truncated needed remaining) rest := by
    rintro cut ⟨missing, split⟩ strict
    have joined : Address.read reader (cut ++ missing) = .ok a [] := by rw [split, whole]
    refine read_cut ?_ joined
    rintro rfl
    exact strict (by rw [← split, List.append_nil])
  refine ⟨addressBytes a, written, cuts, ?_⟩
  intro b other writtenB first
  have readB : Address.read reader other = .ok b [] :=
    read_eq_ok_iff.mpr ⟨other, writtenB, (List.append_nil _).symm⟩
  by_cases same : other = addressBytes a
  · rw [same, whole] at readB
    cases readB
    exact ⟨rfl, same⟩
  · obtain ⟨needed, remaining, rest, failed⟩ := cuts other first same
    cases readB.symm.trans failed

theorem cut_record_truncated_of_far_address :
    ((farAddress.withHostname "tür").hostname.getD "").utf8ByteSize < 2 ^ 31 ∧
      ∃ spelling, (farAddress.withHostname "tür").write writer [] = .ok () spelling ∧
        (∀ cut, cut <+: spelling → cut ≠ spelling → ∃ needed remaining rest,
          Address.read reader cut = .error (.truncated needed remaining) rest) ∧
        ∀ b other, Address.write writer b [] = .ok () other → other <+: spelling →
          b = farAddress.withHostname "tür" ∧ other = spelling := by
  have fits : ((farAddress.withHostname "tür").hostname.getD "").utf8ByteSize < 2 ^ 31 := by decide
  exact ⟨fits, cut_record_truncated _ fits⟩

end SocketBridge.Record
