import Mathlib.Algebra.Ring.Nat
import SocketBridge.Metrics

/-!
# What the counters say

Counting adds to one counter and leaves all others as they are. The gauge of live handles is none of
them. Operations and outcomes are told apart by their labels.
-/

namespace SocketBridge

theorem Operation.label_injective : Function.Injective Operation.label := by
  intro a b same
  cases a <;> cases b <;> first | rfl | exact absurd same (by decide)

theorem outcomeLabel_injective : Function.Injective outcomeLabel := by
  intro a b same
  cases a <;> cases b <;> first | rfl | exact absurd same (by decide)

namespace Metrics

/-- Raising every entry of a counter raises the one that is found. -/
theorem lookup_raised (counts : List (Counter × Nat)) (c c' : Counter) (n : Nat) :
    (counts.map fun e => if e.1 == c then (c, e.2 + n) else e).lookup c' =
      (counts.lookup c').map fun v => if c' = c then v + n else v := by
  induction counts with
  | nil => rfl
  | cons e counts ih =>
    obtain ⟨k, v⟩ := e
    have head : (if k == c then (c, v + n) else (k, v)) = (k, if k = c then v + n else v) := by
      by_cases hit : k = c <;> simp [hit]
    rw [List.map_cons, head, List.lookup_cons, List.lookup_cons, ih]
    cases same : c' == k with
    | true => rw [beq_iff_eq.mp same, Option.map_some]
    | false => rfl

theorem count_add (m : Metrics) (c c' : Counter) (n : Nat) :
    (m.add c n).count c' = m.count c' + if c' = c then n else 0 := by
  unfold add
  split
  · rename_i present
    rw [count, lookup_raised, count]
    cases found : m.counts.lookup c' with
    | some v => by_cases same : c' = c <;> simp [same]
    | none =>
      have other : c' ≠ c := by
        rintro rfl
        obtain ⟨e, member, hit⟩ := List.any_eq_true.mp present
        have missed := List.lookup_eq_none_iff.mp found e member
        exact absurd (beq_iff_eq.mp hit).symm (bne_iff_ne.mp missed)
      simp [other]
  · rename_i absent
    rw [count, List.lookup_append, count]
    by_cases same : c' = c
    · subst same
      have missing : m.counts.lookup c' = none := by
        rw [List.lookup_eq_none_iff]
        intro e member
        have missed := List.any_eq_false.mp ((Bool.not_eq_true _).mp absent) e member
        exact bne_iff_ne.mpr fun hit => missed (beq_iff_eq.mpr hit.symm)
      simp [missing]
    · have missed : (c' == c) = false := beq_false_of_ne same
      cases m.counts.lookup c' <;> simp [List.lookup_cons, missed, same]

theorem handles_add (m : Metrics) (c : Counter) (n : Nat) : (m.add c n).handles = m.handles := by
  unfold add
  split <;> rfl

end Metrics

namespace Mark

/-- The counter that a mark raises, and by how much. -/
def raised : Mark → Counter × Nat
  | completion op ok => (.completions op.label (outcomeLabel ok), 1)
  | bytesRead n => (.bytes "read", n)
  | bytesWritten n => (.bytes "written", n)

/-- How much a mark adds to a counter. -/
def adds (c : Counter) (k : Mark) : Nat := if c = k.raised.1 then k.raised.2 else 0

@[simp] theorem adds_completion (op op' : Operation) (ok ok' : Bool) :
    (completion op' ok').adds (.completions op.label (outcomeLabel ok)) =
      if op' = op ∧ ok' = ok then 1 else 0 := by
  simp only [adds, raised, Counter.completions.injEq, Operation.label_injective.eq_iff,
    outcomeLabel_injective.eq_iff, eq_comm]

@[simp] theorem adds_completion_bytes (op : Operation) (ok : Bool) (direction : String) :
    (completion op ok).adds (.bytes direction) = 0 := rfl

@[simp] theorem adds_bytesRead (n : Nat) (direction : String) :
    (bytesRead n).adds (.bytes direction) = if direction = "read" then n else 0 := by
  simp only [adds, raised, Counter.bytes.injEq]

@[simp] theorem adds_bytesRead_completions (n : Nat) (op outcome : String) :
    (bytesRead n).adds (.completions op outcome) = 0 := rfl

@[simp] theorem adds_bytesWritten (n : Nat) (direction : String) :
    (bytesWritten n).adds (.bytes direction) = if direction = "written" then n else 0 := by
  simp only [adds, raised, Counter.bytes.injEq]

@[simp] theorem adds_bytesWritten_completions (n : Nat) (op outcome : String) :
    (bytesWritten n).adds (.completions op outcome) = 0 := rfl

end Mark

namespace Metrics

theorem mark_eq (m : Metrics) (k : Mark) : m.mark k = m.add k.raised.1 k.raised.2 := by
  cases k <;> rfl

/-- No mark moves the gauge. -/
theorem handles_marks (m : Metrics) (marks : List Mark) :
    (marks.foldl mark m).handles = m.handles := by
  induction marks generalizing m with
  | nil => rfl
  | cons k marks ih => rw [List.foldl_cons, ih, mark_eq, handles_add]

/-- A counter grows by what each of the marks adds to it. -/
theorem count_marks (m : Metrics) (marks : List Mark) (c : Counter) :
    (marks.foldl mark m).count c = m.count c + (marks.map (Mark.adds c)).sum := by
  induction marks generalizing m with
  | nil => rfl
  | cons k marks ih =>
    rw [List.foldl_cons, ih, mark_eq, count_add, List.map_cons, List.sum_cons, Nat.add_assoc,
      Mark.adds]

end Metrics

end SocketBridge
