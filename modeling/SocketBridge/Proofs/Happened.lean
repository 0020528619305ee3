import Mathlib.Data.List.Infix

/-!
# What has happened

Something has happened in a run if some event of it was such, after those before it.
-/

namespace SocketBridge

variable {ε : Type}

def Happened (P : List ε → ε → Prop) (events : List ε) : Prop :=
  ∃ past e, past ++ [e] <+: events ∧ P past e

variable {P : List ε → ε → Prop} {events : List ε}

theorem not_happened_nil : ¬Happened P [] := by
  rintro ⟨past, e, first, -⟩
  have nonempty := List.append_ne_nil_of_right_ne_nil past (List.cons_ne_nil e [])
  exact nonempty (List.prefix_nil.mp first)

theorem happened_concat {e : ε} : Happened P (events ++ [e]) ↔ Happened P events ∨ P events e := by
  constructor
  · rintro ⟨past, e', first, holds⟩
    rcases List.prefix_concat_iff.mp first with last | earlier
    · obtain ⟨rfl, rfl⟩ := List.append_singleton_inj.mp last
      exact .inr holds
    · exact .inl ⟨past, e', earlier, holds⟩
  · rintro (⟨past, e', earlier, holds⟩ | holds)
    · exact ⟨past, e', earlier.trans (List.prefix_append ..), holds⟩
    · exact ⟨events, e, List.prefix_rfl, holds⟩

end SocketBridge
