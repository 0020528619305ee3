import Mathlib.Data.List.TakeWhile
import SocketBridge.Proofs.Ip.Literal

/-!
# What is read as an IP literal

A reader takes a front of the text, and only characters of certain kinds can stand in it. A dotted
quad has no colon in it and every IPv6 literal has one, so that no text is both, and neither has a
percent sign.
-/

namespace SocketBridge

open Text

/-- The rest is what a front of characters of one kind leaves of a text. -/
def Leaves (kind : Char → Prop) (cs rest : List Char) : Prop :=
  ∃ front, cs = front ++ rest ∧ ∀ c ∈ front, kind c

namespace Leaves

variable {kind wider : Char → Prop} {c : Char} {cs middle rest : List Char}

theorem refl (cs : List Char) : Leaves kind cs cs := ⟨[], rfl, nofun⟩

theorem one (own : kind c) : Leaves kind (c :: rest) rest :=
  ⟨[c], rfl, fun _ same => List.mem_singleton.mp same ▸ own⟩

theorem trans (first : Leaves kind cs middle) (next : Leaves kind middle rest) :
    Leaves kind cs rest := by
  obtain ⟨front, rfl, inside⟩ := first
  obtain ⟨more, rfl, inside'⟩ := next
  exact ⟨front ++ more, (List.append_assoc ..).symm, List.forall_mem_append.mpr ⟨inside, inside'⟩⟩

theorem mono (wide : ∀ c, kind c → wider c) (leaves : Leaves kind cs rest) :
    Leaves wider cs rest := by
  obtain ⟨front, rfl, inside⟩ := leaves
  exact ⟨front, rfl, fun c member => wide c (inside c member)⟩

theorem not_mem (leaves : Leaves kind cs rest) (absent : c ∉ cs) : c ∉ rest := by
  obtain ⟨front, rfl, -⟩ := leaves
  exact fun member => absent (List.mem_append_right front member)

/-- A character of another kind is not in a text of which nothing is left. -/
theorem not_mem_of_whole (leaves : Leaves kind cs []) (other : ¬kind c) : c ∉ cs := by
  obtain ⟨front, rfl, inside⟩ := leaves
  rw [List.append_nil]
  exact fun member => other (inside c member)

end Leaves

theorem Text.NumberForm.leaves {form : NumberForm} {cs rest : List Char} {n : Nat}
    (read : form.read? cs = some (n, rest)) :
    Leaves (fun c => isDigitOf form.base c = true) cs rest := by
  obtain ⟨rfl, -⟩ := NumberForm.read?_eq_some read
  exact ⟨_, List.takeWhile_append_dropWhile.symm, fun c => List.mem_takeWhile_imp⟩

namespace Ip

variable {cs rest : List Char} {c : Char}

theorem expect_eq_none (absent : c ∉ cs) : expect c cs = none := by
  cases cs with
  | nil => rfl
  | cons d r => exact if_neg fun (same : d = c) => absent (same ▸ List.mem_cons_self)

/-- What may stand in a dotted quad. -/
def QuadChar (c : Char) : Prop := isDigitOf 10 c ∨ c = '.'

/-- What may stand in an IPv6 literal. -/
def GroupChar (c : Char) : Prop := isDigitOf 16 c ∨ c = ':' ∨ c = '.'

instance (c : Char) : Decidable (QuadChar c) := inferInstanceAs (Decidable (_ ∨ _))

instance (c : Char) : Decidable (GroupChar c) := inferInstanceAs (Decidable (_ ∨ _))

theorem QuadChar.groupChar (c : Char) : QuadChar c → GroupChar c :=
  Or.imp (isDigitOf_mono (by decide)) .inr

theorem leaves_readOctet {b : UInt8} (read : readOctet cs = some (b, rest)) :
    Leaves QuadChar cs rest := by
  obtain ⟨⟨n, r⟩, digits, same⟩ := Option.map_eq_some_iff.mp read
  obtain ⟨-, rfl⟩ := Prod.mk.inj same
  exact (NumberForm.leaves digits).mono fun c => .inl

/-- Every byte of a dotted quad but the first stands behind a point. -/
theorem leaves_pointOctet {b : UInt8} (read : (expect '.' cs).bind readOctet = some (b, rest)) :
    Leaves QuadChar cs rest := by
  obtain ⟨r, point, read⟩ := Option.bind_eq_some_iff.mp read
  obtain rfl := expect_eq_some_iff.mp point
  exact .trans (.one (.inr rfl)) (leaves_readOctet read)

theorem leaves_readV4 {o : Octets 4} (read : readV4 cs = some (o, rest)) :
    Leaves QuadChar cs rest := by
  obtain ⟨⟨a, r⟩, first, read⟩ := Option.bind_eq_some_iff.mp read
  obtain ⟨⟨b, r'⟩, second, read⟩ := Option.bind_eq_some_iff.mp read
  obtain ⟨⟨c, r''⟩, third, read⟩ := Option.bind_eq_some_iff.mp read
  obtain ⟨⟨d, r'''⟩, last, read⟩ := Option.bind_eq_some_iff.mp read
  obtain ⟨-, rfl⟩ := Prod.mk.inj (Option.some.inj read)
  exact (leaves_readOctet first).trans ((leaves_pointOctet second).trans
    ((leaves_pointOctet third).trans (leaves_pointOctet last)))

/-- Every group but the first stands behind a colon. -/
theorem leaves_colon {first : Bool}
    (passed : (if first then some cs else expect ':' cs) = some rest) :
    Leaves GroupChar cs rest := by
  cases first with
  | true => exact Option.some.inj passed ▸ .refl cs
  | false => exact expect_eq_some_iff.mp passed ▸ .one (.inr (.inl rfl))

theorem leaves_readGroups (limit : Nat) (first : Bool) (cs : List Char) :
    Leaves GroupChar cs (readGroups limit first cs).rest := by
  fun_induction readGroups limit first cs with
  | case1 | case2 | case4 => exact .refl _
  | case3 limit first cs r colon o r' quad =>
    obtain ⟨-, quad⟩ := Option.ite_none_right_eq_some.mp quad
    exact (leaves_colon colon).trans ((leaves_readV4 quad).mono QuadChar.groupChar)
  | case5 limit first cs r colon _ g r' group more ih =>
    have digits : Leaves GroupChar r r' := (NumberForm.leaves group).mono fun c => .inl
    exact (leaves_colon colon).trans (digits.trans ih)

theorem leaves_readV6 {o : Octets 16} (read : readV6 cs = some (o, rest)) :
    Leaves GroupChar cs rest := by
  have head := leaves_readGroups 8 true cs
  unfold readV6 at read
  dsimp only at read
  split at read
  · obtain ⟨_, -, same⟩ := Option.map_eq_some_iff.mp read
    obtain ⟨-, rfl⟩ := Prod.mk.inj same
    exact head
  · split at read
    · cases read
    · obtain ⟨r, colons, read⟩ := Option.bind_eq_some_iff.mp read
      obtain ⟨r', colon, colon'⟩ := Option.bind_eq_some_iff.mp colons
      obtain ⟨_, -, same⟩ := Option.bind_eq_some_iff.mp read
      obtain ⟨-, rfl⟩ := Prod.mk.inj (Option.some.inj same)
      exact head.trans ((@leaves_colon _ _ false colon).trans
        ((@leaves_colon _ _ false colon').trans (leaves_readGroups ..)))

/-! ## Colons -/

theorem readGroups_of_no_colon (absent : ':' ∉ cs) (limit : Nat) :
    readGroups limit false cs = ⟨[], false, cs⟩ := by
  cases limit with
  | zero => rfl
  | succ limit => simp [readGroups, expect_eq_none absent]

/-- Without a colon there is one group, or there are the two of a dotted quad. -/
theorem length_readGroups_of_no_colon (absent : ':' ∉ cs) (limit : Nat) :
    (readGroups limit true cs).groups.length ≤ 2 := by
  cases limit with
  | zero => exact Nat.zero_le 2
  | succ limit =>
    simp only [readGroups, if_true]
    split
    · rename_i o _ _
      rw [List.length_map, Bytes.length_groups Nat.two_pos, o.length_toList]
    · split
      · exact Nat.zero_le 2
      · rename_i g r group
        have later : ':' ∉ r := (NumberForm.leaves group).not_mem absent
        simp [readGroups_of_no_colon later]

theorem readV6_of_no_colon (absent : ':' ∉ cs) : readV6 cs = none := by
  have few := length_readGroups_of_no_colon absent 8
  have stuck := expect_eq_none ((leaves_readGroups 8 true cs).not_mem absent)
  have other : (readGroups 8 true cs).groups.length ≠ 8 := by omega
  simp [readV6, other, stuck]

theorem whole_eq_some_iff {α : Type} {read : List Char → Option (α × List Char)} {a : α} :
    whole read cs = some a ↔ read cs = some (a, []) := by
  unfold whole
  split
  · rename_i taken
    rw [taken]
    simp
  · rename_i other
    exact iff_of_false nofun (other a)

theorem mem_of_ofV4Literal? {o : Octets 4} (read : ofV4Literal? cs = some o) :
    ':' ∉ cs ∧ '%' ∉ cs := by
  have leaves := leaves_readV4 (whole_eq_some_iff.mp read)
  exact ⟨leaves.not_mem_of_whole (by decide), leaves.not_mem_of_whole (by decide)⟩

theorem mem_of_ofV6Literal? {o : Octets 16} (read : ofV6Literal? cs = some o) :
    ':' ∈ cs ∧ '%' ∉ cs := by
  have taken := whole_eq_some_iff.mp read
  refine ⟨?_, (leaves_readV6 taken).not_mem_of_whole (by decide)⟩
  by_contra absent
  cases (readV6_of_no_colon absent).symm.trans taken

end Ip

end SocketBridge
