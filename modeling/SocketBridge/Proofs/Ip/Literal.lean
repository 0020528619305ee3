import SocketBridge.Ip.Literal
import SocketBridge.Proofs.Bytes
import SocketBridge.Proofs.Text.Digits

/-!
# IP literals read back

What is written for an address is read as that address, whichever run of zero groups is left out:
the reader puts back as many zeros as there are groups missing. Written texts hold digits, colons
and points only.
-/

namespace SocketBridge

open Text

/-! ## Groups -/

/-- The groups of bytes stand for the bytes. -/
theorem flatMap_groups {bs : List UInt8} (even : 2 ∣ bs.length) :
    (((Bytes.groups 2 bs).map fun g => UInt16.ofNat (Bytes.toNat g)).flatMap
      fun g => Bytes.ofNat 2 g.toNat) = bs := by
  obtain ⟨widths, flat⟩ := Bytes.groups_spec Nat.two_pos bs
  have same (g : List UInt8) (member : g ∈ Bytes.groups 2 bs) :
      Bytes.ofNat 2 (UInt16.ofNat (Bytes.toNat g)).toNat = g := by
    have width := widths g member
    have small := Bytes.toNat_lt g
    have digits := Bytes.ofNat_toNat g
    rw [width] at small digits
    rw [UInt16.toNat_ofNat', Nat.mod_eq_of_lt (by omega), digits]
  rw [List.flatMap_map, List.flatMap_def, List.map_congr_left same, List.map_id', flat even]

namespace Octets

theorem length_groups (o : Octets 16) : o.groups.length = 8 := by
  rw [groups, List.length_map, Bytes.length_groups Nat.two_pos, o.length_toList]

theorem ofGroups?_eq {gs : List UInt16} {o : Octets 16}
    (bytes : (gs.flatMap fun g => Bytes.ofNat 2 g.toNat) = o.toList) : ofGroups? gs = some o := by
  simp only [ofGroups?, bytes, o.length_toList, dif_pos]

theorem ofGroups?_groups (o : Octets 16) : ofGroups? o.groups = some o :=
  ofGroups?_eq (flatMap_groups ⟨8, o.length_toList⟩)

end Octets

namespace Ip

variable {c : Char} {cs rest : List Char}

theorem expect_eq_some_iff : expect c cs = some rest ↔ cs = c :: rest := by
  cases cs with
  | nil => simp [expect]
  | cons d r => simp [expect]

@[simp] theorem expect_self (c : Char) (rest : List Char) : expect c (c :: rest) = some rest :=
  expect_eq_some_iff.mpr rfl

/-! ## Dotted quads -/

theorem readOctet_decimal (b : UInt8) (ends : Ends 10 rest) :
    readOctet (decimal b.toNat ++ rest) = some (b, rest) := by
  have bound : b.toNat < 256 := b.toNat_lt
  have short : (Nat.toDigits 10 b.toNat).length ≤ 3 :=
    (Nat.length_toDigits_le_iff (by decide) (by decide)).mpr (by omega)
  have read : octetForm.read? (decimal b.toNat ++ rest) = some (b.toNat, rest) := by
    refine NumberForm.read?_toDigits (by decide) (by decide) bound ?_ ends
    rintro k ⟨⟩
    exact short
  simp only [readOctet, read, Option.map_some, UInt8.ofNat_toNat]

theorem readV4_v4Text (o : Octets 4) (ends : Ends 10 rest) :
    readV4 (v4Text o ++ rest) = some (o, rest) := by
  obtain ⟨bs, length⟩ := o
  obtain ⟨a, b, c, d, rfl⟩ : ∃ a b c d, bs = [a, b, c, d] := by
    match bs, length with
    | [a, b, c, d], _ => exact ⟨a, b, c, d, rfl⟩
  have point (r : List Char) : Ends 10 ('.' :: r) := ends_cons.mpr (by decide)
  simp only [v4Text, List.map_cons, List.map_nil, joined, List.append_assoc, List.cons_append,
    readV4, readOctet_decimal _ (point _), readOctet_decimal _ ends, expect_self,
    Option.bind_eq_bind, Option.bind_some, Option.pure_def]

/-- There is no dotted quad where the first digits are not followed by a point. -/
theorem readV4_eq_none (pointless : (cs.dropWhile (isDigitOf 10)).head? ≠ some '.') :
    readV4 cs = none := by
  cases first : readOctet cs with
  | none => simp [readV4, first]
  | some pair =>
    obtain ⟨⟨n, r⟩, read, rfl⟩ := Option.map_eq_some_iff.mp first
    obtain ⟨rfl, -⟩ := NumberForm.read?_eq_some read
    have stuck : expect '.' (cs.dropWhile (isDigitOf 10)) = none := by
      refine Option.eq_none_iff_forall_ne_some.mpr fun r found => pointless ?_
      rw [expect_eq_some_iff.mp found, List.head?_cons]
    have stuck' : expect '.' (cs.dropWhile (isDigitOf octetForm.base)) = none := stuck
    simp [readV4, first, stuck']

/-! ## Groups between colons -/

/-- What may stand behind groups: nothing, or a colon. -/
def Parted (rest : List Char) : Prop := rest = [] ∨ ∃ r, rest = ':' :: r

theorem Parted.ends (parted : Parted rest) (base : Nat) : Ends base rest := by
  rcases parted with rfl | ⟨r, rfl⟩
  · exact ends_nil base
  · exact ends_cons.mpr (by simp [isDigitOf, digitValue?])

/-- Neither a dotted quad nor a group begins there. -/
theorem Parted.unread (parted : Parted rest) :
    readV4 rest = none ∧ groupForm.read? rest = none := by
  have unread (form : NumberForm) : form.read? rest = none :=
    Option.eq_none_iff_forall_ne_some.mpr fun _ read =>
      (NumberForm.read?_eq_some read).2 (parted.ends form.base)
  exact ⟨by simp [readV4, readOctet, unread], unread groupForm⟩

/-- A group is not taken for the beginning of a dotted quad. -/
theorem readV4_hexadecimal (n : Nat) (parted : Parted rest) :
    readV4 (hexadecimal n ++ rest) = none := by
  refine readV4_eq_none ?_
  have digits (c : Char) (member : c ∈ hexadecimal n) : c ≠ '.' := by
    rintro rfl
    exact absurd (isDigitOf_of_mem_toDigits (by decide) (by decide) member) (by decide)
  generalize hexadecimal n = ds at digits
  induction ds with
  | nil =>
    rcases parted with rfl | ⟨r, rfl⟩
    · simp
    · simp [isDigitOf, digitValue?]
  | cons c ds ih =>
    rw [List.cons_append, List.dropWhile_cons]
    split
    · exact ih fun d member => digits d (List.mem_cons_of_mem c member)
    · simpa using digits c List.mem_cons_self

theorem read?_hexadecimal (g : UInt16) (parted : Parted rest) :
    groupForm.read? (hexadecimal g.toNat ++ rest) = some (g.toNat, rest) := by
  have bound : g.toNat < 65536 := g.toNat_lt
  have short : (Nat.toDigits 16 g.toNat).length ≤ 4 :=
    (Nat.length_toDigits_le_iff (by decide) (by decide)).mpr (by omega)
  refine NumberForm.read?_toDigits (by decide) (by decide) bound ?_ (parted.ends 16)
  rintro k ⟨⟩
  exact short

/-- Where no more groups are read: at the end, and at a double colon. -/
def Stops (rest : List Char) : Prop := rest = [] ∨ ∃ r, rest = ':' :: ':' :: r

theorem Stops.parted (stops : Stops rest) : Parted rest := by
  rcases stops with rfl | ⟨r, rfl⟩
  · exact .inl rfl
  · exact .inr ⟨_, rfl⟩

theorem Stops.readGroups (stops : Stops rest) (limit : Nat) (first : Bool) :
    readGroups limit first rest = ⟨[], false, rest⟩ := by
  cases limit with
  | zero => rfl
  | succ limit =>
    cases first with
    | true =>
      obtain ⟨unquad, ungroup⟩ := stops.parted.unread
      simp [Ip.readGroups, unquad, ungroup]
    | false =>
      rcases stops with rfl | ⟨r, rfl⟩
      · rfl
      · obtain ⟨unquad, ungroup⟩ := @Parted.unread (':' :: r) (.inr ⟨r, rfl⟩)
        simp [Ip.readGroups, unquad, ungroup]

/-- A group is read, behind a colon unless it is the first, and the others after it. -/
theorem readGroups_group (limit : Nat) (first : Bool) (g : UInt16) (parted : Parted rest) :
    readGroups (limit + 1) first ((if first then [] else [':']) ++ hexadecimal g.toNat ++ rest) =
      let more := readGroups limit false rest
      ⟨g :: more.groups, more.quad, more.rest⟩ := by
  have unquad := readV4_hexadecimal g.toNat parted
  have group := read?_hexadecimal g parted
  cases first <;> simp [readGroups, unquad, group]

/-- Groups with a colon in front of each. -/
def colonText (gs : List UInt16) : List Char := gs.flatMap fun g => ':' :: hexadecimal g.toNat

theorem groupsText_cons (g : UInt16) (gs : List UInt16) :
    groupsText (g :: gs) = hexadecimal g.toNat ++ colonText gs := by
  induction gs generalizing g with
  | nil => simp [groupsText, joined, colonText]
  | cons h gs ih =>
    have next := ih h
    simp only [groupsText, List.map_cons, joined] at next ⊢
    simp [next, colonText]

theorem parted_colonText (gs : List UInt16) (parted : Parted rest) :
    Parted (colonText gs ++ rest) := by
  cases gs with
  | nil => exact parted
  | cons g gs => exact .inr ⟨_, rfl⟩

theorem readGroups_colonText (stops : Stops rest) {gs : List UInt16} {limit : Nat}
    (fits : gs.length ≤ limit) :
    readGroups limit false (colonText gs ++ rest) = ⟨gs, false, rest⟩ := by
  induction gs generalizing limit with
  | nil => exact stops.readGroups limit false
  | cons g gs ih =>
    obtain ⟨limit, rfl⟩ := Nat.exists_eq_succ_of_ne_zero (Nat.ne_zero_of_lt fits)
    have read := readGroups_group limit false g (parted_colonText gs stops.parted)
    simp only [ih (Nat.le_of_succ_le_succ fits)] at read
    simpa [colonText] using read

/-- Groups are read as they were written, up to the end or a double colon. -/
theorem readGroups_groupsText (stops : Stops rest) {gs : List UInt16} {limit : Nat}
    (fits : gs.length ≤ limit) :
    readGroups limit true (groupsText gs ++ rest) = ⟨gs, false, rest⟩ := by
  cases gs with
  | nil => exact stops.readGroups limit true
  | cons g gs =>
    obtain ⟨limit, rfl⟩ := Nat.exists_eq_succ_of_ne_zero (Nat.ne_zero_of_lt fits)
    have read := readGroups_group limit true g (parted_colonText gs stops.parted)
    simp only [readGroups_colonText stops (Nat.le_of_succ_le_succ fits)] at read
    simpa [groupsText_cons] using read

/-! ## The run that is left out -/

/-- A run within groups: so many stand before it, and all of its own are zero. -/
def Run.IsIn (r : Run) (gs : List UInt16) : Prop :=
  ∃ front back, gs = front ++ List.replicate r.length 0 ++ back ∧ front.length = r.start

/-- A run at the end of groups. An empty one may have any start. -/
def Run.Closes (r : Run) (gs : List UInt16) : Prop :=
  ∃ front, gs = front ++ List.replicate r.length 0 ∧ (r.length ≠ 0 → front.length = r.start)

theorem Run.IsIn.append {r : Run} {gs : List UInt16} (within : r.IsIn gs) (more : List UInt16) :
    r.IsIn (gs ++ more) := by
  obtain ⟨front, back, rfl, start⟩ := within
  exact ⟨front, back ++ more, by simp, start⟩

theorem Run.Closes.isIn {r : Run} {gs : List UInt16} (closes : r.Closes gs)
    (nonempty : r.length ≠ 0) : r.IsIn gs := by
  obtain ⟨front, rfl, start⟩ := closes
  exact ⟨front, [], by simp, start nonempty⟩

/-- One zero more, which begins a run if there is none. -/
theorem Run.Closes.zero {r : Run} {gs : List UInt16} (closes : r.Closes gs) :
    (if r.length = 0 then (⟨gs.length, 1⟩ : Run) else ⟨r.start, r.length + 1⟩).Closes
      (gs ++ [0]) := by
  obtain ⟨front, rfl, start⟩ := closes
  split
  · rename_i empty
    exact ⟨front, by simp [empty], fun _ => by simp [empty]⟩
  · rename_i nonempty
    refine ⟨front, ?_, fun _ => start nonempty⟩
    rw [List.append_assoc, List.replicate_succ']

/-- The run that is chosen is one of zeros. -/
theorem isIn_longestZeros (seen gs : List UInt16) {current best : Run}
    (closes : current.Closes seen) (within : best.IsIn seen) :
    (longestZeros seen.length current best gs).IsIn (seen ++ gs) := by
  induction gs generalizing seen current best with
  | nil => simpa [longestZeros] using within
  | cons g gs ih =>
    have shifted : seen ++ g :: gs = seen ++ [g] ++ gs := by simp
    have next : seen.length + 1 = (seen ++ [g]).length := by simp
    simp only [longestZeros, next, shifted]
    split
    · rename_i zero
      subst zero
      have longer := closes.zero
      generalize (if current.length = 0 then (⟨seen.length, 1⟩ : Run)
        else ⟨current.start, current.length + 1⟩) = run at longer ⊢
      refine ih _ longer ?_
      split
      · exact longer.isIn (by omega)
      · exact within.append _
    · exact ih _ ⟨seen ++ [g], by simp, by simp⟩ (within.append _)

/-! ## IPv6 -/

/-- An address is read whichever run of its zero groups a double colon stands for. -/
theorem readV6_of_run {o : Octets 16} {front back : List UInt16} {zeros : Nat}
    (nonempty : 0 < zeros) (groups : o.groups = front ++ List.replicate zeros 0 ++ back) :
    readV6 (groupsText front ++ ':' :: ':' :: groupsText back) = some (o, []) := by
  have lengths := congrArg List.length groups
  simp only [o.length_groups, List.length_append, List.length_replicate] at lengths
  have head := readGroups_groupsText (.inr ⟨groupsText back, rfl⟩)
    (show front.length ≤ 8 by omega)
  have tail := readGroups_groupsText (.inl rfl) (show back.length ≤ 7 - front.length by omega)
  have missing : 8 - front.length - back.length = zeros := by omega
  have short : front.length ≠ 8 := by omega
  have whole := o.ofGroups?_groups
  rw [List.append_nil] at tail
  rw [groups] at whole
  simp only [readV6, head, short, if_false, Bool.false_eq_true, expect_self, Option.bind_some,
    tail, missing, whole, Option.bind_eq_bind, Option.pure_def]

theorem toList_of_mapped? {o : Octets 16} {quad : Octets 4} (mapped : mapped? o = some quad) :
    o.toList = List.replicate 10 0 ++ [0xFF, 0xFF] ++ quad.toList := by
  unfold mapped? at mapped
  split at mapped
  · rename_i front
    obtain rfl := Option.some.inj mapped
    rw [← front, List.take_append_drop]
  · cases mapped

/-- The dotted quad of a mapped address is read as its last two groups. -/
theorem readV6_mapped {o : Octets 16} {quad : Octets 4} (mapped : mapped? o = some quad) :
    readV6 (':' :: ':' :: (hexadecimal 65535 ++ ':' :: v4Text quad)) = some (o, []) := by
  have head := Stops.readGroups (.inr ⟨hexadecimal 65535 ++ ':' :: v4Text quad, rfl⟩) 8 true
  have last := readV4_v4Text quad (ends_nil 10)
  rw [List.append_nil] at last
  have pair : readGroups 6 false (':' :: v4Text quad) =
      ⟨(Bytes.groups 2 quad.toList).map fun g => UInt16.ofNat (Bytes.toNat g), true, []⟩ := by
    simp [readGroups, last]
  have tail := readGroups_group 6 true 65535 (.inr ⟨v4Text quad, rfl⟩)
  simp only [if_true, List.nil_append, pair] at tail
  have two : (Bytes.groups 2 quad.toList).length = 2 := by
    rw [Bytes.length_groups Nat.two_pos, quad.length_toList]
  have whole : Octets.ofGroups? (List.replicate 5 0 ++
      65535 :: (Bytes.groups 2 quad.toList).map fun g => UInt16.ofNat (Bytes.toNat g)) =
        some o := by
    refine Octets.ofGroups?_eq ?_
    rw [List.flatMap_append, List.flatMap_cons, flatMap_groups ⟨2, quad.length_toList⟩,
      toList_of_mapped? mapped]
    rfl
  have seven : readGroups 7 true (hexadecimal 65535 ++ ':' :: v4Text quad) = _ := tail
  simp [readV6, head, seven, two, whole, -List.reduceReplicate]

theorem readV6_v6Text (o : Octets 16) : readV6 (v6Text o) = some (o, []) := by
  unfold v6Text
  split
  · rename_i quad mapped
    exact readV6_mapped mapped
  · have within := @isIn_longestZeros [] o.groups ⟨0, 0⟩ ⟨0, 0⟩ ⟨[], rfl, fun _ => rfl⟩
      ⟨[], [], rfl, rfl⟩
    rw [List.length_nil, List.nil_append] at within
    dsimp only
    generalize longestZeros 0 ⟨0, 0⟩ ⟨0, 0⟩ o.groups = zeros at within ⊢
    obtain ⟨front, back, groups, start⟩ := within
    split
    · rename_i long
      have head : o.groups.take zeros.start = front := by
        rw [groups, ← start, List.append_assoc, List.take_left]
      have tail : o.groups.drop (zeros.start + zeros.length) = back := by
        rw [groups, ← start, ← List.drop_drop]
        simp
      rw [head, tail, List.append_assoc]
      exact readV6_of_run (by omega) groups
    · have whole := o.length_groups
      have read := readGroups_groupsText (.inl rfl) whole.le
      rw [List.append_nil] at read
      simp [readV6, read, whole, o.ofGroups?_groups]

theorem ofV4Literal?_v4Text (o : Octets 4) : ofV4Literal? (v4Text o) = some o := by
  have read := readV4_v4Text o (ends_nil 10)
  rw [List.append_nil] at read
  simp only [ofV4Literal?, whole, read]

theorem ofV6Literal?_v6Text (o : Octets 16) : ofV6Literal? (v6Text o) = some o := by
  simp only [ofV6Literal?, whole, readV6_v6Text]

/-! ## Characters -/

theorem mem_joined {sep : Char} {parts : List (List Char)} (member : c ∈ joined sep parts) :
    c = sep ∨ ∃ p ∈ parts, c ∈ p := by
  fun_induction joined sep parts with
  | case1 => cases member
  | case2 p => exact .inr ⟨p, List.mem_singleton_self p, member⟩
  | case3 p ps more ih =>
    rcases List.mem_append.mp member with here | member
    · exact .inr ⟨p, List.mem_cons_self, here⟩
    · rcases List.mem_cons.mp member with same | later
      · exact .inl same
      · rcases ih later with same | ⟨q, among, there⟩
        · exact .inl same
        · exact .inr ⟨q, List.mem_cons_of_mem p among, there⟩

theorem mem_v4Text {o : Octets 4} (member : c ∈ v4Text o) : isDigitOf 10 c ∨ c = '.' := by
  rcases mem_joined member with point | ⟨_, part, digit⟩
  · exact .inr point
  · obtain ⟨b, -, rfl⟩ := List.mem_map.mp part
    exact .inl (isDigitOf_of_mem_toDigits (by decide) (by decide) digit)

theorem mem_groupsText {gs : List UInt16} (member : c ∈ groupsText gs) :
    isDigitOf 16 c ∨ c = ':' := by
  rcases mem_joined member with colon | ⟨_, part, digit⟩
  · exact .inr colon
  · obtain ⟨g, -, rfl⟩ := List.mem_map.mp part
    exact .inl (isDigitOf_of_mem_toDigits (by decide) (by decide) digit)

theorem mem_v6Text {o : Octets 16} (member : c ∈ v6Text o) :
    isDigitOf 16 c ∨ c = ':' ∨ c = '.' := by
  unfold v6Text at member
  split at member
  · rcases List.mem_append.mp member with fixed | quad
    · have letter : isDigitOf 16 'f' := by decide
      have digits : ∀ d ∈ "::ffff:".toList, isDigitOf 16 d ∨ d = ':' := by simp [letter]
      exact (digits c fixed).imp_right .inl
    · exact (mem_v4Text quad).imp (isDigitOf_mono (by decide)) .inr
  · dsimp only at member
    split at member
    · rcases List.mem_append.mp member with front | back
      · rcases List.mem_append.mp front with front | colons
        · exact (mem_groupsText front).imp_right .inl
        · have colon : ∀ d ∈ "::".toList, d = ':' := by simp
          exact .inr (.inl (colon c colons))
      · exact (mem_groupsText back).imp_right .inl
    · exact (mem_groupsText member).imp_right .inl

theorem colon_mem_v6Text (o : Octets 16) : ':' ∈ v6Text o := by
  unfold v6Text
  split
  · simp
  · dsimp only
    split
    · simp
    · obtain ⟨g, h, gs, groups⟩ : ∃ g h gs, o.groups = g :: h :: gs := by
        have eight := o.length_groups
        match o.groups, eight with
        | g :: h :: gs, _ => exact ⟨g, h, gs, rfl⟩
      rw [groups, groupsText_cons]
      exact List.mem_append_right _ List.mem_cons_self

end Ip

end SocketBridge
