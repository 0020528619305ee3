import SocketBridge.Proofs.Address.Stored
import SocketBridge.Proofs.Bytes

/-!
# Element buffers read back

Elements of any width are the big-endian digits of one number, in a base that the width gives. So
the elements of an address at one width determine those at every other, and an address is rebuilt
from its elements at any width that it can be packed into.
-/

namespace SocketBridge

namespace ElementWidth

theorem bytes_pos (w : ElementWidth) : 0 < w.bytes := by cases w <;> decide

theorem pow_bits (w : ElementWidth) : 2 ^ w.bits = 256 ^ w.bytes := by
  rw [bits, Nat.pow_mul]

/-- Only 64 bits do not divide an IPv4 address. -/
theorem dvd_octets_iff (w : ElementWidth) {family : Family} :
    w.bytes ∣ (if family = .inet6 then 16 else 4) ↔ family = .inet6 ∨ w ≠ .u64 := by
  by_cases wide : family = .inet6
  · cases w <;> simp [wide, bytes]
  · cases w <;> simp [wide, bytes]

end ElementWidth

namespace Elements

variable {e e' : Elements} {width : ElementWidth} {bs : List UInt8}

@[ext] theorem ext (width : e.width = e'.width) (values : e.values = e'.values) : e = e' := by
  cases e
  cases e'
  cases width
  cases values
  rfl

/-- The number whose digits the elements are, the most significant one first. -/
def toNat (e : Elements) : Nat := e.values.foldl (fun n value => 2 ^ e.width.bits * n + value) 0

/-- Elements of perhaps another width that take as many bytes and are digits of the same number. -/
structure Regroups (e e' : Elements) : Prop where
  bytes : e.values.length * e.width.bytes = e'.values.length * e'.width.bytes
  toNat : e.toNat = e'.toNat

/-! ## Bytes -/

theorem value_lt {value : Nat} (member : value ∈ e.values) : value < 256 ^ e.width.bytes :=
  e.width.pow_bits ▸ e.values_lt value member

theorem values_pack (width : ElementWidth) (bs : List UInt8) :
    (pack width bs).values = (Bytes.groups width.bytes bs).map Bytes.toNat := by
  obtain ⟨widths, -⟩ := Bytes.groups_spec width.bytes_pos bs
  refine (List.map_congr_left fun n member => ?_).trans (List.map_id' _)
  obtain ⟨g, among, rfl⟩ := List.mem_map.mp member
  have small := Bytes.toNat_lt g
  rw [widths g among, ← width.pow_bits] at small
  exact Nat.mod_eq_of_lt small

theorem length_unpack (e : Elements) : e.unpack.length = e.values.length * e.width.bytes := by
  simp only [unpack, List.length_flatMap, Bytes.length_ofNat, List.map_const',
    List.sum_replicate_nat]

/-- Elements take so many bytes if their width divides these and there are as many as fit. -/
theorem length_unpack_eq_iff (e : Elements) (size : Nat) :
    e.unpack.length = size ↔ e.width.bytes ∣ size ∧ e.values.length = size / e.width.bytes := by
  rw [e.length_unpack]
  constructor
  · rintro rfl
    exact ⟨Nat.dvd_mul_left .., (Nat.mul_div_cancel _ e.width.bytes_pos).symm⟩
  · rintro ⟨whole, length⟩
    rw [length, Nat.div_mul_cancel whole]

theorem unpack_pack (whole : width.bytes ∣ bs.length) : (pack width bs).unpack = bs := by
  obtain ⟨widths, flat⟩ := Bytes.groups_spec width.bytes_pos bs
  have same : ∀ g ∈ Bytes.groups width.bytes bs, Bytes.ofNat width.bytes (Bytes.toNat g) = g := by
    intro g member
    rw [← widths g member, Bytes.ofNat_toNat]
  have own : (pack width bs).width = width := rfl
  rw [unpack, values_pack, own, List.flatMap_map, List.flatMap_def, List.map_congr_left same,
    List.map_id', flat whole]

theorem pack_unpack (e : Elements) : pack e.width e.unpack = e := by
  have cut : Bytes.groups e.width.bytes e.unpack = e.values.map (Bytes.ofNat e.width.bytes) := by
    rw [unpack, List.flatMap_def]
    refine Bytes.groups_flatten e.width.bytes_pos fun g member => ?_
    obtain ⟨value, -, rfl⟩ := List.mem_map.mp member
    exact Bytes.length_ofNat ..
  refine ext rfl ?_
  rw [values_pack, cut, List.map_map]
  have same : ∀ value ∈ e.values, Bytes.toNat (Bytes.ofNat e.width.bytes value) = value := by
    intro value member
    rw [Bytes.toNat_ofNat, Nat.mod_eq_of_lt (value_lt member)]
  exact (List.map_congr_left same).trans (List.map_id' _)

/-- The elements are digits of the number that their bytes stand for. -/
theorem toNat_eq (e : Elements) : e.toNat = Bytes.toNat e.unpack := by
  obtain ⟨width, values, small⟩ := e
  simp only [toNat, unpack]
  induction values using List.reverseRecOn with
  | nil => rfl
  | append_singleton values value ih =>
    obtain ⟨front, last⟩ := List.forall_mem_append.mp small
    have digit : value < 256 ^ width.bytes := width.pow_bits ▸ last value List.mem_cons_self
    simp only [List.foldl_append, List.foldl_cons, List.foldl_nil, List.flatMap_append,
      List.flatMap_singleton, Bytes.toNat_append, Bytes.length_ofNat, Bytes.toNat_ofNat,
      Nat.mod_eq_of_lt digit]
    rw [ih front, width.pow_bits]

theorem unpack_eq_iff : e.unpack = e'.unpack ↔ e.Regroups e' := by
  constructor
  · intro same
    refine ⟨?_, ?_⟩
    · rw [← length_unpack, ← length_unpack, same]
    · rw [toNat_eq, toNat_eq, same]
  · intro ⟨length, number⟩
    rw [← length_unpack, ← length_unpack] at length
    rw [toNat_eq, toNat_eq] at number
    rw [← Bytes.ofNat_toNat e.unpack, ← Bytes.ofNat_toNat e'.unpack, length, number]

/-- At one width there is one way to regroup elements. -/
theorem Regroups.unique {first second : Elements} (one : e.Regroups first)
    (other : e.Regroups second) (width : first.width = second.width) : first = second := by
  have same := (unpack_eq_iff.mpr one).symm.trans (unpack_eq_iff.mpr other)
  rw [← pack_unpack first, ← pack_unpack second, width, same]

end Elements

namespace Address

variable {family : Family} {e : Elements} {port : UInt16} {scope : Option UInt32} {a : Address}
  {width : ElementWidth}

/-- Whatever is wrong with the number of elements shows in the number of their bytes. -/
theorem ofElements_eq_ok_iff :
    ofElements family e port scope = .ok a ↔ ofOctets family e.unpack port scope = .ok a := by
  have fits (built : ofOctets family e.unpack port scope = .ok a) :=
    (Elements.length_unpack_eq_iff e _).mp (exists_ofOctets_iff.mp ⟨a, built⟩).2.1
  cases family with
  | inet | inet6 =>
    simp only [ofElements, AddressMaker.ofElements, Family.layout?, elementCount,
      ← Nat.dvd_iff_mod_eq_zero]
    split
    · simp only [bind, Except.bind]
      split
      · exact Iff.rfl
      · rename_i other
        exact iff_of_false (by rintro ⟨⟩) fun built => other (fits built).2
    · rename_i broken
      exact iff_of_false (by rintro ⟨⟩) fun built => broken (fits built).1
  | unspec | unix => simp [ofElements, AddressMaker.ofElements, ofOctets, Family.layout?]

theorem toElements_of_dvd (whole : width.bytes ∣ a.octets.length) :
    a.toElements width = .ok (.pack width a.octets) := by
  rw [toElements, elementCount, if_pos (Nat.dvd_iff_mod_eq_zero.mp whole)]
  rfl

/-- What built an address is what it is packed into. -/
theorem toElements_of_ofElements (built : ofElements family e port scope = .ok a)
    (whole : width.bytes ∣ if family = .inet6 then 16 else 4) :
    a.toElements width = .ok (.pack width e.unpack) ∧
      e.Regroups (.pack width e.unpack) := by
  rw [ofElements_eq_ok_iff] at built
  obtain ⟨rfl, octets, -⟩ := ofOctets_eq_ok built
  rw [← length_octets] at whole
  have packed := toElements_of_dvd whole
  rw [octets] at packed whole
  exact ⟨packed, Elements.unpack_eq_iff.mp (Elements.unpack_pack whole).symm⟩

/-- An address is built again from what it is packed into. -/
theorem ofElements_pack (whole : width.bytes ∣ a.octets.length) :
    ofElements a.family (.pack width a.octets) a.port a.scope = .ok (a.withHostname "") := by
  rw [ofElements_eq_ok_iff, Elements.unpack_pack whole, ofOctets_shown]

end Address

/-- Elements of one width build an address exactly if they are of a family that has addresses, their
width divides its length and there are just as many as it takes, and if PF_INET is given no zone;
and at that width the address gives them back. At every width that divides the length it gives what
takes as many bytes and is made of digits of the same big-endian number, of which there is one only.
An address is packed into elements of every width, of 64 bits only for PF_INET6; these are digits of
the number that its bytes stand for, and from them it is built again but for its name. -/
theorem elements_invert_addresses :
    (∀ (family : Family) (e : Elements) (port : UInt16) (scope : Option UInt32),
      let size := if family = .inet6 then 16 else 4
      ((∃ a, Address.ofElements family e port scope = .ok a) ↔
        (family = .inet ∨ family = .inet6) ∧ e.width.bytes ∣ size ∧
          e.values.length = size / e.width.bytes ∧
          (family = .inet → scope = none ∨ scope = some 0)) ∧
      ∀ a, Address.ofElements family e port scope = .ok a →
        a.toElements e.width = .ok e ∧
        ∀ width, width.bytes ∣ size → ∃ regrouped, a.toElements width = .ok regrouped ∧
          regrouped.width = width ∧ e.Regroups regrouped ∧
          ∀ other : Elements, other.width = width → e.Regroups other → other = regrouped) ∧
    ∀ (a : Address) (width : ElementWidth),
      (a.family = .inet ∧ width = .u64 → a.toElements width = .error (.width .inet .u64)) ∧
      (¬(a.family = .inet ∧ width = .u64) →
        ∃ e, a.toElements width = .ok e ∧ e.width = width ∧ e.toNat = Bytes.toNat a.octets ∧
          Address.ofElements a.family e a.port a.scope = .ok (a.withHostname "")) := by
  refine ⟨fun family e port scope => ⟨?_, fun a built => ⟨?_, fun width whole => ?_⟩⟩,
    fun a width => ⟨fun ⟨inet, wide⟩ => ?_, fun fits => ?_⟩⟩
  · simp only [Address.ofElements_eq_ok_iff, Address.exists_ofOctets_iff,
      Elements.length_unpack_eq_iff, and_assoc]
  · have whole := (Address.exists_ofOctets_iff.mp ⟨a, Address.ofElements_eq_ok_iff.mp built⟩).2.1
    have packed := Address.toElements_of_ofElements built
      ((Elements.length_unpack_eq_iff e _).mp whole).1
    rw [packed.1, e.pack_unpack]
  · obtain ⟨packed, regroups⟩ := Address.toElements_of_ofElements built whole
    exact ⟨_, packed, rfl, regroups, fun other same that => that.unique regroups same⟩
  · rw [Address.toElements, inet, wide, a.length_octets, inet]
    rfl
  · have whole : width.bytes ∣ a.octets.length := by
      rw [a.length_octets, width.dvd_octets_iff]
      rcases a.family_cases with inet | inet6
      · exact .inr fun wide => fits ⟨inet, wide⟩
      · exact .inl inet6
    refine ⟨_, Address.toElements_of_dvd whole, rfl, ?_, Address.ofElements_pack whole⟩
    rw [Elements.toNat_eq, Elements.unpack_pack whole]

end SocketBridge
