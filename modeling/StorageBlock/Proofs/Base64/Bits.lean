/-
**Base64 as a regrouping of bits.**

Bytes are runs of eight bits and symbols are runs of six, most significant bit first. Read as one
row of bits, both sides of the encoding are the same row, up to the bits that fill the last group.

* `spell` is the row of bits of numbers of one width, `spell_getElem?` finds a bit in it, and
  `spell_injective` reads it back;
* `byteBits_octets`: whole groups of four symbols are the bits of their bytes;
* `sextetBits_sextets`: bytes cut into groups of six are their bits, filled up with zeros;
* `byteBits_unpadded`: groups of six determine the whole bytes at the front of their bits;
* `sextets_unpadded_iff`: groups of six come back from their bytes exactly if the bits that belong
  to no byte are zero.
-/

import Mathlib.Algebra.Group.Nat.Defs
import StorageBlock.Proofs.Base64.Unpadded

namespace StorageBlock.Base64

open Checksum (padding)

/-! ### The bits of a number -/

/-- The low `width` bits of a number, most significant first. -/
def bits : (width value : Nat) → List Bool
  | 0, _ => []
  | width + 1, value => value.testBit width :: bits width value

theorem bits_length (width value : Nat) : (bits width value).length = width := by
  induction width with
  | zero => rfl
  | succ width hypothesis => rw [bits, List.length_cons, hypothesis]

theorem bits_add (high low value : Nat) :
    bits (high + low) value = bits high (value / 2 ^ low) ++ bits low value := by
  induction high with
  | zero => rw [Nat.zero_add]; rfl
  | succ high hypothesis =>
    rw [Nat.add_right_comm, bits, bits, hypothesis, Nat.testBit_div_two_pow, List.cons_append]

/-- Higher bits do not show. -/
theorem bits_mod (width value : Nat) : bits width (value % 2 ^ width) = bits width value := by
  suffices general : ∀ low, low ≤ width → bits low (value % 2 ^ width) = bits low value from
    general width (Nat.le_refl _)
  intro low
  induction low with
  | zero => exact fun _ => rfl
  | succ low hypothesis =>
    intro inside
    rw [bits, bits, hypothesis (Nat.le_of_succ_le inside), Nat.testBit_mod_two_pow,
      decide_eq_true (Nat.lt_of_succ_le inside), Bool.true_and]

theorem bits_eq_iff {width first second : Nat} :
    bits width first = bits width second ↔ first % 2 ^ width = second % 2 ^ width := by
  constructor
  · intro same
    induction width with
    | zero => rw [Nat.pow_zero, Nat.mod_one, Nat.mod_one]
    | succ width hypothesis =>
      rw [bits, bits, List.cons.injEq, Nat.testBit_eq_decide_div_mod_eq,
        Nat.testBit_eq_decide_div_mod_eq, decide_eq_decide] at same
      rw [Nat.mod_pow_succ, Nat.mod_pow_succ, hypothesis same.2]
      have top : first / 2 ^ width % 2 = second / 2 ^ width % 2 := by omega
      rw [top]
  · intro same
    rw [← bits_mod, same, bits_mod]

theorem bits_zero (width : Nat) : bits width 0 = List.replicate width false := by
  induction width with
  | zero => rfl
  | succ width hypothesis => rw [bits, Nat.zero_testBit, hypothesis, List.replicate_succ]

theorem bits_drop (high low value : Nat) :
    (bits (high + low) value).drop high = bits low value := by
  rw [bits_add]
  exact List.drop_left' (bits_length _ _)

theorem bits_getElem? {width place : Nat} (inside : place < width) (value : Nat) :
    (bits width value)[place]? = some (value.testBit (width - 1 - place)) := by
  induction width generalizing place with
  | zero => exact absurd inside (Nat.not_lt_zero place)
  | succ width hypothesis =>
    cases place with
    | zero => rfl
    | succ place =>
      have behind : width + 1 - 1 - (place + 1) = width - 1 - place := by omega
      rw [bits, List.getElem?_cons_succ, hypothesis (Nat.lt_of_succ_lt_succ inside), behind]

theorem bits_all_false {width value : Nat} :
    (∀ bit ∈ bits width value, bit = false) ↔ value % 2 ^ width = 0 := by
  have zero : (0 : Nat) % 2 ^ width = 0 := Nat.zero_mod _
  rw [← zero, ← bits_eq_iff, bits_zero, List.eq_replicate_iff]
  exact ⟨fun all => ⟨bits_length _ _, all⟩, fun both => both.2⟩

/-! ### The bits of several numbers -/

/-- The bits of numbers of one width, one after the other. -/
def spell (width : Nat) (values : List Nat) : List Bool := values.flatMap (bits width)

theorem spell_append (width : Nat) (first second : List Nat) :
    spell width (first ++ second) = spell width first ++ spell width second :=
  List.flatMap_append

theorem spell_length (width : Nat) (values : List Nat) :
    (spell width values).length = width * values.length := by
  induction values with
  | nil => rfl
  | cons value values hypothesis =>
    rw [spell, List.flatMap_cons, List.length_append, bits_length, ← spell, hypothesis,
      List.length_cons, Nat.mul_succ, Nat.add_comm]

theorem spell_take (width count : Nat) (values : List Nat) :
    (spell width values).take (width * count) = spell width (values.take count) := by
  by_cases inside : count ≤ values.length
  · have front : (spell width (values.take count)).length = width * count := by
      rw [spell_length, List.length_take, Nat.min_eq_left inside]
    calc (spell width values).take (width * count)
        = (spell width (values.take count) ++ spell width (values.drop count)).take
            (width * count) := by rw [← spell_append, List.take_append_drop]
      _ = spell width (values.take count) := List.take_left' front
  · have beyond : values.length ≤ count := Nat.le_of_not_le inside
    rw [List.take_of_length_le beyond, List.take_of_length_le]
    rw [spell_length]
    exact Nat.mul_le_mul_left width beyond

/-- A bit of the row, by the number it belongs to and its place within. -/
theorem spell_getElem? {width place : Nat} (inside : place < width) (values : List Nat)
    (index : Nat) :
    (spell width values)[width * index + place]? =
      values[index]?.map fun value => value.testBit (width - 1 - place) := by
  induction values generalizing index with
  | nil => rfl
  | cons value values hypothesis =>
    rw [spell, List.flatMap_cons, ← spell]
    cases index with
    | zero =>
      have front : width * 0 + place < (bits width value).length := by
        rw [bits_length, Nat.mul_zero, Nat.zero_add]
        exact inside
      rw [List.getElem?_append_left front, Nat.mul_zero, Nat.zero_add, bits_getElem? inside]
      rfl
    | succ index =>
      have position : width * (index + 1) + place =
          (bits width value).length + (width * index + place) := by
        rw [bits_length, Nat.mul_succ]
        omega
      rw [position, List.getElem?_append_right (Nat.le_add_right _ _), Nat.add_sub_cancel_left,
        hypothesis, List.getElem?_cons_succ]

theorem spell_zeros (width count : Nat) :
    spell width (List.replicate count 0) = List.replicate (width * count) false := by
  induction count with
  | zero => rfl
  | succ count hypothesis =>
    rw [List.replicate_succ, spell, List.flatMap_cons, ← spell, hypothesis, bits_zero,
      List.replicate_append_replicate, Nat.mul_succ, Nat.add_comm]

/-- **A row of bits is read in one way**, as numbers of a width that is not zero. -/
theorem spell_injective {width : Nat} (positive : 0 < width) {first second : List Nat}
    (firstFits : ∀ value ∈ first, value < 2 ^ width)
    (secondFits : ∀ value ∈ second, value < 2 ^ width)
    (same : spell width first = spell width second) : first = second := by
  -- Numbers of one width have rows of one length, so the rows can be compared front to front.
  induction first generalizing second with
  | nil =>
    have size := congrArg List.length same
    rw [spell_length, spell_length, List.length_nil, Nat.mul_zero] at size
    rcases Nat.mul_eq_zero.mp size.symm with zero | none
    · exact absurd zero (Nat.ne_of_gt positive)
    · exact (List.eq_nil_of_length_eq_zero none).symm
  | cons value first hypothesis =>
    cases second with
    | nil =>
      have size := congrArg List.length same
      rw [spell_length, spell_length, List.length_nil, List.length_cons] at size
      exact absurd size (Nat.ne_of_gt (Nat.mul_pos positive (Nat.succ_pos _)))
    | cons other second =>
      obtain ⟨head, tail⟩ := List.append_inj same (by rw [bits_length, bits_length])
      rw [List.forall_mem_cons] at firstFits secondFits
      have equal := bits_eq_iff.mp head
      rw [Nat.mod_eq_of_lt firstFits.1, Nat.mod_eq_of_lt secondFits.1] at equal
      rw [equal, hypothesis firstFits.2 secondFits.2 tail]

/-! ### Bytes and groups of six -/

/-- The bits of a byte string. -/
def byteBits (bytes : Bytes) : List Bool := spell 8 (bytes.map UInt8.toNat)

/-- The bits of groups of six. -/
def sextetBits (values : List Sextet) : List Bool := spell 6 (values.map Fin.val)

theorem byteBits_length (bytes : Bytes) : (byteBits bytes).length = 8 * bytes.length := by
  rw [byteBits, spell_length, List.length_map]

theorem sextetBits_length (values : List Sextet) :
    (sextetBits values).length = 6 * values.length := by
  rw [sextetBits, spell_length, List.length_map]

theorem byteBits_append (first second : Bytes) :
    byteBits (first ++ second) = byteBits first ++ byteBits second := by
  rw [byteBits, List.map_append, spell_append, byteBits, byteBits]

theorem sextetBits_append (first second : List Sextet) :
    sextetBits (first ++ second) = sextetBits first ++ sextetBits second := by
  rw [sextetBits, List.map_append, spell_append, sextetBits, sextetBits]

theorem byteBits_take (bytes : Bytes) (count : Nat) :
    byteBits (bytes.take count) = (byteBits bytes).take (8 * count) := by
  rw [byteBits, byteBits, spell_take, List.map_take]

theorem byteBits_injective {first second : Bytes} (same : byteBits first = byteBits second) :
    first = second := by
  have fits : ∀ bytes : Bytes, ∀ value ∈ bytes.map UInt8.toNat, value < 2 ^ 8 := by
    intro bytes value member
    obtain ⟨byte, _, rfl⟩ := List.mem_map.mp member
    exact byte.toNat_lt
  exact (List.map_inj_right fun _ _ => UInt8.toNat_inj.mp).mp
    (spell_injective (by decide) (fits first) (fits second) same)

theorem sextetBits_injective {first second : List Sextet}
    (same : sextetBits first = sextetBits second) : first = second := by
  have fits : ∀ values : List Sextet, ∀ value ∈ values.map Fin.val, value < 2 ^ 6 := by
    intro values value member
    obtain ⟨sextet, _, rfl⟩ := List.mem_map.mp member
    exact sextet.isLt
  exact (List.map_inj_right fun _ _ => Fin.ext).mp
    (spell_injective (by decide) (fits first) (fits second) same)

/-- Twenty-four bits are three bytes and four groups of six. -/
theorem bits_twentyFour (whole : Nat) :
    bits 8 (whole / 65536) ++ (bits 8 (whole / 256) ++ bits 8 whole) =
      bits 6 (whole / 262144) ++
        (bits 6 (whole / 4096) ++ (bits 6 (whole / 64) ++ bits 6 whole)) := by
  have octetsLow : bits 16 whole = bits 8 (whole / 256) ++ bits 8 whole := bits_add 8 8 whole
  have octetsAll : bits 24 whole = bits 8 (whole / 65536) ++ bits 16 whole := bits_add 8 16 whole
  have sextetsLow : bits 12 whole = bits 6 (whole / 64) ++ bits 6 whole := bits_add 6 6 whole
  have sextetsMore : bits 18 whole = bits 6 (whole / 4096) ++ bits 12 whole := bits_add 6 12 whole
  have sextetsAll : bits 24 whole = bits 6 (whole / 262144) ++ bits 18 whole :=
    bits_add 6 18 whole
  rw [← octetsLow, ← octetsAll, ← sextetsLow, ← sextetsMore, ← sextetsAll]

theorem bits_octet (value : Nat) : bits 8 (UInt8.ofNat value).toNat = bits 8 value :=
  bits_mod 8 value

/-- Four groups of six are the bits of three bytes. -/
theorem byteBits_octets_group (first second third fourth : Sextet) (rest : List Sextet) :
    byteBits (octets (first :: second :: third :: fourth :: rest)) =
      sextetBits [first, second, third, fourth] ++ byteBits (octets rest) := by
  have := first.isLt
  have := second.isLt
  have := third.isLt
  have := fourth.isLt
  generalize sum : first.val * 262144 + second.val * 4096 + third.val * 64 + fourth.val = whole
  have one : bits 6 (whole / 262144) = bits 6 first.val := bits_eq_iff.mpr (by omega)
  have two : bits 6 (whole / 4096) = bits 6 second.val := bits_eq_iff.mpr (by omega)
  have three : bits 6 (whole / 64) = bits 6 third.val := bits_eq_iff.mpr (by omega)
  have four : bits 6 whole = bits 6 fourth.val := bits_eq_iff.mpr (by omega)
  have joined := bits_twentyFour whole
  rw [one, two, three, four, ← bits_octet, ← bits_octet (whole / 256), ← bits_octet whole]
    at joined
  have head : byteBits [UInt8.ofNat (whole / 65536), UInt8.ofNat (whole / 256),
      UInt8.ofNat whole] = sextetBits [first, second, third, fourth] := by
    show bits 8 _ ++ (bits 8 _ ++ (bits 8 _ ++ [])) =
      bits 6 _ ++ (bits 6 _ ++ (bits 6 _ ++ (bits 6 _ ++ [])))
    rw [List.append_nil, List.append_nil]
    exact joined
  rw [← head, ← byteBits_append, octets, sum]
  rfl

/-- **Whole groups of four have the bits of their bytes.** -/
theorem byteBits_octets {values : List Sextet} (whole : values.length % 4 = 0) :
    byteBits (octets values) = sextetBits values := by
  fun_induction octets values with
  | case1 first second third fourth rest _ hypothesis =>
    have restWhole : rest.length % 4 = 0 := by
      simp only [List.length_cons] at whole
      omega
    have group := byteBits_octets_group first second third fourth rest
    rw [hypothesis restWhole, ← sextetBits_append] at group
    exact group
  | case2 values short =>
    rcases values with _ | ⟨first, _ | ⟨second, _ | ⟨third, _ | ⟨fourth, rest⟩⟩⟩⟩
    · rfl
    · exact absurd whole (Nat.succ_ne_zero 0)
    · exact absurd whole (Nat.succ_ne_zero 1)
    · exact absurd whole (Nat.succ_ne_zero 2)
    · exact absurd rfl (short _ _ _ _ _)

/-! ### Groups that do not fill a last group of four -/

theorem complete_whole (values : List Sextet) : (complete values).length % 4 = 0 := by
  rw [complete, List.length_append, List.length_replicate, padding]
  omega

theorem sextetBits_complete (values : List Sextet) :
    sextetBits (complete values) =
      sextetBits values ++ List.replicate (6 * padding values.length) false := by
  rw [complete, sextetBits_append, sextetBits, sextetBits, List.map_replicate]
  exact congrArg _ (spell_zeros 6 _)

/-- **The groups of a byte string are its bits**, filled up with zeros. -/
theorem sextetBits_sextets (bytes : Bytes) :
    sextetBits (sextets bytes) = byteBits bytes ++
      List.replicate (6 * (sextets bytes).length - 8 * bytes.length) false := by
  have zeros (count : Nat) : byteBits (List.replicate count 0) =
      List.replicate (8 * count) false := by
    rw [byteBits, List.map_replicate]
    exact spell_zeros 8 count
  have whole : sextetBits (sextets bytes) ++
      List.replicate (6 * padding (sextets bytes).length) false =
      byteBits bytes ++ List.replicate (8 * padding (sextets bytes).length) false := by
    rw [← sextetBits_complete, ← byteBits_octets (complete_whole _), octets_complete_sextets,
      byteBits_append, zeros]
  -- Both rows are cut behind the bits of the groups that were there before completion.
  have front := congrArg (List.take (6 * (sextets bytes).length)) whole
  have inside : 8 * bytes.length ≤ 6 * (sextets bytes).length := by
    rw [sextets_length]
    omega
  have added : 6 * (sextets bytes).length - 8 * bytes.length ≤
      8 * padding (sextets bytes).length := by
    rw [sextets_length, padding]
    have : bytes.length % 3 = 0 ∨ bytes.length % 3 = 1 ∨ bytes.length % 3 = 2 := by omega
    rcases this with full | one | two
    all_goals omega
  rw [List.take_left' (sextetBits_length _), List.take_append, byteBits_length,
    List.take_of_length_le (by rw [byteBits_length]; exact inside), List.take_replicate,
    Nat.min_eq_left added] at front
  exact front

/-- **The bytes of groups of six are the whole bytes at the front of their bits.** -/
theorem byteBits_unpadded (values : List Sextet) :
    byteBits (unpadded values) = (sextetBits values).take (8 * (3 * values.length / 4)) := by
  have inside : 8 * (3 * values.length / 4) ≤ (sextetBits values).length := by
    rw [sextetBits_length]
    omega
  rw [unpadded, byteBits_take, byteBits_octets (complete_whole _), sextetBits_complete,
    List.take_append_of_le_length inside]

theorem unpadded_length (values : List Sextet) :
    (unpadded values).length = 3 * values.length / 4 := by
  rw [unpadded, List.length_take, octets_length, complete, List.length_append,
    List.length_replicate, padding]
  omega

theorem sextets_unpadded_length {values : List Sextet} (possible : values.length % 4 ≠ 1) :
    (sextets (unpadded values)).length = values.length := by
  rw [sextets_length, unpadded_length]
  have : values.length % 4 = 0 ∨ values.length % 4 = 2 ∨ values.length % 4 = 3 := by omega
  rcases this with full | two | three
  all_goals omega

/-- **Groups of six come back from their bytes** exactly if the bits behind the last whole byte
are zero. A single group behind the last four determines no byte and never comes back. -/
theorem sextets_unpadded_iff {values : List Sextet} (possible : values.length % 4 ≠ 1) :
    sextets (unpadded values) = values ↔
      ∀ bit ∈ (sextetBits values).drop (8 * (3 * values.length / 4)), bit = false := by
  have written := sextetBits_sextets (unpadded values)
  rw [sextets_unpadded_length possible, byteBits_unpadded, unpadded_length] at written
  have rest : ((sextetBits values).drop (8 * (3 * values.length / 4))).length =
      6 * values.length - 8 * (3 * values.length / 4) := by
    rw [List.length_drop, sextetBits_length]
  constructor
  · intro same
    rw [same] at written
    have tail : (sextetBits values).drop (8 * (3 * values.length / 4)) = List.replicate _ false :=
      List.append_cancel_left ((List.take_append_drop _ _).trans written)
    rw [tail]
    exact fun bit member => List.eq_of_mem_replicate member
  · intro zero
    apply sextetBits_injective
    rw [written, ← rest, ← List.eq_replicate_of_mem zero, List.take_append_drop]

end StorageBlock.Base64
