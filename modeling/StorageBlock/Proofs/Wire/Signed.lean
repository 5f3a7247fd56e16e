/-
**Words as signed numbers.**

A word of the binary format is a number in two's complement, most significant byte first. Both
directions are said here of bytes and whole numbers, with no machine word between them, and the
words of the library agree.

* `BigEndian.signed`: the number that bytes stand for (`toInt_int64`, `toInt_int32`);
* `BigEndian.twosComplement`: the bytes of a number (`ofInt64_eq`).
-/

import Mathlib.Data.List.Induction
import Mathlib.Data.Nat.Digits.Defs
import StorageBlock.BigEndian

namespace StorageBlock.BigEndian

/-! ### Reading -/

/-- The number that bytes stand for: their first bit counts negative. -/
def signed (bytes : Bytes) : Int :=
  ((Nat.ofDigits 256 (bytes.reverse.map UInt8.toNat) : Nat) : Int).bmod (256 ^ bytes.length)

theorem decode_eq_ofDigits (bytes : Bytes) :
    decode bytes = Nat.ofDigits 256 (bytes.reverse.map UInt8.toNat) := by
  induction bytes using List.reverseRecOn with
  | nil => rfl
  | append_singleton bytes byte hypothesis =>
    rw [decode_append_singleton, hypothesis, List.reverse_append, List.reverse_singleton,
      List.singleton_append, List.map_cons, Nat.ofDigits_cons, Nat.add_comm]

theorem toInt_int64 {bytes : Bytes} (exactly : bytes.length = 8) :
    (int64 bytes).toInt = signed bytes := by
  rw [signed, ← decode_eq_ofDigits, exactly]
  exact BitVec.toInt_ofNat (decode bytes)

theorem toInt_int32 {bytes : Bytes} (exactly : bytes.length = 4) :
    (int32 bytes).toInt = signed bytes := by
  rw [signed, ← decode_eq_ofDigits, exactly]
  exact BitVec.toInt_ofNat (decode bytes)

/-! ### Writing -/

/-- The bytes of a number, of which as many are written as fit the width. -/
def twosComplement (width : Nat) (number : Int) : Bytes :=
  (List.range width).reverse.map fun place => UInt8.ofNat (number / 256 ^ place % 256).toNat

theorem twosComplement_succ (width : Nat) (number : Int) :
    twosComplement (width + 1) number =
      twosComplement width (number / 256) ++ [UInt8.ofNat (number % 256).toNat] := by
  have shift (place : Nat) : number / 256 ^ (place + 1) = number / 256 / 256 ^ place := by
    rw [Int.pow_succ', Int.ediv_ediv_of_nonneg (by decide)]
  simp [twosComplement, List.range_succ_eq_map, shift]

/-- Numbers that agree in the bytes that are written are written alike. -/
theorem encode_eq_twosComplement {width value : Nat} {number : Int}
    (same : (value : Int) % 256 ^ width = number % 256 ^ width) :
    encode width value = twosComplement width number := by
  induction width generalizing value number with
  | zero => rfl
  | succ width hypothesis =>
    -- The difference is a multiple of all the bytes together, and so of those in front.
    obtain ⟨more, difference⟩ :=
      Int.dvd_of_emod_eq_zero (Int.emod_eq_emod_iff_emod_sub_eq_zero.mp same)
    have value_eq : (value : Int) = number + 256 * (256 ^ width * more) := by
      rw [← Int.mul_assoc, ← Int.pow_succ', ← difference]
      omega
    have low : (number % 256).toNat = value % 256 := by omega
    have high : ((value / 256 : Nat) : Int) % 256 ^ width = number / 256 % 256 ^ width := by
      rw [Int.natCast_ediv, value_eq]
      show (number + 256 * (256 ^ width * more)) / 256 % 256 ^ width = _
      rw [Int.add_mul_ediv_left _ _ (by decide), Int.add_mul_emod_self_left]
    rw [encode, twosComplement_succ, hypothesis high, low, UInt8.ofNat_mod_size]

theorem ofInt64_eq (word : Int64) : ofInt64 word = twosComplement 8 word.toInt := by
  refine encode_eq_twosComplement ?_
  have value : word.toInt = (word.toUInt64.toNat : Int).bmod (2 ^ 64) :=
    BitVec.toInt_eq_toNat_bmod _
  rw [value]
  exact Int.bmod_emod.symm

end StorageBlock.BigEndian
