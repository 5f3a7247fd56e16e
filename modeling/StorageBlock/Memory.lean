/-
**The size of byte strings in memory.**

Memory holds byte strings up to a limit, and a byte string that is given a size beyond it is not
made. Some functions are told a length, and report one, in a signed word of thirty-two bits: a
length that does not fit loses its first bits, and a report that is negative becomes a size beyond
all memory.

* `Bytes.resize`: a byte string cut or filled up to a size (`resize_of_le`: cut);
* `Bytes.lengthWord`: the length of a byte string as a word (`toNatClampNeg_lengthWord`: up to half
  the range of the word it is the length, and `lengthWord_neg_iff`: from there on it is negative);
* `Bytes.sizeOfWord`: a word as a size (`toNat_sizeOfWord_lengthWord`, `limit_lt_sizeOfWord`).
-/

import StorageBlock.Bytes

namespace StorageBlock

/-- Why a byte string cannot be made. -/
inductive SizeError where
  /-- It would be longer than memory can hold. -/
  | beyondMemory
deriving DecidableEq

/-- Why something fails: for a cause that it names, or because of a size. -/
inductive Failure (ε : Type) where
  /-- A cause that was to be expected. -/
  | cause (error : ε)
  /-- A size that was not. -/
  | size (error : SizeError)
deriving DecidableEq

namespace Bytes

/-- The greatest number of bytes that memory can hold, which is `2 ^ 63 - 1`. -/
def memoryLimit : Nat := 9223372036854775807

/-- A byte string that has been cut to a size, or filled up with zeros. -/
def resize (bytes : Bytes) (size : UInt64) : Except SizeError Bytes :=
  if memoryLimit < size.toNat then .error .beyondMemory
  else .ok (bytes.take size.toNat ++ List.replicate (size.toNat - bytes.length) 0)

/-- The length of a byte string as a signed word: its last thirty-two bits. -/
def lengthWord (bytes : Bytes) : Int32 := Int32.ofNat bytes.length

/-- A signed word as a size, of which a negative one is found at the upper end of all sizes. -/
def sizeOfWord (word : Int32) : UInt64 := word.toInt64.toUInt64

theorem resize_of_le {bytes : Bytes} {size : UInt64} (shorter : size.toNat ≤ bytes.length)
    (small : size.toNat ≤ memoryLimit) : resize bytes size = .ok (bytes.take size.toNat) := by
  rw [resize, if_neg (Nat.not_lt.mpr small), Nat.sub_eq_zero_of_le shorter, List.replicate_zero,
    List.append_nil]

theorem toNatClampNeg_lengthWord {bytes : Bytes} (short : bytes.length < 2147483648) :
    bytes.lengthWord.toNatClampNeg = bytes.length :=
  Int32.toNatClampNeg_ofNat_of_lt short

/-- **The sign of a length word**, below its whole range. -/
theorem lengthWord_neg_iff {bytes : Bytes} (below : bytes.length < 4294967296) :
    bytes.lengthWord < 0 ↔ 2147483648 ≤ bytes.length := by
  have value : bytes.lengthWord.toInt = (bytes.length : Int).bmod 4294967296 :=
    BitVec.toInt_ofNat bytes.length
  rw [Int32.lt_iff_toInt_lt, value, Int32.toInt_zero, Int.bmod_def]
  split
  · omega
  · omega

/-- A word that is not negative is the size that it says. -/
theorem toNat_sizeOfWord {word : Int32} (nonneg : 0 ≤ word) :
    (sizeOfWord word).toNat = word.toNatClampNeg := by
  have wide : 0 ≤ word.toInt64 := by
    rw [Int64.le_iff_toInt_le, Int32.toInt_toInt64]
    exact Int32.le_iff_toInt_le.mp nonneg
  rw [sizeOfWord, Int64.toNat_toUInt64_of_le wide, Int32.toNatClampNeg_toInt64]

/-- **A length that fits is reported as it is.** -/
theorem toNat_sizeOfWord_lengthWord {bytes : Bytes} (short : bytes.length < 2147483648) :
    (sizeOfWord bytes.lengthWord).toNat = bytes.length := by
  have nonneg : 0 ≤ bytes.lengthWord := by
    refine Int32.not_lt.mp fun negative => ?_
    have long := (lengthWord_neg_iff (by omega)).mp negative
    omega
  rw [toNat_sizeOfWord nonneg, toNatClampNeg_lengthWord short]

/-- **A negative word is a size beyond all memory.** -/
theorem limit_lt_sizeOfWord {word : Int32} (negative : word < 0) :
    memoryLimit < (sizeOfWord word).toNat := by
  have sign : word.toInt64.toInt < 0 := by
    rw [Int32.toInt_toInt64]
    exact Int32.lt_iff_toInt_lt.mp negative
  have value : word.toInt64.toInt = ((sizeOfWord word).toNat : Int).bmod (2 ^ 64) :=
    BitVec.toInt_eq_toNat_bmod _
  have below := (sizeOfWord word).toNat_lt
  rw [value, Int.bmod_def] at sign
  unfold memoryLimit
  split at sign
  · omega
  · omega

end Bytes

end StorageBlock
