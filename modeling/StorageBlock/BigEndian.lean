/-
**Numbers as bytes, most significant byte first.**

* `encode width value` writes the low bytes of a number (`encode_length`);
* `decode` reads a number (`decode_encode`: up to a power of 256).

Signed words are written as the unsigned word with the same bits (`int64_ofInt64`).
-/

import StorageBlock.Bytes

namespace StorageBlock.BigEndian

/-- The last `width` bytes of a number. -/
def encode : (width value : Nat) → Bytes
  | 0, _ => []
  | width + 1, value => encode width (value / 256) ++ [UInt8.ofNat value]

/-- The number that bytes spell. -/
def decode (bytes : Bytes) : Nat := bytes.foldl (fun total byte => 256 * total + byte.toNat) 0

@[simp] theorem encode_length (width value : Nat) : (encode width value).length = width := by
  induction width generalizing value with
  | zero => rfl
  | succ width hypothesis => simp [encode, hypothesis]

@[simp] theorem decode_append_singleton (bytes : Bytes) (byte : UInt8) :
    decode (bytes ++ [byte]) = 256 * decode bytes + byte.toNat := by
  simp [decode]

/-- **What is written reads back**, up to the bytes that were left out. -/
theorem decode_encode (width value : Nat) :
    decode (encode width value) = value % Nat.pow 256 width := by
  induction width generalizing value with
  | zero => simp [encode, decode, Nat.mod_one]
  | succ width hypothesis =>
    have split : Nat.pow 256 (width + 1) = 256 * Nat.pow 256 width := Nat.mul_comm _ _
    rw [encode, decode_append_singleton, hypothesis, UInt8.toNat_ofNat', split, Nat.mod_mul]
    omega

/-! ### Signed words -/

/-- The eight bytes of a signed 64-bit word. -/
def ofInt64 (word : Int64) : Bytes := encode 8 word.toUInt64.toNat

/-- The signed 64-bit word in eight bytes. -/
def int64 (bytes : Bytes) : Int64 := (UInt64.ofNat (decode bytes)).toInt64

/-- The four bytes of a signed 32-bit word. -/
def ofInt32 (word : Int32) : Bytes := encode 4 word.toUInt32.toNat

/-- The signed 32-bit word in four bytes. -/
def int32 (bytes : Bytes) : Int32 := (UInt32.ofNat (decode bytes)).toInt32

theorem int64_ofInt64 (word : Int64) : int64 (ofInt64 word) = word := by
  have fits : word.toUInt64.toNat < Nat.pow 256 8 := word.toUInt64.toNat_lt
  rw [int64, ofInt64, decode_encode, Nat.mod_eq_of_lt fits, UInt64.ofNat_toNat,
    Int64.toInt64_toUInt64]

theorem int32_ofInt32 (word : Int32) : int32 (ofInt32 word) = word := by
  have fits : word.toUInt32.toNat < Nat.pow 256 4 := word.toUInt32.toNat_lt
  rw [int32, ofInt32, decode_encode, Nat.mod_eq_of_lt fits, UInt32.ofNat_toNat,
    Int32.toInt32_toUInt32]

end StorageBlock.BigEndian
