/-
**What reading a description finds.**

A reader is described twice. From the side of success, it accepts exactly the bytes that begin with
an encoding (`Wire.takeBlock_eq_ok`): the blocks it gives are the canonical ones
(`Block.Canonical`), and what it leaves is what follows. From the side of failure, the outcome is
decided by the length of the bytes and two of their words alone (`Wire.takeBlock_eq`).

* `Block.Describable`: the blocks whose description can be read again;
* `Block.normal`: what they become, an empty checksum being an absent one.
-/

import StorageBlock.Wire.Reader

namespace StorageBlock

/-! ### Words -/

namespace BigEndian

/-- **Bytes are written as they were read.** -/
theorem encode_decode {width : Nat} {bytes : Bytes} (exactly : bytes.length = width) :
    encode width (decode bytes) = bytes := by
  induction width generalizing bytes with
  | zero =>
    rw [List.length_eq_zero_iff.mp exactly]
    rfl
  | succ width hypothesis =>
    have nonempty : bytes ≠ [] := List.length_pos_iff.mp (by omega)
    have split := List.dropLast_concat_getLast nonempty
    have front : bytes.dropLast.length = width := by
      rw [List.length_dropLast]
      omega
    have last := (bytes.getLast nonempty).toNat_lt
    rw [← split, decode_append_singleton, encode]
    have quotient : (256 * decode bytes.dropLast + (bytes.getLast nonempty).toNat) / 256 =
        decode bytes.dropLast := by omega
    have byte : UInt8.ofNat (256 * decode bytes.dropLast + (bytes.getLast nonempty).toNat) =
        bytes.getLast nonempty := by
      rw [← UInt8.toNat_inj, UInt8.toNat_ofNat']
      omega
    rw [quotient, byte, hypothesis front]

theorem decode_lt (bytes : Bytes) : decode bytes < Nat.pow 256 bytes.length := by
  have positive : 0 < Nat.pow 256 bytes.length := Nat.pow_pos (by decide)
  have value := decode_encode bytes.length (decode bytes)
  rw [encode_decode rfl] at value
  rw [value]
  exact Nat.mod_lt _ positive

@[simp] theorem ofInt64_length (word : Int64) : (ofInt64 word).length = 8 := encode_length _ _

@[simp] theorem ofInt32_length (word : Int32) : (ofInt32 word).length = 4 := encode_length _ _

theorem ofInt64_int64 {bytes : Bytes} (exactly : bytes.length = 8) :
    ofInt64 (int64 bytes) = bytes := by
  have small := decode_lt bytes
  rw [exactly] at small
  have fits : (UInt64.ofNat (decode bytes)).toNat = decode bytes :=
    UInt64.toNat_ofNat_of_lt' small
  rw [ofInt64, int64, UInt64.toUInt64_toInt64, fits, encode_decode exactly]

theorem ofInt32_int32 {bytes : Bytes} (exactly : bytes.length = 4) :
    ofInt32 (int32 bytes) = bytes := by
  have small := decode_lt bytes
  rw [exactly] at small
  have fits : (UInt32.ofNat (decode bytes)).toNat = decode bytes :=
    UInt32.toNat_ofNat_of_lt' small
  rw [ofInt32, int32, UInt32.toUInt32_toInt32, fits, encode_decode exactly]

end BigEndian

/-! ### Which blocks the format carries -/

namespace Block

/-- A block whose description can be read again: its length is not negative, and the length of its
checksum fits a signed 32-bit word. -/
structure Describable (block : Block) : Prop where
  length_nonneg : 0 ≤ block.length
  checksum_short : block.checksumLength < 2147483648

/-- A block that can be read from a description: an empty checksum is an absent one. -/
structure Canonical (block : Block) : Prop extends block.Describable where
  checksum_ne_empty : block.checksum ≠ some []

/-- The block with an absent checksum in place of an empty one. -/
def normal (block : Block) : Block :=
  { block with checksum := if block.checksum = some [] then none else block.checksum }

theorem getD_normal (block : Block) : block.normal.checksum.getD [] = block.checksum.getD [] := by
  by_cases empty : block.checksum = some []
  · simp only [normal, empty, if_true, Option.getD_none, Option.getD_some]
  · simp only [normal, empty, if_false]

/-- An empty checksum leaves the same bytes as an absent one. -/
theorem encode_normal (block : Block) : block.normal.encode = block.encode := by
  simp only [encode, checksumLength, getD_normal]
  rfl

theorem wireLength_normal (block : Block) : block.normal.wireLength = block.wireLength := by
  rw [← encode_length, encode_normal, encode_length]

theorem Describable.canonical_normal {block : Block} (describable : block.Describable) :
    block.normal.Canonical where
  length_nonneg := describable.length_nonneg
  checksum_short := by
    rw [checksumLength, getD_normal]
    exact describable.checksum_short
  checksum_ne_empty := by
    by_cases empty : block.checksum = some []
    · simp only [normal, empty, if_true, ne_eq, reduceCtorEq, not_false_eq_true]
    · simp only [normal, empty, if_false, ne_eq, not_false_eq_true]

end Block

/-! ### Success: what a reader accepts -/

namespace Wire

theorem bind_eq_ok {ε α β : Type} {first : Except ε α} {next : α → Except ε β} {result : β} :
    (first >>= next) = .ok result ↔ ∃ value, first = .ok value ∧ next value = .ok result := by
  cases first with
  | error error => simp only [bind, Except.bind, reduceCtorEq, false_and, exists_false]
  | ok value => simp only [bind, Except.bind, Except.ok.injEq, exists_eq_left']

theorem takeLong_eq_ok {bytes rest : Bytes} {word : Int64} :
    takeLong bytes = .ok (word, rest) ↔ bytes = BigEndian.ofInt64 word ++ rest := by
  unfold takeLong
  constructor
  · intro taken
    split at taken
    next => cases taken
    next long =>
      obtain ⟨rfl, rfl⟩ : BigEndian.int64 (bytes.take 8) = word ∧ bytes.drop 8 = rest := by
        simpa using taken
      rw [BigEndian.ofInt64_int64 (List.length_take_of_le (by omega)), List.take_append_drop]
  · rintro rfl
    have width := BigEndian.ofInt64_length word
    rw [if_neg (by rw [List.length_append]; omega), List.take_left' width, List.drop_left' width,
      BigEndian.int64_ofInt64]

theorem takeInt_eq_ok {bytes rest : Bytes} {word : Int32} :
    takeInt bytes = .ok (word, rest) ↔ bytes = BigEndian.ofInt32 word ++ rest := by
  unfold takeInt
  constructor
  · intro taken
    split at taken
    next => cases taken
    next long =>
      obtain ⟨rfl, rfl⟩ : BigEndian.int32 (bytes.take 4) = word ∧ bytes.drop 4 = rest := by
        simpa using taken
      rw [BigEndian.ofInt32_int32 (List.length_take_of_le (by omega)), List.take_append_drop]
  · rintro rfl
    have width := BigEndian.ofInt32_length word
    rw [if_neg (by rw [List.length_append]; omega), List.take_left' width, List.drop_left' width,
      BigEndian.int32_ofInt32]

/-- A length word that is not negative is the word of its own value. -/
theorem ofNat_count {word : Int32} (nonneg : ¬word < 0) : Int32.ofNat word.toInt.toNat = word :=
  Int32.ofNat_toNatClampNeg word (Int32.not_lt.mp nonneg)

theorem count_lt (word : Int32) : word.toInt.toNat < 2147483648 := word.toNatClampNeg_lt

/-- A count that fits keeps its value as a length word. -/
theorem toInt_ofNat_count {count : Nat} (short : count < 2147483648) :
    (Int32.ofNat count).toInt = count := Int32.toInt_ofNat_of_lt short

theorem ofNat_count_nonneg {count : Nat} (short : count < 2147483648) :
    ¬Int32.ofNat count < 0 := by
  rw [Int32.lt_iff_toInt_lt, toInt_ofNat_count short, Int32.toInt_zero]
  omega

theorem takeChecksum_eq_ok {bytes rest : Bytes} {checksum : Option Bytes} :
    takeChecksum bytes = .ok (checksum, rest) ↔
      bytes = BigEndian.ofInt32 (Int32.ofNat (checksum.getD []).length) ++
          (checksum.getD [] ++ rest) ∧
        (checksum.getD []).length < 2147483648 ∧ checksum ≠ some [] := by
  rw [takeChecksum, bind_eq_ok]
  constructor
  · rintro ⟨⟨length, body⟩, word, taken⟩
    obtain rfl := takeInt_eq_ok.mp word
    dsimp only at taken
    split at taken
    next => cases taken
    next nonneg =>
      split at taken
      next zero =>
        obtain ⟨rfl, rfl⟩ : none = checksum ∧ body = rest := by simpa using taken
        rw [zero]
        exact ⟨rfl, by decide, by simp⟩
      next nonzero =>
        split at taken
        next => cases taken
        next long =>
          obtain ⟨rfl, rfl⟩ : some (body.take length.toInt.toNat) = checksum ∧
              body.drop length.toInt.toNat = rest := by simpa using taken
          have width : (body.take length.toInt.toNat).length = length.toInt.toNat :=
            List.length_take_of_le (by omega)
          rw [Option.getD_some, width, ofNat_count nonneg, List.take_append_drop]
          refine ⟨rfl, count_lt length, fun empty => nonzero ?_⟩
          rw [Option.some.inj empty] at width
          rw [← ofNat_count nonneg, ← width]
          rfl
  · rintro ⟨rfl, short, nonempty⟩
    refine ⟨_, takeInt_eq_ok.mpr rfl, ?_⟩
    have value := toInt_ofNat_count short
    dsimp only
    rw [if_neg (ofNat_count_nonneg short)]
    cases checksum with
    | none => rfl
    | some checksum =>
      have positive : 0 < checksum.length :=
        List.length_pos_iff.mpr fun empty => nonempty (by rw [empty])
      rw [Option.getD_some] at value ⊢
      have nonzero : Int32.ofNat checksum.length ≠ 0 := by
        intro zero
        rw [zero, Int32.toInt_zero] at value
        omega
      rw [if_neg nonzero, value, Int.toNat_natCast, if_neg (by rw [List.length_append]; omega),
        List.take_left, List.drop_left]

/-- **Reading succeeds exactly on the encodings of canonical blocks**, whatever follows them. -/
theorem takeBlock_eq_ok {bytes rest : Bytes} {block : Block} :
    takeBlock bytes = .ok (block, rest) ↔ bytes = block.encode ++ rest ∧ block.Canonical := by
  have layout : block.encode ++ rest = BigEndian.ofInt64 block.id ++
      (BigEndian.ofInt64 block.length ++ (BigEndian.ofInt64 block.generation ++
        (BigEndian.ofInt32 (Int32.ofNat (block.checksum.getD []).length) ++
          (block.checksum.getD [] ++ rest)))) := by
    rw [Block.encode]
    simp only [List.append_assoc, Block.checksumLength]
  rw [layout, takeBlock]
  simp only [bind_eq_ok, Prod.exists, takeLong_eq_ok]
  constructor
  · rintro ⟨id, _, rfl, length, _, rfl, generation, _, rfl, taken⟩
    split at taken
    next => cases taken
    next nonneg =>
      obtain ⟨⟨checksum, _⟩, found, same⟩ := bind_eq_ok.mp taken
      obtain ⟨rfl, short, nonempty⟩ := takeChecksum_eq_ok.mp found
      obtain ⟨rfl, rfl⟩ : ⟨id, length, generation, checksum⟩ = block ∧ _ = rest := by
        simpa using same
      exact ⟨rfl, ⟨Int64.not_lt.mp nonneg, short⟩, nonempty⟩
  · rintro ⟨rfl, canonical⟩
    refine ⟨_, _, rfl, _, _, rfl, _, _, rfl, ?_⟩
    rw [if_neg (Int64.not_lt.mpr canonical.length_nonneg)]
    exact bind_eq_ok.mpr ⟨_, takeChecksum_eq_ok.mpr
      ⟨rfl, canonical.checksum_short, canonical.checksum_ne_empty⟩, rfl⟩

/-! ### Failure: which fault is found first -/

/-- The 64-bit word at a position. -/
def longAt (bytes : Bytes) (position : Nat) : Int64 :=
  BigEndian.int64 ((bytes.drop position).take 8)

/-- The 32-bit word at a position. -/
def intAt (bytes : Bytes) (position : Nat) : Int32 :=
  BigEndian.int32 ((bytes.drop position).take 4)

/-- The length of the checksum, as its word tells it. -/
def countAt (bytes : Bytes) (position : Nat) : Nat := (intAt bytes position).toInt.toNat

/-- The block that bytes describe if no fault is found. -/
def found (bytes : Bytes) : Block :=
  ⟨longAt bytes 0, longAt bytes 8, longAt bytes 16,
    if countAt bytes 24 = 0 then none else some ((bytes.drop 28).take (countAt bytes 24))⟩

theorem found_checksumLength (bytes : Bytes) :
    (found bytes).checksumLength = min (countAt bytes 24) (bytes.length - 28) := by
  unfold Block.checksumLength found
  by_cases zero : countAt bytes 24 = 0
  · simp only [zero, if_true, Option.getD_none, List.length_nil, Nat.zero_min]
  · simp only [zero, if_false, Option.getD_some, List.length_take, List.length_drop]

theorem takeLong_of_short {bytes : Bytes} (short : bytes.length < 8) :
    takeLong bytes = .error (.tooSmall .long) := by
  rw [takeLong, if_pos short]

theorem takeLong_drop {bytes : Bytes} {position : Nat} (long : position + 8 ≤ bytes.length) :
    takeLong (bytes.drop position) = .ok (longAt bytes position, bytes.drop (position + 8)) := by
  rw [takeLong, if_neg (by rw [List.length_drop]; omega), List.drop_drop, longAt]

theorem takeInt_drop {bytes : Bytes} {position : Nat} (long : position + 4 ≤ bytes.length) :
    takeInt (bytes.drop position) = .ok (intAt bytes position, bytes.drop (position + 4)) := by
  rw [takeInt, if_neg (by rw [List.length_drop]; omega), List.drop_drop, intAt]

/-- **The outcome of reading the checksum**, whose length stands at a position. -/
theorem takeChecksum_drop (bytes : Bytes) (position : Nat) :
    takeChecksum (bytes.drop position) =
      if bytes.length < position + 4 then .error (.tooSmall .int)
      else if intAt bytes position < 0 then .error (.negativeChecksumLength (intAt bytes position))
      else if bytes.length < position + 4 + countAt bytes position then
        .error (.tooSmall .checksum)
      else .ok (if countAt bytes position = 0 then none
        else some ((bytes.drop (position + 4)).take (countAt bytes position)),
          bytes.drop (position + 4 + countAt bytes position)) := by
  by_cases short : bytes.length < position + 4
  · rw [if_pos short, takeChecksum, takeInt, if_pos (by rw [List.length_drop]; omega)]
    rfl
  rw [if_neg short, takeChecksum, takeInt_drop (by omega)]
  show (if intAt bytes position < 0 then _ else _) = _
  by_cases negative : intAt bytes position < 0
  · rw [if_pos negative, if_pos negative]
  rw [if_neg negative, if_neg negative]
  by_cases zero : intAt bytes position = 0
  · have count : countAt bytes position = 0 := by
      rw [countAt, zero]
      rfl
    rw [if_pos zero, count, Nat.add_zero, if_neg short, if_pos rfl]
  · have count : countAt bytes position ≠ 0 := by
      intro count
      apply zero
      rw [← ofNat_count negative, ← countAt, count]
      rfl
    rw [if_neg zero, if_neg count]
    show (if (bytes.drop (position + 4)).length < countAt bytes position then _ else _) = _
    by_cases cut : bytes.length < position + 4 + countAt bytes position
    · rw [if_pos cut, if_pos (by rw [List.length_drop]; omega)]
    · rw [if_neg cut, if_neg (by rw [List.length_drop]; omega), List.drop_drop]
      rfl

/-- **The outcome of reading a description**: the first of five faults, or the block. -/
theorem takeBlock_eq (bytes : Bytes) :
    takeBlock bytes =
      if bytes.length < 24 then .error (.tooSmall .long)
      else if longAt bytes 8 < 0 then .error (.negativeLength (longAt bytes 8))
      else if bytes.length < 28 then .error (.tooSmall .int)
      else if intAt bytes 24 < 0 then .error (.negativeChecksumLength (intAt bytes 24))
      else if bytes.length < 28 + countAt bytes 24 then .error (.tooSmall .checksum)
      else .ok (found bytes, bytes.drop (28 + countAt bytes 24)) := by
  have cut : ∀ {position : Nat}, bytes.length < position + 8 →
      takeLong (bytes.drop position) = .error (.tooSmall .long) := fun short =>
    takeLong_of_short (by rw [List.length_drop]; omega)
  rw [takeBlock, ← List.drop_zero (l := bytes)]
  by_cases first : bytes.length < 8
  · rw [cut (by omega), List.drop_zero, if_pos (by omega)]
    rfl
  rw [takeLong_drop (by omega)]
  show (takeLong (bytes.drop 8) >>= _) = _
  by_cases second : bytes.length < 16
  · rw [cut (by omega), List.drop_zero, if_pos (by omega)]
    rfl
  rw [takeLong_drop (by omega)]
  show (takeLong (bytes.drop 16) >>= _) = _
  by_cases third : bytes.length < 24
  · rw [cut (by omega), List.drop_zero, if_pos third]
    rfl
  rw [takeLong_drop (by omega), List.drop_zero, if_neg third]
  show (if longAt bytes 8 < 0 then _ else takeChecksum (bytes.drop 24) >>= _) = _
  by_cases negative : longAt bytes 8 < 0
  · rw [if_pos negative, if_pos negative]
  rw [if_neg negative, if_neg negative, takeChecksum_drop]
  by_cases fourth : bytes.length < 28
  · rw [if_pos fourth, if_pos fourth]
    rfl
  rw [if_neg fourth, if_neg fourth]
  by_cases corrupt : intAt bytes 24 < 0
  · rw [if_pos corrupt, if_pos corrupt]
    rfl
  rw [if_neg corrupt, if_neg corrupt]
  by_cases fifth : bytes.length < 28 + countAt bytes 24
  · rw [if_pos fifth, if_pos fifth]
    rfl
  · rw [if_neg fifth, if_neg fifth]
    rfl

end Wire
end StorageBlock
