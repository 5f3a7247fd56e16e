/-
**The length word of a checksum.**

The length of a checksum is written as a signed word of thirty-two bits, and the bytes of the
checksum are written all the same. Up to the greatest such word the description is read back as it
was written. A longer checksum leaves a word that is negative, so that the reader takes its own
format for corrupt, or one that is too small, so that it stops within the checksum.

* `Block.lengthWord`: the number in the length word, for a checksum of any length;
* `Wire.takeBlock_encode`: what a reader makes of the whole description;
* `Block.read_back_iff_short`: which descriptions are read back;
* `Block.overlong_read_back`: the shortest checksum that is not.
-/

import Mathlib.Algebra.Group.Nat.Defs
import StorageBlock.Proofs.Wire.Stream

namespace StorageBlock

namespace Block

/-- The number in the length word: of the length of the checksum, it has the last thirty-two bits,
and the first of these counts negative. -/
def lengthWord (block : Block) : Int := (block.checksumLength : Int).bmod (2 ^ 32)

theorem toInt_lengthWord (block : Block) :
    (Int32.ofNat block.checksumLength).toInt = block.lengthWord :=
  BitVec.toInt_ofNat block.checksumLength

theorem lengthWord_le (block : Block) : block.lengthWord ≤ block.checksumLength := by
  have wrapped := Int.bmod_def block.checksumLength (2 ^ 32)
  unfold lengthWord
  split at wrapped
  · omega
  · omega

/-- **The length word tells the length** exactly if this is below half the range of the word. -/
theorem lengthWord_eq_iff (block : Block) :
    block.lengthWord = block.checksumLength ↔ block.checksumLength < 2 ^ 31 := by
  have wrapped := Int.bmod_def block.checksumLength (2 ^ 32)
  unfold lengthWord
  split at wrapped
  · omega
  · omega

end Block

/-! ### Reading a whole description -/

/-- **What a reader makes of a description** depends on its length word alone, once the length of
the data is not negative. -/
theorem Wire.takeBlock_encode {block : Block} (counted : 0 ≤ block.length) :
    takeBlock block.encode =
      if block.lengthWord < 0 then
        .error (.negativeChecksumLength (Int32.ofNat block.checksumLength))
      else .ok (found block.encode, block.encode.drop (28 + block.lengthWord.toNat)) := by
  have width : block.encode.length = 28 + block.checksumLength := block.encode_length
  have word : (Int32.ofNat block.checksumLength).toInt = block.lengthWord :=
    block.toInt_lengthWord
  have count : countAt block.encode 24 = block.lengthWord.toNat := by
    rw [countAt, intAt_encode, word]
  have sign : Int32.ofNat block.checksumLength < 0 ↔ block.lengthWord < 0 := by
    rw [Int32.lt_iff_toInt_lt, word, Int32.toInt_zero]
  -- A word that is too small asks for less than is there, so that no check for space fails.
  have inside := block.lengthWord_le
  rw [takeBlock_eq, width, if_neg (by omega), longAt_encode, if_neg (Int64.not_lt.mpr counted),
    if_neg (by omega), intAt_encode, count]
  simp only [sign]
  rw [if_neg (c := _ < _ + _) (by omega)]

namespace Block

/-- **The outcome of reading back what has been written.** A record can be made of what is read if
one can be made of what was written, because no more of the checksum is read. -/
theorem read_encode {block : Block} (target : Block) (counted : 0 ≤ block.length)
    {logger : Option Logger} (loggable : block.Loggable logger) :
    (target.read block.encode logger).result =
      if block.lengthWord < 0 then
        .error (.cause (.negativeChecksumLength (Int32.ofNat block.checksumLength)))
      else .ok (28 + block.lengthWord.toNat) := by
  have width : block.encode.length = 28 + block.checksumLength := block.encode_length
  have inside := block.lengthWord_le
  have taken := Wire.takeBlock_encode counted
  by_cases negative : block.lengthWord < 0
  · rw [if_pos negative] at taken
    rw [if_pos negative, read, taken]
  · have count : Wire.countAt block.encode 24 = block.lengthWord.toNat := by
      rw [Wire.countAt, Wire.intAt_encode, toInt_lengthWord]
    have readable : (Wire.found block.encode).Loggable logger := by
      refine loggable.imp_right fun fits => ?_
      rw [fits_iff_checksumLength] at fits ⊢
      have size := Wire.found_checksumLength block.encode
      omega
    have consumed : block.encode.length -
        (block.encode.drop (28 + block.lengthWord.toNat)).length =
          28 + block.lengthWord.toNat := by
      rw [List.length_drop]
      omega
    rw [if_neg negative] at taken ⊢
    rw [read_of_takeBlock taken target readable.note_readRecord, consumed]

/-- The least length that does not fit leaves the least word. -/
theorem read_encode_of_half {block : Block} (target : Block) (counted : 0 ≤ block.length)
    (half : block.checksumLength = 2147483648) :
    (target.read block.encode none).result =
      .error (.cause (.negativeChecksumLength (-2147483648))) := by
  have negative : block.lengthWord < 0 := by
    unfold lengthWord
    rw [half]
    decide
  have word : Int32.ofNat 2147483648 = -2147483648 := by decide
  rw [read_encode target counted (.inl rfl), if_pos negative, half, word]

/-- Writing succeeds only by writing the whole description. -/
theorem written_of_ok {block : Block} {window : Window} {logger : Option Logger} {count : Nat}
    (success : (block.write window logger).result = .ok count) :
    count = block.wireLength ∧
      ((block.write window logger).buffer.drop window.start).take count = block.encode := by
  by_cases short : window.limit < block.wireLength
  · rw [write_of_short short] at success
    cases success
  have fits := Nat.le_of_not_lt short
  cases noted : Logger.note block.writeRecord logger with
  | error error =>
    rw [write_of_unnoted fits noted] at success
    cases success
  | ok after =>
    rw [write_of_fits fits noted] at success ⊢
    obtain rfl : block.wireLength = count := Except.ok.inj success
    exact ⟨rfl, block.written_bytes window⟩

/-- **A description is read back exactly if its checksum is short enough.** Writing succeeds for a
checksum of any length; reading the bytes that were written then fails if the length word is
negative, and otherwise consumes as many bytes as the length word says. -/
theorem read_back_iff_short (block : Block) (counted : 0 ≤ block.length) (window : Window)
    (logger : Option Logger) (count : Nat)
    (success : (block.write window logger).result = .ok count) (target : Block)
    (readerLogger : Option Logger) (readable : block.Loggable readerLogger) :
    let bytes := ((block.write window logger).buffer.drop window.start).take count
    ((target.read bytes readerLogger).result = .ok count ↔ block.checksumLength < 2 ^ 31) ∧
      (target.read bytes readerLogger).result =
        if block.lengthWord < 0 then
          .error (.cause (.negativeChecksumLength (Int32.ofNat block.checksumLength)))
        else .ok (28 + block.lengthWord.toNat) := by
  intro bytes
  obtain ⟨rfl, whole⟩ := written_of_ok success
  have outcome := read_encode target counted readable
  have same : bytes = block.encode := whole
  rw [same]
  refine ⟨?_, outcome⟩
  rw [outcome, ← lengthWord_eq_iff]
  have width : block.wireLength = 28 + block.checksumLength := rfl
  by_cases negative : block.lengthWord < 0
  · rw [if_pos negative]
    refine iff_of_false (fun same => by cases same) (by omega)
  · rw [if_neg negative, Except.ok.injEq]
    omega

/-- A description with a checksum of two bytes is read back whole. -/
theorem read_back_iff_short_two :
    let block : Block := ⟨7, 100, 2, some [251, 255]⟩
    let window : Window := .whole (List.replicate 40 170)
    let written := block.write window none
    0 ≤ block.length ∧ written.result = .ok 30 ∧ block.checksumLength < 2 ^ 31 ∧
      block.Loggable none ∧ ∀ target : Block,
        (target.read ((written.buffer.drop window.start).take 30) none).result = .ok 30 := by
  intro block window written
  have counted : 0 ≤ block.length := by decide
  have short : block.checksumLength < 2 ^ 31 := by decide
  have readable : block.Loggable none := .inl rfl
  have success : written.result = .ok 30 :=
    congrArg Written.result (write_of_fits (by decide) readable.note_writeRecord)
  refine ⟨counted, success, short, readable, fun target => ?_⟩
  exact (read_back_iff_short block counted window none 30 success target none readable).1.mpr short

/-- **The shortest checksum that is too long**: half the range of the length word. The description
is written whole, and a reader takes it for corrupt. -/
theorem overlong_read_back :
    let block : Block := ⟨1, 0, 0, some (List.replicate 2147483648 0)⟩
    let window : Window := .whole (List.replicate 2147483676 0)
    let written := block.write window none
    0 ≤ block.length ∧ written.result = .ok 2147483676 ∧
      ∀ target : Block,
        (target.read ((written.buffer.drop window.start).take 2147483676) none).result =
          .error (.cause (.negativeChecksumLength (-2147483648))) := by
  intro block window written
  have counted : 0 ≤ block.length := Int64.le_refl 0
  have half : block.checksumLength = 2147483648 := List.length_replicate
  have limit : window.limit = 2147483676 := List.length_replicate
  -- From here on only the two lengths count, not the bytes.
  clear_value block window
  have width : block.wireLength = 2147483676 := by
    rw [wireLength, half, fixedLength]
  have success : written.result = .ok 2147483676 := by
    have whole := write_of_fits (Nat.le_of_eq (width.trans limit.symm))
      (Loggable.note_writeRecord (.inl rfl))
    rw [width] at whole
    exact congrArg Written.result whole
  refine ⟨counted, success, fun target => ?_⟩
  rw [(written_of_ok success).2]
  exact read_encode_of_half target counted half

end Block
end StorageBlock
