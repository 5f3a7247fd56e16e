/-
**The lengths that a checksum and its text may have.**

Without words for the lengths, every checksum would have a text (`spelling`), and every text would
be read or refused for its wording (`parse`). The words allow both only up to a length, and from
there on they are wrong.

* `Fits` says of a checksum that the length of its padded text fits a signed word
  (`fits_iff_length`);
* `encode_eq`: a checksum that fits is spelt, and for a longer one there is no text; of a checksum
  whose own length does not fit, only the bytes that its word counts are looked at;
* `decode_of_short`: a text whose padded form fits is read as without words, because no more signs
  are taken away than bytes were reported (`length_of_padded`);
* `decode_of_long`: of a longer text nothing is read, although it may be accepted.
-/

import Mathlib.Algebra.Group.Nat.Defs
import StorageBlock.Proofs.Base64.Padding

namespace StorageBlock

namespace Bytes

/-- The bytes at the front of a byte string that its length word counts. -/
def counted (bytes : Bytes) : Bytes := bytes.take bytes.lengthWord.toNatClampNeg

theorem counted_of_short {bytes : Bytes} (short : bytes.length < 2 ^ 31) :
    bytes.counted = bytes := by
  rw [counted, toNatClampNeg_lengthWord short, List.take_length]

theorem counted_length (bytes : Bytes) :
    bytes.counted.length < 2 ^ 31 ∧ bytes.counted.length ≤ bytes.length := by
  have word := bytes.lengthWord.toInt_lt
  have value := Int32.toNat_toInt bytes.lengthWord
  rw [counted, List.length_take]
  omega

end Bytes

namespace Checksum

open Base64

/-! ### Writing -/

/-- The symbols of a checksum, however many they are. -/
def spelling (checksum : Bytes) : Bytes := Base64.encode .urlSafe checksum

/-- The length of the padded text fits a signed word. -/
def Fits (checksum : Bytes) : Prop := (Padded.encode checksum).length < 2 ^ 31

instance (checksum : Bytes) : Decidable (Fits checksum) :=
  inferInstanceAs (Decidable ((Padded.encode checksum).length < 2 ^ 31))

theorem fits_iff_length {checksum : Bytes} : Fits checksum ↔ checksum.length < 1610612734 := by
  rw [Fits, Padded.encode_length]
  omega

theorem Fits.counted_eq {checksum : Bytes} (fits : Fits checksum) :
    checksum.counted = checksum := by
  have short := fits_iff_length.mp fits
  exact Bytes.counted_of_short (by omega)

theorem fromStandard_symbol (value : Sextet) :
    fromStandard (Alphabet.standard.symbol value) = Alphabet.urlSafe.symbol value := by
  revert value
  decide

theorem spelling_eq_exchanged (checksum : Bytes) :
    spelling checksum = (Padded.unpad (Padded.encode checksum)).map fromStandard := by
  rw [Padded.unpad_encode, List.map_map, spelling, Base64.encode]
  exact List.map_congr_left fun value _ => (fromStandard_symbol value).symm

/-- **The text of a checksum of any length.** -/
theorem encode_eq (checksum : Bytes) :
    encode checksum =
      if Fits checksum.counted then .ok (spelling checksum.counted)
      else .error .beyondMemory := by
  by_cases nothing : checksum = []
  · subst nothing
    rfl
  have below := (Bytes.counted_length checksum).1
  have width := Padded.encode_length checksum.counted
  rw [encode, if_neg nothing, spelling_eq_exchanged]
  show (Bytes.resize (Padded.encode checksum.counted)
    (Bytes.sizeOfWord (Bytes.lengthWord (Padded.encode checksum.counted)))).map _ = _
  by_cases fits : Fits checksum.counted
  · have small : (Padded.encode checksum.counted).length < 2 ^ 31 := fits
    have size := Bytes.toNat_sizeOfWord_lengthWord small
    rw [if_pos fits, Bytes.resize_of_le (Nat.le_of_eq size) (by unfold Bytes.memoryLimit; omega),
      size, List.take_length]
    rfl
  · have negative : Bytes.lengthWord (Padded.encode checksum.counted) < 0 :=
      (Bytes.lengthWord_neg_iff (by omega)).mpr (Nat.le_of_not_lt fits)
    rw [if_neg fits, Bytes.resize, if_pos (Bytes.limit_lt_sizeOfWord negative)]
    rfl

theorem encode_of_fits {checksum : Bytes} (fits : Fits checksum) :
    encode checksum = .ok (spelling checksum) := by
  rw [encode_eq, fits.counted_eq, if_pos fits]

/-- **There is no text for a longer checksum**, as long as a word holds its own length. -/
theorem encode_of_long {checksum : Bytes} (long : ¬ Fits checksum)
    (short : checksum.length < 2 ^ 31) : encode checksum = .error .beyondMemory := by
  rw [encode_eq, Bytes.counted_of_short short, if_neg long]

/-- A text is the symbols of the bytes at the front. -/
theorem eq_spelling_of_encode {checksum text : Bytes} (written : encode checksum = .ok text) :
    Fits checksum.counted ∧ text = spelling checksum.counted := by
  rw [encode_eq] at written
  split at written
  · next fits => exact ⟨fits, (Except.ok.inj written).symm⟩
  · cases written

/-! ### Reading -/

/-- The checksum that a text of any length would stand for. -/
def parse (text : Bytes) : Except FormatError Bytes :=
  if text = [] then .ok []
  else if text.length % 4 = 1 then .error (.length text)
  else if text.any isForeign then .error (.character text)
  else
    match Padded.decode (padded text) with
    | none => .error (.encoding text)
    | some bytes => .ok (bytes.take (bytes.length - padding text.length))

/-- **The difference does not wrap around** if at least as much is reported as was added. -/
theorem toNat_remaining {bytes : Bytes} {added : Nat} (small : bytes.length < 2 ^ 31)
    (enough : added ≤ bytes.length) :
    (remaining (Bytes.lengthWord bytes) added).toNat = bytes.length - added := by
  have wide : Bytes.sizeOfWord (Bytes.lengthWord bytes) = UInt64.ofNat bytes.length := by
    rw [← UInt64.toNat_inj, Bytes.toNat_sizeOfWord_lengthWord small,
      UInt64.toNat_ofNat_of_lt' (by unfold UInt64.size; omega)]
  calc (remaining (Bytes.lengthWord bytes) added).toNat
      = (UInt64.ofNat (bytes.length - added)).toNat := by
        rw [remaining, wide, UInt64.ofNat_sub enough]
    _ = bytes.length - added := UInt64.toNat_ofNat_of_lt' (by unfold UInt64.size; omega)

/-- **What is read of a completed text** is at least as much as the padding, because the padding
stays at the end of the body and makes it a whole group, and no more than three bytes for each four
of the text. -/
theorem length_of_padded {text bytes : Bytes} (read : Padded.decode (padded text) = some bytes) :
    padding text.length ≤ bytes.length ∧ bytes.length ≤ 3 * ((padded text).length / 4) := by
  obtain ⟨whole, count⟩ := Padded.decode_length read
  have inside := Padded.body_length_le (padded text)
  have few : padding text.length ≤ 3 := by
    unfold padding
    omega
  refine ⟨?_, by omega⟩
  by_cases complete : padding text.length = 0
  · omega
  · obtain ⟨signs, added⟩ := Nat.exists_eq_add_one_of_ne_zero complete
    have ending := congrArg List.length (Padded.body_append_signs (text.map toStandard) signs)
    rw [List.length_append, List.length_replicate] at ending
    rw [padded, added] at whole count
    omega

/-- **A text is read as without words** if the length of its padded form fits one. -/
theorem decode_of_short {text : Bytes} (short : (padded text).length < 2 ^ 31) :
    decode text = (parse text).mapError .cause := by
  unfold decode parse
  split
  · rfl
  split
  · rfl
  split
  · rfl
  rw [Padded.decodeFirst, ← Bytes.counted, Bytes.counted_of_short short]
  cases read : Padded.decode (padded text) with
  | none => rfl
  | some bytes =>
    obtain ⟨enough, inside⟩ := length_of_padded read
    have small : bytes.length < 2 ^ 31 := by omega
    have accepted : ¬ Bytes.lengthWord bytes < 0 := by
      rw [Bytes.lengthWord_neg_iff (by omega)]
      omega
    have size := toNat_remaining small enough
    show (if Bytes.lengthWord bytes < 0 then _ else
      (Bytes.resize bytes (remaining (Bytes.lengthWord bytes) _)).mapError _) = _
    rw [if_neg accepted, Bytes.resize_of_le (by omega) (by unfold Bytes.memoryLimit; omega), size]
    rfl

theorem decode_eq_ok_iff {text checksum : Bytes} (short : (padded text).length < 2 ^ 31) :
    decode text = .ok checksum ↔ parse text = .ok checksum := by
  rw [decode_of_short short]
  cases parse text with
  | ok read => simp only [Except.mapError, Except.ok.injEq]
  | error refused => simp only [Except.mapError, reduceCtorEq]

theorem decode_eq_cause_iff {text : Bytes} {error : FormatError}
    (short : (padded text).length < 2 ^ 31) :
    decode text = .error (.cause error) ↔ parse text = .error error := by
  rw [decode_of_short short]
  cases parse text with
  | ok read => simp only [Except.mapError, reduceCtorEq]
  | error refused => simp only [Except.mapError, Except.error.injEq, Failure.cause.injEq]

/-- **A text whose length is a negative word** is not looked at: it passes for the text of an empty
checksum, or more signs are taken away than bytes were reported. -/
theorem decode_of_long {text : Bytes} (possible : text.length % 4 ≠ 1)
    (own : text.any isForeign = false) (long : 2 ^ 31 ≤ (padded text).length)
    (below : (padded text).length < 2 ^ 32) :
    decode text =
      if padding text.length = 0 then .ok [] else .error (.size .beyondMemory) := by
  have nonempty : text ≠ [] := by
    rintro rfl
    exact absurd long (by decide)
  have negative := (Bytes.lengthWord_neg_iff below).mpr long
  have nothing : (Bytes.lengthWord (padded text)).toNatClampNeg = 0 := by
    rw [Int32.lt_iff_toInt_lt, Int32.toInt_zero] at negative
    rw [Int32.toNatClampNeg]
    omega
  have read : Padded.decodeFirst (Bytes.lengthWord (padded text)) (padded text) = ([], 0) := by
    rw [Padded.decodeFirst, nothing]
    rfl
  have few : padding text.length < 4 := Nat.mod_lt _ (by decide)
  have outcome : ∀ added < 4, Bytes.resize [] (remaining 0 added) =
      if added = 0 then .ok [] else .error .beyondMemory := by decide
  rw [decode, if_neg nonempty, if_neg possible, own, read]
  show (Bytes.resize [] (remaining 0 (padding text.length))).mapError Failure.size = _
  rw [outcome _ few]
  split
  · rfl
  · rfl

end Checksum
end StorageBlock
