/-
**The text of a checksum, symbol by symbol.**

A checksum is one row of bits, most significant bit of the first byte first, with as many zeros
behind it as a reader may ask for. Every symbol of the text is looked up in the alphabet by the
number in six of these bits, so that no symbol depends on how the bytes are grouped.

* `Base64.sixBits`: the number in six bits of the row;
* `Base64.sextets_getElem?`: it is the group of six that the encoder cuts out;
* `Checksum.encode_by_symbols`: the length of the text and each of its symbols.
-/

import Mathlib.Data.List.GetD
import StorageBlock.Proofs.Checksum.Canonical

namespace StorageBlock

namespace Base64

/-! ### The alphabet as a table -/

/-- The symbols for file names, in the order of their values. -/
def Alphabet.urlSafeSymbols : Bytes :=
  ascii "ABCDEFGHIJKLMNOPQRSTUVWXYZabcdefghijklmnopqrstuvwxyz0123456789-_"

theorem Alphabet.urlSafeSymbols_getElem? (value : Sextet) :
    urlSafeSymbols[value.val]? = some (urlSafe.symbol value) := by
  revert value
  decide +kernel

/-! ### Six bits of the row -/

/-- The number in the six bits from `6 * index` on of a byte string, read as one row of bits with
zeros behind it. -/
def sixBits (bytes : Bytes) (index : Nat) : Nat :=
  Nat.ofBits fun place : Fin 6 => (byteBits bytes).getD (6 * index + place.rev) false

theorem getD_append_zeros (row : List Bool) (count position : Nat) :
    (row ++ List.replicate count false).getD position false = row.getD position false := by
  by_cases inside : position < row.length
  · exact List.getD_append row _ false position inside
  · have behind : row.length ≤ position := Nat.le_of_not_lt inside
    rw [List.getD_append_right row _ false position behind, List.getD_eq_default row false behind,
      List.getD_eq_getElem?_getD, List.getElem?_getD_replicate_default_eq]

/-- **Every group of six holds six bits of the row.** -/
theorem sextets_getElem? {bytes : Bytes} {index : Nat} {value : Sextet}
    (found : (sextets bytes)[index]? = some value) : value.val = sixBits bytes index := by
  have whole : Nat.ofBits (fun place : Fin 6 => value.val.testBit place) = value.val :=
    (Nat.ofBits_testBit value.val 6).trans (Nat.mod_eq_of_lt value.isLt)
  rw [← whole]
  refine congrArg Nat.ofBits (funext fun place => ?_)
  -- The row counts the bits of a group from its most significant one.
  have bit := spell_getElem? place.rev.isLt ((sextets bytes).map Fin.val) index
  have mirrored : 6 - 1 - place.rev.val = place.val := by
    rw [Fin.val_rev]
    omega
  rw [List.getElem?_map, found, Option.map_some, Option.map_some, mirrored, ← sextetBits,
    sextetBits_sextets] at bit
  rw [← getD_append_zeros, List.getD_eq_getElem?_getD, bit, Option.getD_some]

end Base64

namespace Checksum

open Base64

/-- **The text of a checksum, symbol by symbol.** It is what the padded text of the standard
alphabet becomes without its signs and in the alphabet for file names. It has four symbols for three
bytes, rounded up, and the symbol at a place has the number in the six bits at this place, where
zeros follow the bits of the checksum. -/
theorem encode_by_symbols {checksum : Bytes} (fits : Fits checksum) :
    ∃ text, encode checksum = .ok text ∧
      text = (Padded.unpad (Padded.encode checksum)).map fromStandard ∧
      text.length = (4 * checksum.length + 2) / 3 ∧
      (∀ byte ∈ text, Alphabet.urlSafe.IsSymbol byte) ∧
      ∀ index, text[index]? =
        if index < (4 * checksum.length + 2) / 3 then
          Alphabet.urlSafeSymbols[sixBits checksum index]?
        else none := by
  have size : (sextets checksum).length = (4 * checksum.length + 2) / 3 := sextets_length checksum
  refine ⟨spelling checksum, encode_of_fits fits, spelling_eq_exchanged checksum,
    encode_length _ checksum, (canonical_spelling checksum).symbol, fun index => ?_⟩
  rw [← size, spelling, Base64.encode, List.getElem?_map]
  by_cases inside : index < (sextets checksum).length
  · have found := List.getElem?_eq_getElem inside
    rw [if_pos inside, ← sextets_getElem? found, Alphabet.urlSafeSymbols_getElem?, found,
      Option.map_some]
  · rw [if_neg inside, List.getElem?_eq_none (Nat.le_of_not_lt inside), Option.map_none]

/-- The text of two bytes has three symbols, of which the last one is completed with zeros. -/
theorem encode_by_symbols_two :
    Fits [251, 255] ∧ encode [251, 255] = .ok (ascii "-_8") ∧ sixBits [251, 255] 2 = 60 ∧
      (ascii "-_8")[2]? = Alphabet.urlSafeSymbols[60]? := by
  have fits : Fits [251, 255] := by decide
  obtain ⟨text, written, exchanged, _, _, each⟩ := encode_by_symbols fits
  have known : (Padded.unpad (Padded.encode [251, 255])).map fromStandard = ascii "-_8" := rfl
  have bits : sixBits [251, 255] 2 = 60 := by decide
  have last := each 2
  rw [bits] at last
  rw [exchanged, known] at written last
  exact ⟨fits, written, bits, last⟩

end Checksum
end StorageBlock
