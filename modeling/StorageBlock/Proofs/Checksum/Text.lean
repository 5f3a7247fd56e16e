/-
**The text of a checksum.**

The text is Base64 without padding; the reader completes it, reads it leniently and drops what was
added.

* `parse_symbols`: what the reader makes of symbols;
* `decode_spelling`: the text of a checksum that fits is read back as this checksum;
* `encode_ne_absentText`: the word for an absent checksum is the text of no checksum, although it
  could be read as one;
* `wording_injective`: a checksum is known from its text, and so is that there is none;
* `Block.setChecksumText_checksumText`: a checksum carried from one block to another as text.
-/

import StorageBlock.Block.Text
import StorageBlock.Proofs.Checksum.Lengths

namespace StorageBlock

namespace Checksum

open Base64

theorem toStandard_symbol (value : Sextet) :
    toStandard (Alphabet.urlSafe.symbol value) = Alphabet.standard.symbol value := by
  revert value
  decide

theorem symbol_not_foreign (value : Sextet) :
    isForeign (Alphabet.urlSafe.symbol value) = false := by
  revert value
  decide

theorem map_toStandard (values : List Sextet) :
    (values.map Alphabet.urlSafe.symbol).map toStandard =
      values.map Alphabet.standard.symbol := by
  rw [List.map_map]
  exact List.map_congr_left fun value _ => toStandard_symbol value

theorem padded_symbols (values : List Sextet) :
    padded (values.map Alphabet.urlSafe.symbol) =
      values.map Alphabet.standard.symbol ++
        List.replicate (padding values.length) Padded.sign := by
  rw [padded, map_toStandard, List.length_map]

/-- As many bytes are dropped as padding signs were added. -/
theorem octets_complete_length (values : List Sextet) :
    (octets (complete values)).length - padding values.length = 3 * values.length / 4 := by
  rw [octets_length, complete, List.length_append, List.length_replicate, padding]
  omega

/-- **The checksum that symbols stand for.** -/
theorem parse_symbols {values : List Sextet} (possible : values.length % 4 ≠ 1) :
    parse (values.map Alphabet.urlSafe.symbol) = .ok (unpadded values) := by
  have own : (values.map Alphabet.urlSafe.symbol).any isForeign = false := by
    rw [List.any_map, List.any_eq_false]
    intro value _
    rw [Function.comp_apply, symbol_not_foreign]
    exact Bool.false_ne_true
  cases values with
  | nil => rfl
  | cons value values =>
    rw [parse, if_neg (by rw [List.map_cons]; exact List.cons_ne_nil _ _), List.length_map,
      if_neg possible, own, padded_symbols, Padded.decode_symbols]
    show Except.ok _ = _
    rw [octets_complete_length, unpadded]

theorem parse_spelling (checksum : Bytes) : parse (spelling checksum) = .ok checksum := by
  have possible : (sextets checksum).length % 4 ≠ 1 := by
    rw [sextets_length]
    omega
  rw [spelling, Base64.encode, parse_symbols possible, unpadded_sextets]

theorem padded_spelling (checksum : Bytes) :
    padded (spelling checksum) = Padded.encode checksum := by
  rw [spelling, Base64.encode, padded_symbols, Padded.encode_eq]

/-- **A checksum that fits is read back from its text.** -/
theorem decode_spelling {checksum : Bytes} (fits : Fits checksum) :
    decode (spelling checksum) = .ok checksum := by
  have short : (padded (spelling checksum)).length < 2 ^ 31 := by
    rw [padded_spelling]
    exact fits
  rw [decode_of_short short, parse_spelling]
  rfl

theorem spelling_injective {first second : Bytes} (same : spelling first = spelling second) :
    first = second := by
  have read := parse_spelling first
  rw [same, parse_spelling] at read
  exact (Except.ok.inj read).symm

/-- **The word for an absent checksum spells no checksum.** Read as a text, it gives seven bytes,
whose own text ends differently: the last symbol of the word has bits that no text has. -/
theorem spelling_ne_absentText (checksum : Bytes) : spelling checksum ≠ absentText := by
  intro same
  have read := parse_spelling checksum
  rw [same] at read
  have bytes : parse absentText = .ok [158, 135, 33, 121, 201, 44, 186] := by rfl
  rw [bytes] at read
  obtain rfl := Except.ok.inj read
  exact absurd same (by decide)

theorem encode_ne_absentText (checksum : Bytes) : encode checksum ≠ .ok absentText := by
  intro same
  exact spelling_ne_absentText _ (eq_spelling_of_encode same).2.symm

/-! ### Checksums that may be absent -/

/-- The symbols of a checksum, or the word for an absent one. -/
def wording : Option Bytes → Bytes
  | some checksum => spelling checksum
  | none => absentText

theorem text_of_fits {checksum : Option Bytes} (fits : ∀ bytes ∈ checksum, Fits bytes) :
    text checksum = .ok (wording checksum) := by
  cases checksum with
  | none => rfl
  | some bytes => exact encode_of_fits (fits bytes rfl)

/-- **A checksum is known from its text**, and so is that there is none. -/
theorem wording_injective {first second : Option Bytes} (same : wording first = wording second) :
    first = second := by
  cases first with
  | none =>
    cases second with
    | none => rfl
    | some checksum => exact absurd same.symm (spelling_ne_absentText checksum)
  | some checksum =>
    cases second with
    | none => exact absurd same (spelling_ne_absentText checksum)
    | some other => rw [spelling_injective same]

end Checksum

namespace Block

/-- The text of the checksum fits, if there is one. -/
def Fits (block : Block) : Prop := ∀ checksum ∈ block.checksum, Checksum.Fits checksum

instance (block : Block) : Decidable block.Fits :=
  inferInstanceAs (Decidable (∀ checksum ∈ block.checksum, Checksum.Fits checksum))

/-- **A checksum is carried as text**: the target gets the checksum of the source, or keeps its own
if the source has none, and nothing else about it changes; the word for an absent checksum is the
text of no other. -/
theorem setChecksumText_checksumText {source : Block} (fits : source.Fits) (target : Block) :
    (∃ text, source.checksumText = .ok text ∧
      target.setChecksumText text =
        .ok (match source.checksum with
          | some checksum => { target with checksum := some checksum }
          | none => target)) ∧
      ∀ checksum : Bytes, Checksum.encode checksum ≠ .ok Checksum.absentText := by
  refine ⟨⟨Checksum.wording source.checksum, Checksum.text_of_fits fits, ?_⟩,
    Checksum.encode_ne_absentText⟩
  rw [setChecksumText]
  cases present : source.checksum with
  | none => rw [Checksum.wording, if_pos rfl]
  | some checksum =>
    rw [Checksum.wording, if_neg (Checksum.spelling_ne_absentText checksum),
      Checksum.decode_spelling (fits checksum present)]
    rfl

/-- An empty checksum is carried, and it is not an absent one. -/
theorem setChecksumText_checksumText_empty :
    let source : Block := ⟨1, 2, 3, some []⟩
    let target : Block := ⟨4, 5, 6, none⟩
    source.Fits ∧ source.checksumText = .ok [] ∧
      target.setChecksumText [] = .ok ⟨4, 5, 6, some []⟩ := by
  intro source target
  have fits : source.Fits := by decide
  obtain ⟨text, written, read⟩ := (setChecksumText_checksumText fits target).1
  obtain rfl : [] = text := Except.ok.inj written
  exact ⟨fits, written, read⟩

end Block
end StorageBlock
