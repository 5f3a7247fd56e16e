/-
**Which byte strings are names of block files.**

A name spells a number, and perhaps a generation, in any of their spellings. Whether it is a name
does not depend on how large they are; only the question for the number itself does.

* `DataName` and `MetadataName` say byte by byte what the names look like;
* `dataName_iff`, `metadataName_iff`: these are the names that are parsed;
* `name_grammar`: what each question about a name answers, for every byte string;
* `classified_iff_parsed`: being a name and having a number are the same exactly as long as the
  number fits a signed 64-bit word.
-/

import StorageBlock.Block.FileName
import StorageBlock.Proofs.Decimal.Numerals

namespace StorageBlock.FileName

open Decimal

/-! ### What names look like -/

/-- The name of the data file of a block: `blk_` and a spelling of its number. -/
def DataName (name : Bytes) (id : Int) : Prop :=
  ∃ spelling, SpellsInt spelling id ∧ name = ascii "blk_" ++ spelling

/-- The name of the metadata file of a block: spellings of its number and of the generation. -/
def MetadataName (name : Bytes) (id : Int) (generation : Nat) : Prop :=
  ∃ spelling digits, SpellsInt spelling id ∧ SpellsNat digits generation ∧
    name = ascii "blk_" ++ spelling ++ ascii "_" ++ digits ++ ascii ".meta"

/-- The name of one of the files of a block. -/
def BelongsTo (name : Bytes) (id : Int) : Prop :=
  DataName name id ∨ ∃ generation, MetadataName name id generation

variable {name : Bytes}

theorem dataName_iff {id : Int} :
    DataName name id ↔ ∃ numeral, parse? name = some (block numeral) ∧ numeral.value = id := by
  refine ⟨?_, fun ⟨numeral, parsed, value⟩ => ?_⟩
  · rintro ⟨_, spells, rfl⟩
    obtain ⟨numeral, rfl, value⟩ := spellsInt_iff.mp spells
    exact ⟨numeral, parse?_eq_some.mpr rfl, value⟩
  · exact ⟨numeral.text, spellsInt_iff.mpr ⟨numeral, rfl, value⟩, parse?_eq_some.mp parsed⟩

theorem metadata_text (numeral : Numeral) (digits : Digits) :
    (metadata numeral digits).text =
      ascii "blk_" ++ numeral.text ++ ascii "_" ++ digits.text ++ ascii ".meta" := by
  rw [List.append_assoc, List.append_assoc, List.append_assoc]
  rfl

theorem metadataName_iff {id : Int} {generation : Nat} :
    MetadataName name id generation ↔ ∃ numeral digits,
      parse? name = some (metadata numeral digits) ∧ numeral.value = id ∧
        digits.value = generation := by
  constructor
  · rintro ⟨_, _, spellsId, spellsGeneration, rfl⟩
    obtain ⟨numeral, rfl, id⟩ := spellsInt_iff.mp spellsId
    obtain ⟨digits, rfl, generation⟩ := spellsNat_iff.mp spellsGeneration
    exact ⟨numeral, digits, parse?_eq_some.mpr (metadata_text numeral digits).symm, id, generation⟩
  · rintro ⟨numeral, digits, parsed, id, generation⟩
    refine ⟨numeral.text, digits.text, spellsInt_iff.mpr ⟨numeral, rfl, id⟩,
      spellsNat_iff.mpr ⟨digits, rfl, generation⟩, ?_⟩
    rw [← metadata_text]
    exact parse?_eq_some.mp parsed

theorem belongsTo_iff {id : Int} :
    BelongsTo name id ↔ ∃ parsed, parse? name = some parsed ∧ parsed.id.value = id := by
  unfold BelongsTo
  constructor
  · rintro (data | ⟨generation, metadata⟩)
    · obtain ⟨numeral, parsed, value⟩ := dataName_iff.mp data
      exact ⟨_, parsed, value⟩
    · obtain ⟨numeral, digits, parsed, value, _⟩ := metadataName_iff.mp metadata
      exact ⟨_, parsed, value⟩
  · rintro ⟨numeral | ⟨numeral, digits⟩, parsed, value⟩
    · exact .inl (dataName_iff.mpr ⟨numeral, parsed, value⟩)
    · exact .inr ⟨digits.value, metadataName_iff.mpr ⟨numeral, digits, parsed, value, rfl⟩⟩

/-- A file belongs to one block at most. -/
theorem BelongsTo.unique {first second : Int} (one : BelongsTo name first)
    (other : BelongsTo name second) : first = second := by
  obtain ⟨read, parsed, rfl⟩ := belongsTo_iff.mp one
  obtain ⟨again, same, rfl⟩ := belongsTo_iff.mp other
  rw [parsed] at same
  obtain rfl := Option.some.inj same
  rfl

theorem DataName.unique {first second : Int} (one : DataName name first)
    (other : DataName name second) : first = second :=
  BelongsTo.unique (.inl one) (.inl other)

/-! ### Is it a name? -/

theorem isBlock_iff : isBlock name = true ↔ ∃ id, DataName name id := by
  simp only [dataName_iff]
  unfold isBlock
  refine ⟨fun answer => ?_, fun ⟨_, numeral, parsed, _⟩ => by rw [parsed]⟩
  split at answer
  next numeral parsed => exact ⟨_, numeral, parsed, rfl⟩
  next => cases answer

theorem isMetadata_iff :
    isMetadata name = true ↔ ∃ id generation, MetadataName name id generation := by
  simp only [metadataName_iff]
  unfold isMetadata
  refine ⟨fun answer => ?_, fun ⟨_, _, numeral, digits, parsed, _⟩ => by rw [parsed]⟩
  split at answer
  next numeral digits parsed => exact ⟨_, _, numeral, digits, parsed, rfl, rfl⟩
  next => cases answer

theorem not_isBlock_and_isMetadata : ¬ (isBlock name = true ∧ isMetadata name = true) := by
  rw [isBlock_iff, isMetadata_iff]
  rintro ⟨⟨_, data⟩, _, _, metadata⟩
  obtain ⟨_, parsed, _⟩ := dataName_iff.mp data
  obtain ⟨_, _, other, _⟩ := metadataName_iff.mp metadata
  rw [parsed] at other
  cases other

theorem isBlock_or_isMetadata_iff :
    isBlock name = true ∨ isMetadata name = true ↔ ∃ id, BelongsTo name id := by
  unfold BelongsTo
  rw [isBlock_iff, isMetadata_iff, exists_or]

/-! ### Which number, which generation? -/

theorem map_dataBlockId?_eq_some {number : Int} :
    (dataBlockId? name).map Int64.toInt = some number ↔
      DataName name number ∧ FitsWord number := by
  rw [dataName_iff]
  refine ⟨fun found => ?_, fun ⟨⟨numeral, parsed, value⟩, fits⟩ => ?_⟩
  · unfold dataBlockId? at found
    split at found
    next numeral parsed =>
      obtain ⟨value, fits⟩ := map_int64?_eq_some.mp found
      exact ⟨⟨numeral, parsed, value⟩, fits⟩
    next => cases found
  · unfold dataBlockId?
    rw [parsed]
    exact map_int64?_eq_some.mpr ⟨value, fits⟩

theorem map_blockId?_eq_some {number : Int} :
    (blockId? name).map Int64.toInt = some number ↔ BelongsTo name number ∧ FitsWord number := by
  rw [belongsTo_iff]
  refine ⟨fun found => ?_, fun ⟨⟨read, parsed, value⟩, fits⟩ => ?_⟩
  · unfold blockId? at found
    split at found
    next read parsed =>
      obtain ⟨value, fits⟩ := map_int64?_eq_some.mp found
      exact ⟨⟨read, parsed, value⟩, fits⟩
    next => cases found
  · unfold blockId?
    rw [parsed]
    exact map_int64?_eq_some.mpr ⟨value, fits⟩

theorem generation_of_metadataName {id : Int} {number : Nat}
    (metadata : MetadataName name id number) (small : number < 2 ^ 63) :
    (generation name).toInt = number := by
  obtain ⟨numeral, digits, parsed, _, rfl⟩ := metadataName_iff.mp metadata
  have fits : FitsWord digits.value := ⟨by omega, by omega⟩
  obtain ⟨word, found, value⟩ := Option.map_eq_some_iff.mp (map_int64?_eq_some.mpr ⟨rfl, fits⟩)
  unfold generation
  rw [parsed]
  show ((int64? digits.value).getD Block.oldestGeneration).toInt = _
  rw [found, Option.getD_some, value]

theorem generation_of_not_metadataName
    (missing : ¬ ∃ id number, MetadataName name id number ∧ number < 2 ^ 63) :
    generation name = 0 := by
  unfold generation
  split
  next numeral digits parsed =>
    have large : ¬ digits.value < 2 ^ 63 := fun small =>
      missing ⟨_, _, metadataName_iff.mpr ⟨numeral, digits, parsed, rfl, rfl⟩, small⟩
    rw [int64?_eq_none.mpr fun fits => large (by exact_mod_cast fits.2)]
    rfl
  next => rfl

theorem generation_toInt_iff {number : Int} :
    (generation name).toInt = number ↔
      (∃ id stamp, MetadataName name id stamp ∧ stamp < 2 ^ 63 ∧ number = stamp) ∨
        (¬ ∃ id stamp, MetadataName name id stamp ∧ stamp < 2 ^ 63) ∧ number = 0 := by
  by_cases present : ∃ id stamp, MetadataName name id stamp ∧ stamp < 2 ^ 63
  · -- A name has one generation, so the one that is found is any that it spells.
    obtain ⟨id, stamp, metadata, small⟩ := present
    have value := generation_of_metadataName metadata small
    constructor
    · rintro rfl
      exact .inl ⟨id, stamp, metadata, small, value⟩
    · rintro (⟨_, _, metadata, small, rfl⟩ | ⟨missing, _⟩)
      · exact generation_of_metadataName metadata small
      · exact absurd ⟨id, stamp, metadata, small⟩ missing
  · rw [generation_of_not_metadataName present]
    constructor
    · rintro rfl
      exact .inr ⟨present, rfl⟩
    · rintro (⟨id, stamp, metadata, small, _⟩ | ⟨_, rfl⟩)
      · exact absurd ⟨id, stamp, metadata, small⟩ present
      · rfl

/-- **The grammar of names.** Whatever the byte string is, it is the name of a data file or of a
metadata file exactly if it looks like one, and never both. The number in it is found exactly if it
fits a word, whatever the generation is; the generation is found, whatever the number is, and is the
oldest one where there is none that fits. -/
theorem name_grammar (name : Bytes) :
    (isBlock name = true ↔ ∃ id, DataName name id) ∧
      (isMetadata name = true ↔ ∃ id generation, MetadataName name id generation) ∧
      ¬ (isBlock name = true ∧ isMetadata name = true) ∧
      (∀ number, (dataBlockId? name).map Int64.toInt = some number ↔
        DataName name number ∧ FitsWord number) ∧
      (∀ number, (blockId? name).map Int64.toInt = some number ↔
        (DataName name number ∨ ∃ generation, MetadataName name number generation) ∧
          FitsWord number) ∧
      (∀ number, (generation name).toInt = number ↔
        (∃ id stamp, MetadataName name id stamp ∧ stamp < 2 ^ 63 ∧ number = stamp) ∨
          (¬ ∃ id stamp, MetadataName name id stamp ∧ stamp < 2 ^ 63) ∧ number = 0) ∧
      dataBlockId name = (dataBlockId? name).getD 0 ∧ blockId name = (blockId? name).getD 0 :=
  ⟨isBlock_iff, isMetadata_iff, not_isBlock_and_isMetadata, fun _ => map_dataBlockId?_eq_some,
    fun _ => map_blockId?_eq_some, fun _ => generation_toInt_iff, rfl, rfl⟩

/-! ### Names without a number -/

theorem isSome_dataBlockId?_iff :
    (dataBlockId? name).isSome = true ↔ ∃ id, DataName name id ∧ FitsWord id := by
  simp only [← map_dataBlockId?_eq_some, ← Option.isSome_iff_exists, Option.isSome_map]

theorem isSome_blockId?_iff :
    (blockId? name).isSome = true ↔ ∃ id, BelongsTo name id ∧ FitsWord id := by
  simp only [← map_blockId?_eq_some, ← Option.isSome_iff_exists, Option.isSome_map]

/-- Of what is there at most once: looking for one that is good as well gives the same answer
exactly if none is bad. -/
theorem exists_iff_exists_and {α : Type} {present good : α → Prop}
    (unique : ∀ first second, present first → present second → first = second) :
    ((∃ value, present value) ↔ ∃ value, present value ∧ good value) ↔
      ∀ value, present value → good value := by
  refine ⟨fun same value here => ?_, fun all => ?_⟩
  · obtain ⟨other, there, fine⟩ := same.mp ⟨value, here⟩
    rw [unique value other here there]
    exact fine
  · exact exists_congr fun value => (and_iff_left_of_imp (all value)).symm

/-- **Being a name and having a number agree exactly where the number fits a word.** A data file's
name whose number does not fit is still a name, but has no number; the same holds for the names of
either kind. -/
theorem classified_iff_parsed (name : Bytes) :
    ((isBlock name = true ↔ (dataBlockId? name).isSome = true) ↔
        ∀ id, DataName name id → FitsWord id) ∧
      ((isBlock name = true ∨ isMetadata name = true ↔ (blockId? name).isSome = true) ↔
        ∀ id, DataName name id ∨ (∃ generation, MetadataName name id generation) →
          FitsWord id) := by
  rw [isBlock_or_isMetadata_iff, isBlock_iff, isSome_dataBlockId?_iff, isSome_blockId?_iff]
  exact ⟨exists_iff_exists_and fun _ _ => DataName.unique,
    exists_iff_exists_and fun _ _ => BelongsTo.unique⟩

/-- The first number beyond the words: a data file's name for which no number is found. -/
theorem isBlock_without_number :
    let name := ascii "blk_9223372036854775808"
    (isBlock name = true ∧ dataBlockId? name = none ∧ blockId? name = none) ∧
      ¬ (isBlock name = true ↔ (dataBlockId? name).isSome = true) ∧
      ¬ (isBlock name = true ∨ isMetadata name = true ↔ (blockId? name).isSome = true) := by
  decide +kernel

end StorageBlock.FileName
