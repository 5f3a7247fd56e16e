/-
**Names that are written and read again.**

A block is named after its number, and its metadata file after its number and generation. Both names
tell these numbers again, and paths of the one lead to the other, in whatever directory they stand.

* `dataPath_metadata`: the path of a metadata file leads to that of the data file, whatever stands
  in front of the names;
* `Block.name_eq`, `Block.text_meta`: the printed texts are names of the grammar;
* `Block.names_read_back`: what can be read from the names of a block.
-/

import StorageBlock.Checksum.File
import StorageBlock.Proofs.FileName.Grammar

namespace StorageBlock

namespace FileName

/-! ### What the name of a file tells -/

@[simp] theorem isBlock_block (id : Numeral) : isBlock (block id).text = true := by
  rw [isBlock, parse?_eq_some.mpr rfl]

@[simp] theorem isMetadata_metadata (id : Numeral) (digits : Digits) :
    isMetadata (metadata id digits).text = true := by
  rw [isMetadata, parse?_eq_some.mpr rfl]

@[simp] theorem isBlock_metadata (id : Numeral) (digits : Digits) :
    isBlock (metadata id digits).text = false := by
  rw [isBlock, parse?_eq_some.mpr rfl]

@[simp] theorem dataBlockId?_block (id : Numeral) : dataBlockId? (block id).text = id.int64? := by
  rw [dataBlockId?, parse?_eq_some.mpr rfl]

@[simp] theorem blockId?_text (name : FileName) : blockId? name.text = name.id.int64? := by
  rw [blockId?, parse?_eq_some.mpr rfl]

@[simp] theorem generation_metadata (id : Numeral) (digits : Digits) :
    generation (metadata id digits).text =
      (Decimal.int64? digits.value).getD Block.oldestGeneration := by
  rw [generation, parse?_eq_some.mpr rfl]

/-! ### Paths -/

theorem slash_not_mem_text (name : FileName) : Path.slash ∉ name.text := by
  have numeral (id : Numeral) : Path.slash ∉ id.text :=
    id.not_mem_text (by decide) (by decide)
  have start : Path.slash ∉ opening := by decide
  cases name with
  | block id => exact fun member => (List.mem_append.mp member).elim start (numeral id)
  | metadata id digits =>
    have stamp : Path.slash ∉ digits.text := digits.not_mem_text (by decide)
    have mark : Path.slash ≠ underscore := by decide
    have extension : Path.slash ∉ metadataExtension := by decide
    simp only [text, List.mem_append, List.mem_cons, not_or]
    exact ⟨start, numeral id, mark, stamp, extension⟩

/-- A path is cut at its last underscore, if this stands behind the last slash. -/
theorem dataPath_append {back : Bytes} (last : underscore ∉ back) (within : Path.slash ∉ back)
    (front : Bytes) : dataPath (front ++ underscore :: back) = front := by
  rw [dataPath, Bytes.cutLast_eq_some.mpr ⟨rfl, last⟩]
  exact if_neg within

/-- **Beside every metadata file**, whatever its path, the data file has the name without the
generation. The underscores in front of the name do not matter, because there is one within it. -/
theorem dataPath_metadata (front : Bytes) (id : Numeral) (digits : Digits) :
    dataPath (front ++ (metadata id digits).text) = front ++ (block id).text := by
  have parts : front ++ (metadata id digits).text =
      front ++ (block id).text ++ underscore :: (digits.text ++ metadataExtension) := by
    simp only [text, List.append_assoc]
  have mark : underscore ∉ digits.text ++ metadataExtension := by
    rw [List.mem_append, not_or]
    exact ⟨digits.not_mem_text (by decide), by decide⟩
  have within : Path.slash ∉ digits.text ++ metadataExtension := by
    rw [List.mem_append, not_or]
    exact ⟨digits.not_mem_text (by decide), by decide⟩
  rw [parts]
  exact dataPath_append mark within _

end FileName

namespace Block

open FileName

/-! ### The names of a block -/

/-- The file of the block's data. -/
def dataFile (block : Block) : FileName := .block (.ofInt block.id.toInt)

/-- The file of what is known about the block. -/
def metadataFile (block : Block) : FileName :=
  .metadata (.ofInt block.id.toInt) (.ofNat block.generation.toInt.natAbs)

theorem name_eq (block : Block) : block.name = block.dataFile.text := by
  rw [name, dataFile, FileName.text, Numeral.text_ofInt]

theorem text_of_bare {block : Block} (bare : block.checksum = none) :
    block.text = .ok block.version := by
  rw [text, bare]

theorem version_meta {block : Block} (counted : 0 ≤ block.generation) :
    block.version ++ ascii ".meta" = block.metadataFile.text := by
  have nonneg : 0 ≤ block.generation.toInt := Int64.le_iff_toInt_le.mp counted
  rw [metadataFile, FileName.text, Numeral.text_ofInt]
  show block.version ++ metadataExtension = _
  rw [version, name, Decimal.ofInt_of_nonneg nonneg]
  simp only [List.append_assoc, List.cons_append, Digits.ofNat]

/-- **The names of a block tell what they were made from.** The name of the data file is one, and
has the number of the block; the printed version with the extension is the name of a metadata file
and of no data file, and has both the number and the generation. Behind any directory the names are
found again, the path of the metadata file leads to that of the data file, and whatever stands in
the data file, it describes a block of this number. -/
theorem names_read_back (block : Block) (bare : block.checksum = none)
    (counted : 0 ≤ block.generation) (directory : Bytes) :
    ∃ printed, block.text = .ok printed ∧
      (isBlock block.name = true ∧ dataBlockId? block.name = some block.id ∧
        blockId? block.name = some block.id) ∧
      (isMetadata (printed ++ ascii ".meta") = true ∧
        isBlock (printed ++ ascii ".meta") = false ∧
        blockId? (printed ++ ascii ".meta") = some block.id ∧
        FileName.generation (printed ++ ascii ".meta") = block.generation) ∧
      Path.baseName (directory ++ Path.slash :: (printed ++ ascii ".meta")) =
        printed ++ ascii ".meta" ∧
      dataPath (directory ++ Path.slash :: (printed ++ ascii ".meta")) =
        directory ++ Path.slash :: block.name ∧
      dataPath (printed ++ ascii ".meta") = block.name ∧
      ∀ (found : Found) (length generation : Int64),
        (ofFile (directory ++ Path.slash :: block.name) found length generation).id = block.id := by
  have number : block.dataFile.id.int64? = some block.id := Numeral.int64?_ofInt block.id
  refine ⟨block.version, text_of_bare bare, ?_⟩
  rw [version_meta counted, name_eq]
  refine ⟨⟨isBlock_block _, ?_, ?_⟩, ⟨isMetadata_metadata _ _, isBlock_metadata _ _, ?_, ?_⟩,
    Path.baseName_append (slash_not_mem_text _) directory, ?_, dataPath_metadata [] _ _, ?_⟩
  · exact (dataBlockId?_block _).trans number
  · exact (blockId?_text _).trans number
  · exact (blockId?_text _).trans number
  · rw [metadataFile, generation_metadata, Digits.int64?_ofNat counted, Option.getD_some]
  · -- The slash is one more byte in front of the name.
    have beside := dataPath_metadata (directory ++ [Path.slash])
      (.ofInt block.id.toInt) (.ofNat block.generation.toInt.natAbs)
    rw [List.append_assoc, List.append_assoc] at beside
    exact beside
  · intro found length generation
    show dataBlockId (Path.baseName _) = block.id
    rw [Path.baseName_append (slash_not_mem_text _), dataBlockId, dataFile, dataBlockId?_block,
      Numeral.int64?_ofInt, Option.getD_some]

/-- The least number and the greatest generation, in a directory with an underscore. -/
theorem names_read_back_extreme :
    let block : Block := ⟨-9223372036854775808, 5, 9223372036854775807, none⟩
    let metadata := ascii "blk_-9223372036854775808_9223372036854775807.meta"
    (block.checksum = none ∧ 0 ≤ block.generation) ∧
      (∃ printed, block.text = .ok printed ∧ printed ++ ascii ".meta" = metadata) ∧
      blockId? metadata = some block.id ∧ FileName.generation metadata = block.generation ∧
      dataPath (ascii "/data_dir" ++ Path.slash :: metadata) =
        ascii "/data_dir/blk_-9223372036854775808" := by
  intro block metadata
  have counted : 0 ≤ block.generation := by decide
  obtain ⟨printed, made, _, ⟨_, _, number, stamp⟩, _, beside, _⟩ :=
    names_read_back block rfl counted (ascii "/data_dir")
  have version : printed = block.version := (Except.ok.inj made).symm
  have extended : printed ++ ascii ".meta" = metadata := by
    rw [version]
    decide +kernel
  rw [extended] at number stamp beside
  have path : ascii "/data_dir" ++ Path.slash :: block.name =
      ascii "/data_dir/blk_-9223372036854775808" := by decide +kernel
  exact ⟨⟨rfl, counted⟩, ⟨printed, made, extended⟩, number, stamp, beside.trans path⟩

end Block

end StorageBlock
