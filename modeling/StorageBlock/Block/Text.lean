/-
**Blocks as text.**

A block is printed in three ways: its name alone (`Block.name`), its name and generation with the
checksum if there is one (`Block.text`), and the same with a word in place of an absent checksum
(`Block.fullText`).

`Block.setChecksumText` sets a checksum from its text; the word for an absent checksum changes
nothing.
-/

import StorageBlock.Block.FileName
import StorageBlock.Checksum.Text

namespace StorageBlock.Block

/-- The name of a block, which is also the name of its data file. -/
def name (block : Block) : Bytes := FileName.opening ++ Decimal.ofInt block.id.toInt

/-- The text of a block's checksum, or the word for an absent one. -/
def checksumText (block : Block) : Except SizeError Bytes := Checksum.text block.checksum

/-- The name of a block and its generation. -/
def version (block : Block) : Bytes :=
  block.name ++ FileName.underscore :: Decimal.ofInt block.generation.toInt

/-- The version of a block, and its checksum if there is one. -/
def text (block : Block) : Except SizeError Bytes :=
  match block.checksum with
  | some checksum =>
    (Checksum.encode checksum).map fun text => block.version ++ ascii "--" ++ text
  | none => .ok block.version

/-- The version of a block, and its checksum or the word for an absent one. -/
def fullText (block : Block) : Except SizeError Bytes :=
  block.checksumText.map fun text => block.version ++ ascii "--" ++ text

/-- The block with the checksum that a text stands for. -/
def setChecksumText (block : Block) (text : Bytes) :
    Except (Failure Checksum.FormatError) Block :=
  if text = Checksum.absentText then .ok block
  else (Checksum.decode text).map fun checksum => { block with checksum := some checksum }

end StorageBlock.Block
