/-
**The binary format of a description.**

| bytes | field |
|---|---|
| 0 to 7 | number of the block |
| 8 to 15 | length of the data |
| 16 to 23 | generation |
| 24 to 27 | length of the checksum, zero if it is absent |
| from 28 on | checksum |

All words are signed and have their most significant byte first. The short form holds the number and
the generation only.

What is logged about a description is the length and the text of its checksum.
-/

import StorageBlock.BigEndian
import StorageBlock.Block.Text

namespace StorageBlock.Block

/-- The length of a description without its checksum. -/
def fixedLength : Nat := 28

/-- The length of the short form. -/
def idLength : Nat := 16

/-- The length of the checksum, zero if it is absent. -/
def checksumLength (block : Block) : Nat := (block.checksum.getD []).length

/-- The length of a description. -/
def wireLength (block : Block) : Nat := fixedLength + block.checksumLength

/-- The bytes of a description. -/
def encode (block : Block) : Bytes :=
  BigEndian.ofInt64 block.id ++ BigEndian.ofInt64 block.length ++
    BigEndian.ofInt64 block.generation ++ BigEndian.ofInt32 (Int32.ofNat block.checksumLength) ++
    block.checksum.getD []

/-- The bytes of the short form. -/
def encodeId (block : Block) : Bytes :=
  BigEndian.ofInt64 block.id ++ BigEndian.ofInt64 block.generation

theorem encode_length (block : Block) : block.encode.length = block.wireLength := by
  simp only [encode, BigEndian.ofInt64, BigEndian.ofInt32, List.length_append,
    BigEndian.encode_length, wireLength, fixedLength, checksumLength]

theorem encodeId_length (block : Block) : block.encodeId.length = idLength := by
  simp only [encodeId, BigEndian.ofInt64, List.length_append, BigEndian.encode_length, idLength]

/-! ### Log records -/

/-- The length and the text of a checksum. -/
def checksumNote (block : Block) : Except SizeError Bytes :=
  block.checksumText.map fun text =>
    ascii "len=" ++ Decimal.ofNat block.checksumLength ++ ascii " value=" ++ text

/-- What is logged when a description has been written. -/
def writeRecord (block : Block) : Except SizeError Bytes :=
  (if block.checksum.isSome then block.checksumNote else .ok (ascii "len=0")).map fun note =>
    ascii "Serialize Checksum: " ++ note

/-- What is logged when a description has been read. -/
def readRecord (block : Block) : Except SizeError Bytes :=
  block.checksumNote.map fun note => ascii "Deserialize Checksum: " ++ note

end StorageBlock.Block
