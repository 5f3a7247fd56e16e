/-
**Errors of the binary format.**

Either there is not enough space for an item, or the bytes describe a block that cannot exist. Only
the second kind means that the bytes are corrupt: more bytes may mend the first.
-/

import StorageBlock.Decimal

namespace StorageBlock

/-- An item that needs space. -/
inductive WireItem where
  /-- A 64-bit word. -/
  | long
  /-- A 32-bit word. -/
  | int
  /-- The bytes of a checksum. -/
  | checksum
  /-- A whole description. -/
  | block
  /-- The number and generation of a block. -/
  | blockId
deriving DecidableEq

/-- Why a description could not be written or read. -/
inductive WireError where
  /-- The space that is left does not hold the item. -/
  | tooSmall (item : WireItem)
  /-- The block would have a negative length. -/
  | negativeLength (length : Int64)
  /-- The checksum would have a negative length. -/
  | negativeChecksumLength (length : Int32)
deriving DecidableEq

/-- How an error calls an item. -/
def WireItem.text : WireItem → Bytes
  | long => ascii "long"
  | int => ascii "int"
  | checksum => ascii "checksum"
  | block => ascii "Block"
  | blockId => ascii "block id"

namespace WireError

/-- The wording of an error. -/
def message : WireError → Bytes
  | tooSmall item => ascii "Buffer too small for " ++ item.text
  | negativeLength length => ascii "Unexpected block size: " ++ Decimal.ofInt length.toInt
  | negativeChecksumLength length =>
    ascii "Unexpected checksum length: " ++ Decimal.ofInt length.toInt

theorem message_tooSmall {item : WireItem} (name : String) (called : item.text = ascii name) :
    (tooSmall item).message = ascii ("Buffer too small for " ++ name) := by
  rw [message, called, ascii_append]

/-- Do the bytes describe a block that cannot exist? -/
def isCorrupt : WireError → Bool
  | tooSmall _ => false
  | negativeLength _ | negativeChecksumLength _ => true

end WireError

end StorageBlock
