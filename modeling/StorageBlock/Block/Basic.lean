/-
**Storage blocks.**

A block is a numbered piece of stored data. Its description holds the number, the length of the
data, the generation that wrote it and, where one is known, the checksum of the data. A checksum
that is absent differs from one that is present and empty.

A block can be described before anything but its number is known (`Block.ofId`).
-/

import StorageBlock.Bytes

namespace StorageBlock

/-- The description of a stored block. -/
structure Block where
  /-- The number that identifies the block. -/
  id : Int64
  /-- The length of the block's data. -/
  length : Int64
  /-- The generation that wrote the data. -/
  generation : Int64
  /-- The checksum of the data, if one is known. -/
  checksum : Option Bytes

namespace Block

/-- The generation of blocks that were written before generations were counted. -/
def oldestGeneration : Int64 := 0

/-- A block of which only the number is known. -/
def ofId (id : Int64) : Block := ⟨id, 0, oldestGeneration, none⟩

instance : Inhabited Block := ⟨⟨0, 0, 0, none⟩⟩

/-- Two descriptions name the same generation of one block; no description matches only none. -/
def sameGeneration : Option Block → Option Block → Bool
  | some first, some second => decide (first.id = second.id ∧ first.generation = second.generation)
  | none, none => true
  | _, _ => false

end Block

end StorageBlock
