/-
**Reading descriptions.**

A reader takes items from the front of the bytes and hands on the rest. A description is checked in
the order of its items, so the first fault decides the error; the block that is read into changes
only when all items have been read.

* `Block.read` reads a description into a block and then logs it;
* `Block.ofBytes` makes a new block from a description;
* `Block.readId` reads the short form into a block, whose other fields stay.
-/

import StorageBlock.Logger
import StorageBlock.Wire.Error
import StorageBlock.Wire.Layout

namespace StorageBlock

namespace Wire

/-! ### Items at the front of the bytes, with the bytes that follow them -/

/-- Takes a 64-bit word. -/
def takeLong (bytes : Bytes) : Except WireError (Int64 × Bytes) :=
  if bytes.length < 8 then .error (.tooSmall .long)
  else .ok (BigEndian.int64 (bytes.take 8), bytes.drop 8)

/-- Takes a 32-bit word. -/
def takeInt (bytes : Bytes) : Except WireError (Int32 × Bytes) :=
  if bytes.length < 4 then .error (.tooSmall .int)
  else .ok (BigEndian.int32 (bytes.take 4), bytes.drop 4)

/-- Takes a checksum with its length; the length zero stands for an absent one. -/
def takeChecksum (bytes : Bytes) : Except WireError (Option Bytes × Bytes) := do
  let (length, rest) ← takeInt bytes
  if length < 0 then .error (.negativeChecksumLength length)
  else if length = 0 then .ok (none, rest)
  else
    let count := length.toInt.toNat
    if rest.length < count then .error (.tooSmall .checksum)
    else .ok (some (rest.take count), rest.drop count)

/-- Takes a description. -/
def takeBlock (bytes : Bytes) : Except WireError (Block × Bytes) := do
  let (id, rest) ← takeLong bytes
  let (length, rest) ← takeLong rest
  let (generation, rest) ← takeLong rest
  if length < 0 then .error (.negativeLength length)
  else
    let (checksum, rest) ← takeChecksum rest
    .ok (⟨id, length, generation, checksum⟩, rest)

end Wire

/-- What has become of an attempt to read into a block. -/
structure ReadInto where
  /-- The number of bytes read, or why the attempt failed. -/
  result : Except (Failure WireError) Nat
  /-- The block afterwards. -/
  block : Block
  /-- The logger afterwards. -/
  logger : Option Logger

namespace Block

/-- Reads a description into a block. The block has changed when the record for the log is made. -/
def read (target : Block) (bytes : Bytes) (logger : Option Logger) : ReadInto :=
  match Wire.takeBlock bytes with
  | .error error => ⟨.error (.cause error), target, logger⟩
  | .ok (block, rest) =>
    match Logger.note block.readRecord logger with
    | .error error => ⟨.error (.size error), block, logger⟩
    | .ok logger => ⟨.ok (bytes.length - rest.length), block, logger⟩

/-- The block that bytes describe, and the logger afterwards. -/
def ofBytes (bytes : Bytes) (logger : Option Logger) :
    Except (Failure WireError) Block × Option Logger :=
  let attempt := read default bytes logger
  (attempt.result.map fun _ => attempt.block, attempt.logger)

/-- Reads the short form of a description into a block. -/
def readId (target : Block) (bytes : Bytes) : ReadInto :=
  match Wire.takeLong bytes with
  | .error error => ⟨.error (.cause error), target, none⟩
  | .ok (id, rest) =>
    match Wire.takeLong rest with
    | .error error => ⟨.error (.cause error), target, none⟩
    | .ok (generation, rest) =>
      ⟨.ok (bytes.length - rest.length), { target with id := id, generation := generation }, none⟩

end Block

end StorageBlock
