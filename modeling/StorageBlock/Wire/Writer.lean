/-
**Writing descriptions.**

A description is written item by item into a window of a buffer, and each word asks for its space
first. What has been written stays when a later item fails, so the outcome holds the buffer also
after an error.

* `Block.write` writes a description and then logs it;
* `Block.writeId` writes the short form.
-/

import StorageBlock.Logger
import StorageBlock.Wire.Error
import StorageBlock.Wire.Layout
import StorageBlock.Wire.Window

namespace StorageBlock

/-- A window that is being filled. -/
structure Sink where
  /-- The whole buffer. -/
  buffer : Bytes
  /-- Where the window begins. -/
  start : Nat
  /-- The length of the window. -/
  limit : Nat
  /-- The number of bytes written. -/
  position : Nat

namespace Sink

/-- A window of which nothing has been filled. -/
def ofWindow (window : Window) : Sink := ⟨window.buffer, window.start, window.limit, 0⟩

/-- The sink after bytes have been written at its position. -/
def put (sink : Sink) (data : Bytes) : Sink :=
  { sink with
    buffer := Bytes.overwrite sink.buffer (sink.start + sink.position) data
    position := sink.position + data.length }

end Sink

/-- A step of writing, which may fail and keeps the sink also then. -/
abbrev Writing := EStateM WireError Sink Unit

namespace Writing

/-- Asks for space for an item. -/
def require (item : WireItem) (length : Nat) : Writing := fun sink =>
  if sink.position + length ≤ sink.limit then .ok () sink else .error (.tooSmall item) sink

/-- Writes bytes without asking for space. -/
def bytes (data : Bytes) : Writing := fun sink => .ok () (sink.put data)

/-- Writes a 64-bit word. -/
def long (word : Int64) : Writing := do
  require .long 8
  bytes (BigEndian.ofInt64 word)

/-- Writes a 32-bit word. -/
def int (word : Int32) : Writing := do
  require .int 4
  bytes (BigEndian.ofInt32 word)

/-- Writes a description. -/
def block (block : Block) : Writing := do
  require .block block.wireLength
  long block.id
  long block.length
  long block.generation
  match block.checksum with
  | none => int 0
  | some checksum =>
    int (Int32.ofNat checksum.length)
    bytes checksum

/-- Writes the short form of a description. -/
def blockId (block : Block) : Writing := do
  require .blockId Block.idLength
  long block.id
  long block.generation

end Writing

/-- What has become of an attempt to write. -/
structure Written where
  /-- The number of bytes written, or why the attempt failed. -/
  result : Except (Failure WireError) Nat
  /-- The whole buffer afterwards. -/
  buffer : Bytes
  /-- The logger afterwards. -/
  logger : Option Logger

/-- Writes into a window, and then logs a record. The buffer has changed when the record is made. -/
def Writing.perform (writing : Writing) (window : Window) (logger : Option Logger)
    (record : Except SizeError Bytes) : Written :=
  match writing.run (Sink.ofWindow window) with
  | .error error sink => ⟨.error (.cause error), sink.buffer, logger⟩
  | .ok _ sink =>
    match Logger.note record logger with
    | .error error => ⟨.error (.size error), sink.buffer, logger⟩
    | .ok logger => ⟨.ok sink.position, sink.buffer, logger⟩

/-- Writes the description of a block into a window. -/
def Block.write (block : Block) (window : Window) (logger : Option Logger) : Written :=
  (Writing.block block).perform window logger block.writeRecord

/-- Writes the short form of a description into a window. -/
def Block.writeId (block : Block) (window : Window) : Written :=
  (Writing.blockId block).perform window none (.ok [])

end StorageBlock
