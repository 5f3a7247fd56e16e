/-
**Descriptions that are written and read again.**

* `Block.read_written`: what has been written is read back, from whatever bytes begin with it and
  into whatever block;
* `Block.read_canonical`: what can be read is the only way to write what it gives. No two byte
  strings describe one block, and nothing but the bytes that are consumed decides the block.
-/

import StorageBlock.Proofs.Wire.Reading
import StorageBlock.Proofs.Wire.Records
import StorageBlock.Proofs.Wire.Writing

namespace StorageBlock.Block

/-! ### Reading into a block -/

section Taken

variable {bytes rest : Bytes} {block : Block}

theorem read_of_takeBlock (taken : Wire.takeBlock bytes = .ok (block, rest)) (target : Block)
    {before after : Option Logger} (noted : Logger.note block.readRecord before = .ok after) :
    target.read bytes before = ⟨.ok (bytes.length - rest.length), block, after⟩ := by
  rw [read, taken]
  dsimp only
  rw [noted]

/-- **The block has changed also if the record cannot be made.** -/
theorem read_of_unnoted (taken : Wire.takeBlock bytes = .ok (block, rest)) (target : Block)
    {logger : Option Logger} {error : SizeError}
    (unnoted : Logger.note block.readRecord logger = .error error) :
    target.read bytes logger = ⟨.error (.size error), block, logger⟩ := by
  rw [read, taken]
  dsimp only
  rw [unnoted]

end Taken

/-- A canonical block is read from its encoding, whatever follows. -/
theorem read_encode_append {block : Block} (canonical : block.Canonical) (rest : Bytes)
    (target : Block) {logger : Option Logger} (loggable : block.Loggable logger) :
    target.read (block.encode ++ rest) logger =
      ⟨.ok block.wireLength, block, logger.map fun logger => logger.log block.readText⟩ := by
  have consumed : (block.encode ++ rest).length - rest.length = block.wireLength := by
    rw [List.length_append, encode_length, Nat.add_sub_cancel]
  rw [read_of_takeBlock (Wire.takeBlock_eq_ok.mpr ⟨rfl, canonical⟩) target
    loggable.note_readRecord, consumed]

/-- What is read successfully is a canonical block, from its own encoding. -/
theorem encode_append_of_read {target : Block} {bytes : Bytes} {logger : Option Logger}
    {count : Nat} (success : (target.read bytes logger).result = .ok count) :
    ∃ (block : Block) (rest : Bytes), block.Canonical ∧ bytes = block.encode ++ rest ∧
      count = block.wireLength ∧ (target.read bytes logger).block = block := by
  cases taken : Wire.takeBlock bytes with
  | error error =>
    rw [read, taken] at success
    cases success
  | ok pair =>
    obtain ⟨block, rest⟩ := pair
    obtain ⟨rfl, canonical⟩ := Wire.takeBlock_eq_ok.mp taken
    cases noted : Logger.note block.readRecord logger with
    | error error =>
      rw [read_of_unnoted taken target noted] at success
      cases success
    | ok after =>
      have outcome := read_of_takeBlock taken target noted
      rw [outcome] at success ⊢
      have consumed := Except.ok.inj success
      rw [List.length_append, encode_length, Nat.add_sub_cancel] at consumed
      exact ⟨block, rest, canonical, rfl, consumed.symm, rfl⟩

theorem ofBytes_of_read {bytes : Bytes} {logger after : Option Logger} {count : Nat}
    {block : Block} (success : read default bytes logger = ⟨.ok count, block, after⟩) :
    ofBytes bytes logger = (.ok block, after) := by
  rw [ofBytes, success]
  rfl

/-! ### The two round trips -/

/-- The bytes that a successful attempt has put into its window. -/
theorem written_bytes (block : Block) (window : Window) :
    ((Bytes.overwrite window.buffer window.start block.encode).drop window.start).take
      block.wireLength = block.encode := by
  rw [← encode_length, Bytes.overwrite_stretch window.start_le]

theorem Loggable.normal {block : Block} {logger : Option Logger}
    (loggable : block.Loggable logger) : block.normal.Loggable logger := by
  refine loggable.imp_right fun fits => ?_
  rw [fits_iff_checksumLength] at fits ⊢
  rw [checksumLength, getD_normal]
  exact fits

/-- **What has been written is read back**: the whole description is written, and every byte string
that begins with it gives the block again, into any block, and consumes exactly the description. -/
theorem read_written (block : Block) (describable : block.Describable) (window : Window)
    (fits : block.wireLength ≤ window.limit) (writerLogger : Option Logger)
    (loggable : block.Loggable writerLogger) :
    ∃ buffer : Bytes,
      block.write window writerLogger =
        ⟨.ok block.wireLength, buffer,
          writerLogger.map fun logger => logger.log block.writeText⟩ ∧
      ∀ bytes : Bytes, (buffer.drop window.start).take block.wireLength <+: bytes →
        ∀ (target : Block) (readerLogger : Option Logger), block.Loggable readerLogger →
          target.read bytes readerLogger =
            ⟨.ok block.wireLength, block.normal,
              readerLogger.map fun logger => logger.log block.normal.readText⟩ ∧
          ofBytes bytes readerLogger =
            (.ok block.normal,
              readerLogger.map fun logger => logger.log block.normal.readText) := by
  refine ⟨_, write_of_fits fits loggable.note_writeRecord, ?_⟩
  rintro bytes starts target readerLogger readable
  rw [written_bytes, ← encode_normal] at starts
  obtain ⟨rest, rfl⟩ := starts
  have into (target : Block) :=
    read_encode_append describable.canonical_normal rest target readable.normal
  rw [wireLength_normal] at into
  exact ⟨into target, ofBytes_of_read (into default)⟩

/-- A description in the middle of a buffer, with a negative number and a checksum. -/
theorem read_written_middle :
    let block : Block := ⟨-2, 5, -9223372036854775808, some [0, 255]⟩
    let window : Window := ⟨List.replicate 40 170, 3, 31, by decide⟩
    block.Describable ∧ block.wireLength ≤ window.limit ∧ block.Loggable none ∧
      ∃ buffer : Bytes, block.write window none = ⟨.ok 30, buffer, none⟩ ∧
        ∀ bytes : Bytes, (buffer.drop 3).take 30 <+: bytes → ∀ target : Block,
          target.read bytes none = ⟨.ok 30, block, none⟩ ∧
          ofBytes bytes none = (.ok block, none) := by
  intro block window
  have describable : block.Describable := ⟨by decide, by decide⟩
  have fits : block.wireLength ≤ window.limit := by decide
  have loggable : block.Loggable none := .inl rfl
  obtain ⟨buffer, written, readable⟩ :=
    read_written block describable window fits none loggable
  exact ⟨describable, fits, loggable, buffer, written, fun bytes starts target =>
    readable bytes starts target none loggable⟩

/-- **What can be read is exactly what would be written**: a successful reading gives a block that
can exist, whose description is the bytes consumed, and these bytes alone decide it. -/
theorem read_canonical (target : Block) (bytes : Bytes) (logger : Option Logger) (count : Nat)
    (success : (target.read bytes logger).result = .ok count) :
    ∃ block : Block, (target.read bytes logger).block = block ∧
      28 ≤ count ∧ count ≤ bytes.length ∧
      0 ≤ block.length ∧ block.checksum ≠ some [] ∧ block.wireLength = count ∧
      (∀ (window : Window) (writerLogger : Option Logger), count ≤ window.limit →
        block.Loggable writerLogger →
          block.write window writerLogger =
            ⟨.ok count, Bytes.overwrite window.buffer window.start (bytes.take count),
              writerLogger.map fun logger => logger.log block.writeText⟩) ∧
      ∀ other : Bytes, bytes.take count <+: other →
        ∀ (otherTarget : Block) (otherLogger : Option Logger), block.Loggable otherLogger →
          otherTarget.read other otherLogger =
            ⟨.ok count, block, otherLogger.map fun logger => logger.log block.readText⟩ := by
  obtain ⟨block, rest, canonical, rfl, rfl, gives⟩ := encode_append_of_read success
  have consumed : (block.encode ++ rest).take block.wireLength = block.encode :=
    List.take_left' block.encode_length
  refine ⟨block, gives, ?_, ?_, canonical.length_nonneg, canonical.checksum_ne_empty, rfl, ?_, ?_⟩
  · exact Nat.le_add_right fixedLength block.checksumLength
  · rw [List.length_append, encode_length]
    omega
  · intro window writerLogger fits loggable
    rw [consumed]
    exact write_of_fits fits loggable.note_writeRecord
  · rintro other starts otherTarget otherLogger loggable
    rw [consumed] at starts
    obtain ⟨tail, rfl⟩ := starts
    exact read_encode_append canonical tail otherTarget loggable

/-- A description whose words have their highest bits set, with a byte behind it. -/
theorem read_canonical_trailing :
    let bytes : Bytes :=
      List.replicate 8 255 ++ [127, 0, 0, 0, 0, 0, 0, 0] ++ List.replicate 8 128 ++
        [0, 0, 0, 2, 61, 0, 9]
    (read default bytes none).result = .ok 30 ∧
      ∃ block : Block, (read default bytes none).block = block ∧ block.wireLength = 30 ∧
        ∀ other : Bytes, bytes.take 30 <+: other → ∀ target : Block,
          target.read other none = ⟨.ok 30, block, none⟩ := by
  intro bytes
  have success : (read default bytes none).result = .ok 30 := by rfl
  obtain ⟨block, gives, _, _, _, _, width, _, decided⟩ :=
    read_canonical default bytes none 30 success
  exact ⟨success, block, gives, width, fun other starts target =>
    decided other starts target none (.inl rfl)⟩

end StorageBlock.Block
