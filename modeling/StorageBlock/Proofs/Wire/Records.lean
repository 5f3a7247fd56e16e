/-
**The records that are logged about descriptions.**

A record tells the length of a checksum and its text, so that there is a record as long as there is
a text. Who may be without a logger makes no record then.

* `Block.writeText`, `Block.readText`: the records of a block whose text fits;
* `Block.Loggable`: there is no logger, or there are records (`Block.Loggable.note_writeRecord`,
  `Block.Loggable.note_readRecord`);
* `Block.note_of_long`: for a longer checksum there is no record, and a logger is left alone.
-/

import StorageBlock.Logger
import StorageBlock.Proofs.Checksum.Text
import StorageBlock.Wire.Layout

namespace StorageBlock.Block

variable {block : Block}

theorem fits_iff_checksumLength : block.Fits ↔ block.checksumLength < 1610612734 := by
  rw [Fits, checksumLength]
  cases block.checksum with
  | none => exact iff_of_true (fun checksum absent => by cases absent) (by decide)
  | some checksum =>
    show _ ↔ checksum.length < 1610612734
    rw [← Checksum.fits_iff_length]
    exact ⟨fun fits => fits checksum rfl, fun fits bytes same => Option.some.inj same ▸ fits⟩

/-- **There is no text of a longer checksum**, as long as a word holds its length. -/
theorem checksumText_of_long (long : 1610612734 ≤ block.checksumLength)
    (short : block.checksumLength < 2 ^ 31) : block.checksumText = .error .beyondMemory := by
  rw [checksumText]
  rw [checksumLength] at long short
  cases present : block.checksum with
  | none =>
    rw [present] at long
    exact absurd long (by decide)
  | some checksum =>
    rw [present] at long short
    refine Checksum.encode_of_long (fun fits => ?_) short
    exact absurd (Checksum.fits_iff_length.mp fits) (Nat.not_lt.mpr long)

/-! ### The records of a block whose text fits -/

/-- The length of a checksum and the symbols for it. -/
def noteText (block : Block) : Bytes :=
  ascii "len=" ++ Decimal.ofNat block.checksumLength ++ ascii " value=" ++
    Checksum.wording block.checksum

/-- The record of a description that has been written. -/
def writeText (block : Block) : Bytes :=
  ascii "Serialize Checksum: " ++
    if block.checksum.isSome then block.noteText else ascii "len=0"

/-- The record of a description that has been read. -/
def readText (block : Block) : Bytes := ascii "Deserialize Checksum: " ++ block.noteText

theorem checksumNote_of_fits (fits : block.Fits) : block.checksumNote = .ok block.noteText := by
  rw [checksumNote, checksumText, Checksum.text_of_fits fits]
  rfl

theorem writeRecord_of_fits (fits : block.Fits) : block.writeRecord = .ok block.writeText := by
  rw [writeRecord, checksumNote_of_fits fits, writeText]
  split
  · rfl
  · rfl

theorem readRecord_of_fits (fits : block.Fits) : block.readRecord = .ok block.readText := by
  rw [readRecord, checksumNote_of_fits fits, readText]
  rfl

/-- **A longer checksum has no record.** -/
theorem records_of_long (long : 1610612734 ≤ block.checksumLength)
    (short : block.checksumLength < 2 ^ 31) :
    block.writeRecord = .error .beyondMemory ∧ block.readRecord = .error .beyondMemory := by
  have none := checksumText_of_long long short
  have present : block.checksum.isSome := by
    rw [checksumLength] at long
    cases checksum : block.checksum with
    | none =>
      rw [checksum] at long
      exact absurd long (by decide)
    | some bytes => rfl
  constructor
  · rw [writeRecord, if_pos present, checksumNote, none]
    rfl
  · rw [readRecord, checksumNote, none]
    rfl

/-! ### With a logger and without -/

/-- There is no logger, or there are records for it. -/
def Loggable (block : Block) (logger : Option Logger) : Prop := logger = none ∨ block.Fits

theorem Loggable.note_writeRecord {logger : Option Logger} (loggable : block.Loggable logger) :
    Logger.note block.writeRecord logger =
      .ok (logger.map fun logger => logger.log block.writeText) := by
  rcases loggable with rfl | fits
  · rfl
  · rw [writeRecord_of_fits fits]
    cases logger with
    | none => rfl
    | some logger => rfl

theorem Loggable.note_readRecord {logger : Option Logger} (loggable : block.Loggable logger) :
    Logger.note block.readRecord logger =
      .ok (logger.map fun logger => logger.log block.readText) := by
  rcases loggable with rfl | fits
  · rfl
  · rw [readRecord_of_fits fits]
    cases logger with
    | none => rfl
    | some logger => rfl

theorem note_of_long (long : 1610612734 ≤ block.checksumLength)
    (short : block.checksumLength < 2 ^ 31) (logger : Logger) :
    Logger.note block.writeRecord (some logger) = .error .beyondMemory ∧
      Logger.note block.readRecord (some logger) = .error .beyondMemory := by
  obtain ⟨write, read⟩ := records_of_long long short
  rw [write, read]
  exact ⟨rfl, rfl⟩

end StorageBlock.Block
