/-
**What is logged about descriptions.**

A logger takes no part in writing and reading: as long as the record can be made, the outcome is the
same as without one, and the logger gets this one record of a success and none of a failure. For a
checksum that is too long there is no record; the attempt has then done its work, and fails. The
record of a description that is written and the record of the same description when it is read tell
the same of the checksum, and its bytes can be told from them.

* `LogsOnce`: one record of a success, none of a failure;
* `Block.write_logger`, `Block.read_logger`, `Block.ofBytes_logger`: an attempt with a logger is the
  attempt without it, and the record;
* `Block.log_observes`: both, for which checksums there is a record, and what the two records have
  in common;
* `Block.logger_decides`: a description that is read without a logger only.
-/

import StorageBlock.Proofs.Wire.LengthWord
import StorageBlock.Proofs.Wire.Outcome

namespace StorageBlock

/-- What a logger makes of an attempt that has an outcome without it. The outcome stays, and the
logger has got the record of a success and nothing of a failure. A success whose record cannot be
made becomes a failure. -/
def LogsOnce {α : Type} (record : Except SizeError Bytes) (alone : Except (Failure WireError) α)
    (before : Logger) (result : Except (Failure WireError) α) (after : Option Logger) : Prop :=
  match alone, record with
  | .error _, _ => result = alone ∧ after = some before
  | .ok _, .ok record => result = alone ∧ after = some (before.log record)
  | .ok _, .error error => result = .error (.size error) ∧ after = some before

/-- What is made of a result takes no part in the logging. -/
theorem LogsOnce.map {α β : Type} {record : Except SizeError Bytes}
    {alone result : Except (Failure WireError) α} {before : Logger} {after : Option Logger}
    (once : LogsOnce record alone before result after) (change : α → β) :
    LogsOnce record (alone.map change) before (result.map change) after := by
  cases alone with
  | error error =>
    obtain ⟨rfl, rfl⟩ := once
    exact ⟨rfl, rfl⟩
  | ok value =>
    cases record with
    | ok record =>
      obtain ⟨rfl, rfl⟩ := once
      exact ⟨rfl, rfl⟩
    | error error =>
      obtain ⟨rfl, rfl⟩ := once
      exact ⟨rfl, rfl⟩

namespace Block

variable {block : Block}

/-! ### With a logger and without -/

/-- **Writing with a logger** is writing without one, and a record of the success. -/
theorem write_logger (block : Block) (window : Window) (logger : Logger) :
    (block.write window (some logger)).buffer = (block.write window none).buffer ∧
      LogsOnce block.writeRecord (block.write window none).result logger
        (block.write window (some logger)).result (block.write window (some logger)).logger := by
  by_cases short : window.limit < block.wireLength
  · rw [write_of_short short, write_of_short short]
    exact ⟨rfl, rfl, rfl⟩
  · have fits := Nat.le_of_not_lt short
    have alone := write_of_fits fits (Loggable.note_writeRecord (.inl rfl))
    cases record : block.writeRecord with
    | ok text =>
      have noted : Logger.note block.writeRecord (some logger) = .ok (some (logger.log text)) := by
        rw [record]
        rfl
      rw [alone, write_of_fits fits noted]
      exact ⟨rfl, rfl, rfl⟩
    | error error =>
      have unnoted : Logger.note block.writeRecord (some logger) = .error error := by
        rw [record]
        rfl
      rw [alone, write_of_unnoted fits unnoted]
      exact ⟨rfl, rfl, rfl⟩

/-- **Reading with a logger** is reading without one, and a record of the success. -/
theorem read_logger (target : Block) (bytes : Bytes) (logger : Logger) :
    (target.read bytes (some logger)).block = (target.read bytes none).block ∧
      LogsOnce (target.read bytes none).block.readRecord (target.read bytes none).result logger
        (target.read bytes (some logger)).result (target.read bytes (some logger)).logger := by
  cases taken : Wire.takeBlock bytes with
  | error error =>
    rw [read, read, taken]
    exact ⟨rfl, rfl, rfl⟩
  | ok pair =>
    obtain ⟨block, rest⟩ := pair
    have alone := read_of_takeBlock taken target (Loggable.note_readRecord (.inl rfl))
    cases record : block.readRecord with
    | ok text =>
      have noted : Logger.note block.readRecord (some logger) = .ok (some (logger.log text)) := by
        rw [record]
        rfl
      rw [alone, read_of_takeBlock taken target noted, record]
      exact ⟨rfl, rfl, rfl⟩
    | error error =>
      have unnoted : Logger.note block.readRecord (some logger) = .error error := by
        rw [record]
        rfl
      rw [alone, read_of_unnoted taken target unnoted, record]
      exact ⟨rfl, rfl, rfl⟩

/-- The same holds for a block that is made from a description. -/
theorem ofBytes_logger (bytes : Bytes) (logger : Logger) :
    LogsOnce (read default bytes none).block.readRecord (ofBytes bytes none).1 logger
      (ofBytes bytes (some logger)).1 (ofBytes bytes (some logger)).2 := by
  obtain ⟨same, once⟩ := read_logger default bytes logger
  simp only [ofBytes, same]
  exact once.map _

/-! ### The two records -/

/-- **There is a record** exactly if the checksum is not too long, as long as a word holds its
length. -/
theorem exists_record_iff (short : block.checksumLength < 2 ^ 31) :
    ((∃ record, block.writeRecord = .ok record) ↔ block.checksumLength < 1610612734) ∧
      ((∃ record, block.readRecord = .ok record) ↔ block.checksumLength < 1610612734) := by
  by_cases fits : block.checksumLength < 1610612734
  · have text := fits_iff_checksumLength.mpr fits
    exact ⟨iff_of_true ⟨_, writeRecord_of_fits text⟩ fits,
      iff_of_true ⟨_, readRecord_of_fits text⟩ fits⟩
  · obtain ⟨write, read⟩ := records_of_long (Nat.le_of_not_lt fits) short
    refine ⟨iff_of_false ?_ fits, iff_of_false ?_ fits⟩
    · rintro ⟨record, made⟩
      rw [write] at made
      cases made
    · rintro ⟨record, made⟩
      rw [read] at made
      cases made

/-- What is told of a checksum that is there. -/
theorem noteText_of_some {checksum : Bytes} (present : block.checksum = some checksum) :
    block.noteText = ascii "len=" ++ Decimal.ofNat checksum.length ++ ascii " value=" ++
      Checksum.spelling checksum := by
  rw [noteText, checksumLength, present]
  rfl

theorem writeText_of_some {checksum : Bytes} (present : block.checksum = some checksum) :
    block.writeText = ascii "Serialize Checksum: " ++ block.noteText := by
  rw [writeText, present]
  rfl

/-- The loggers of a writer and of a reader of the bytes that it has written. -/
theorem loggers_of_written (canonical : block.Canonical) (fits : block.Fits) {window : Window}
    {writer : Logger} {count : Nat}
    (success : (block.write window (some writer)).result = .ok count) {bytes : Bytes}
    (starts : ((block.write window (some writer)).buffer.drop window.start).take count <+: bytes)
    (target : Block) (reader : Logger) :
    (block.write window (some writer)).logger = some (writer.log block.writeText) ∧
      (target.read bytes (some reader)).logger = some (reader.log block.readText) ∧
      (ofBytes bytes (some reader)).2 = some (reader.log block.readText) := by
  obtain ⟨rfl, whole⟩ := written_of_ok success
  rw [whole] at starts
  obtain ⟨rest, rfl⟩ := starts
  have loggable (reader : Logger) : block.Loggable (some reader) := .inr fits
  have readable (target : Block) (reader : Logger) :=
    read_encode_append canonical rest target (loggable reader)
  refine ⟨?_, ?_, ?_⟩
  · by_cases short : window.limit < block.wireLength
    · rw [write_of_short short] at success
      cases success
    · rw [write_of_fits (Nat.le_of_not_lt short) (Loggable.note_writeRecord (.inr fits))]
      rfl
  · rw [readable target reader]
    rfl
  · rw [ofBytes_of_read (readable default reader)]
    rfl

/-- **Logging only observes, and both sides log the same.** With a logger, writing and reading give
the buffer and the block that they give without, and the same result where the record can be made.
The logger gets this record of a success, and nothing of a failure. For a block with a checksum that
is not empty and whose text fits, the record of the writer and the record of a reader of the same
bytes have the same note behind their first words, and the text in it is read as the checksum. -/
theorem log_observes (block target : Block) (window : Window) (bytes : Bytes) (logger : Logger) :
    ((block.write window (some logger)).buffer = (block.write window none).buffer ∧
      LogsOnce block.writeRecord (block.write window none).result logger
        (block.write window (some logger)).result (block.write window (some logger)).logger) ∧
    ((target.read bytes (some logger)).block = (target.read bytes none).block ∧
      LogsOnce (target.read bytes none).block.readRecord (target.read bytes none).result logger
        (target.read bytes (some logger)).result (target.read bytes (some logger)).logger) ∧
    LogsOnce (read default bytes none).block.readRecord (ofBytes bytes none).1 logger
      (ofBytes bytes (some logger)).1 (ofBytes bytes (some logger)).2 ∧
    (∀ other : Block, other.checksumLength < 2 ^ 31 →
      ((∃ record, other.writeRecord = .ok record) ↔ other.checksumLength < 1610612734) ∧
      ((∃ record, other.readRecord = .ok record) ↔ other.checksumLength < 1610612734)) ∧
    ∀ checksum, block.checksum = some checksum → checksum ≠ [] → 0 ≤ block.length →
      Checksum.Fits checksum →
        ∃ text, Checksum.encode checksum = .ok text ∧ Checksum.decode text = .ok checksum ∧
          let note := ascii "len=" ++ Decimal.ofNat checksum.length ++ ascii " value=" ++ text
          ∀ count, (block.write window (some logger)).result = .ok count →
            (block.write window (some logger)).logger =
              some (logger.log (ascii "Serialize Checksum: " ++ note)) ∧
            (((block.write window (some logger)).buffer.drop window.start).take count <+: bytes →
              ∀ reader : Logger,
                (target.read bytes (some reader)).logger =
                  some (reader.log (ascii "Deserialize Checksum: " ++ note)) ∧
                (ofBytes bytes (some reader)).2 =
                  some (reader.log (ascii "Deserialize Checksum: " ++ note))) := by
  refine ⟨write_logger block window logger, read_logger target bytes logger,
    ofBytes_logger bytes logger, fun other short => exists_record_iff short, ?_⟩
  intro checksum present nonempty counted fitting
  have fits : block.Fits := by
    intro bytes same
    obtain rfl := Option.some.inj (present.symm.trans same)
    exact fitting
  have short := fits_iff_checksumLength.mp fits
  have canonical : block.Canonical := ⟨⟨counted, by omega⟩, fun empty =>
    nonempty (Option.some.inj (present.symm.trans empty))⟩
  refine ⟨Checksum.spelling checksum, Checksum.encode_of_fits fitting,
    Checksum.decode_spelling fitting, ?_⟩
  intro note count success
  have same : block.noteText = note := noteText_of_some present
  rw [← same, ← writeText_of_some present]
  refine ⟨?_, fun starts reader => ?_⟩
  · exact (loggers_of_written canonical fits success List.prefix_rfl target logger).1
  · exact (loggers_of_written canonical fits success starts target reader).2

/-- A description in the middle of a buffer, and a reader of it and of the bytes behind it. -/
theorem log_observes_middle :
    let block : Block := ⟨-2, 5, 3, some [251, 255]⟩
    let window : Window := ⟨List.replicate 40 170, 3, 31, by decide⟩
    let logger := Logger.new (ascii "CODEC") fun _ => 0
    let written := block.write window (some logger)
    (0 ≤ block.length ∧ Checksum.Fits [251, 255] ∧ written.result = .ok 30 ∧
      block.checksumLength < 2 ^ 31) ∧
      (∃ record, block.writeRecord = .ok record) ∧
      written.logger = some (logger.log (ascii "Serialize Checksum: len=2 value=-_8")) ∧
      ∀ (target : Block) (reader : Logger),
        (target.read (written.buffer.drop 3) (some reader)).logger =
          some (reader.log (ascii "Deserialize Checksum: len=2 value=-_8")) := by
  intro block window logger written
  have counted : 0 ≤ block.length := by decide
  have fitting : Checksum.Fits [251, 255] := by decide
  have fits : block.Fits := by decide
  have success : written.result = .ok 30 := by
    have fitted : block.wireLength ≤ window.limit := by decide
    show (block.write window (some logger)).result = .ok 30
    rw [write_of_fits fitted (Loggable.note_writeRecord (.inr fits))]
    rfl
  have short : block.checksumLength < 2 ^ 31 := by decide
  have starts : (written.buffer.drop 3).take 30 <+: written.buffer.drop 3 :=
    List.take_prefix 30 _
  have spelled : ascii "len=" ++ Decimal.ofNat 2 ++ ascii " value=" ++
      Checksum.spelling [251, 255] = ascii "len=2 value=-_8" := by decide +kernel
  have agree (target : Block) :=
    log_observes block target window (written.buffer.drop 3) logger
  have notes (target : Block) := (agree target).2.2.2.2 [251, 255] rfl (by decide) counted fitting
  refine ⟨⟨counted, fitting, success, short⟩,
    ((agree block).2.2.2.1 block short).1.mpr (by decide), ?_, fun target reader => ?_⟩
  · obtain ⟨text, made, _, noted⟩ := notes block
    obtain rfl := Except.ok.inj ((Checksum.encode_of_fits fitting).symm.trans made)
    have line := (noted 30 success).1
    rw [List.length_cons, List.length_singleton, spelled] at line
    exact line
  · obtain ⟨text, made, _, noted⟩ := notes target
    obtain rfl := Except.ok.inj ((Checksum.encode_of_fits fitting).symm.trans made)
    have line := ((noted 30 success).2 starts reader).1
    rw [List.length_cons, List.length_singleton, spelled] at line
    exact line

/-- **A description that is read without a logger only**: the text of its checksum is too long for
a record. -/
theorem logger_decides :
    let bytes : Bytes := List.replicate 1616928892 96
    ∃ block : Block, ofBytes bytes none = (.ok block, none) ∧
      ∀ logger : Logger, (ofBytes bytes (some logger)).1 ≠ (ofBytes bytes none).1 := by
  obtain ⟨bytes, known, _, _, _, count, block, _, _, _, _, silent, logged⟩ := Wire.accepts_overlong
  rw [← known]
  have alone := (silent default none (.inl rfl)).2
  refine ⟨block, alone, fun logger same => ?_⟩
  rw [alone, (logged default logger (by omega)).2] at same
  cases same

end Block
end StorageBlock
