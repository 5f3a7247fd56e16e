/-
**A description is written in its layout, or not at all.**

The space for a whole description is asked for once, at the beginning. Without it no byte is
written. With it every word finds its own space, the checksum, which asks for none, ends inside the
window, and the bytes in front of the description and behind it stay as they were.

* `Block.layout`: the bytes of a description, in terms of numbers (`Block.encode_eq_layout`);
* `Writing.header`: everything that is written before the checksum (`Writing.header_of_fits`);
* `Block.write_layout`: what becomes of any buffer, within any limit;
* `Block.written_not_logged`: a description that is written whole, but not logged.
-/

import StorageBlock.Proofs.Wire.RoundTrip
import StorageBlock.Proofs.Wire.Signed

namespace StorageBlock

/-! ### The bytes of a description -/

namespace Block

/-- Three words of eight bytes, the number of bytes in the checksum as a word of four, and these
bytes. -/
def layout (block : Block) : Bytes :=
  BigEndian.twosComplement 8 block.id.toInt ++ BigEndian.twosComplement 8 block.length.toInt ++
    BigEndian.twosComplement 8 block.generation.toInt ++
    BigEndian.twosComplement 4 block.checksumLength ++ block.checksum.getD []

theorem encode_eq_layout (block : Block) : block.encode = block.layout := by
  have count : BigEndian.ofInt32 (Int32.ofNat block.checksumLength) =
      BigEndian.twosComplement 4 block.checksumLength := by
    refine BigEndian.encode_eq_twosComplement ?_
    have value : (Int32.ofNat block.checksumLength).toUInt32.toNat =
        block.checksumLength % 2 ^ 32 := BitVec.toNat_ofNat _ _
    rw [value, Int.natCast_emod]
    exact Int.emod_emod _ _
  rw [encode, layout, count, BigEndian.ofInt64_eq, BigEndian.ofInt64_eq, BigEndian.ofInt64_eq]

example : layout ⟨1, -2, 258, some [7, 9]⟩ =
    [0, 0, 0, 0, 0, 0, 0, 1, 255, 255, 255, 255, 255, 255, 255, 254, 0, 0, 0, 0, 0, 0, 1, 2,
      0, 0, 0, 2, 7, 9] := by decide

end Block

/-! ### What is written before the checksum -/

namespace Writing

/-- Writes the words of a description. -/
def words (block : Block) : Writing := do
  long block.id
  long block.length
  long block.generation
  int (Int32.ofNat block.checksumLength)

/-- Asks for the space of a description and writes its words. -/
def header (block : Block) : Writing := do
  require .block block.wireLength
  words block

theorem bytes_nil : bytes [] = pure () := by
  funext sink
  rw [bytes, Sink.put, Bytes.overwrite_nil, List.length_nil, Nat.add_zero]
  rfl

/-- **The checksum is written last**, and it asks for no space. -/
theorem block_eq_header (block : Block) :
    Writing.block block = header block >>= fun _ => bytes (block.checksum.getD []) := by
  obtain ⟨id, length, generation, checksum⟩ := block
  cases checksum with
  | none =>
    simp only [Writing.block, header, words, Option.getD_none, bytes_nil, bind_assoc,
      bind_pure_unit]
    rfl
  | some checksum =>
    simp only [Writing.block, header, words, Option.getD_some, bind_assoc]
    rfl

theorem appends_words (block : Block) :
    ∃ data : Bytes, data.length = Block.fixedLength ∧ (words block).Appends data := by
  refine ⟨_, ?_, (appends_long block.id).andThen ((appends_long block.length).andThen
    ((appends_long block.generation).andThen (appends_int _)))⟩
  simp only [List.length_append, BigEndian.ofInt64_length, BigEndian.ofInt32_length,
    Block.fixedLength]

/-- **Every word finds its space**, and the space for the checksum is left. -/
theorem header_of_fits {block : Block} {window : Window}
    (fits : block.wireLength ≤ window.limit) :
    ∃ sink, (header block).run (Sink.ofWindow window) = .ok () sink ∧
      sink.start = window.start ∧
      sink.position + (block.checksum.getD []).length = block.wireLength := by
  obtain ⟨data, width, words⟩ := appends_words block
  have written := words window [] (by
    rw [List.length_nil, Nat.zero_add, width]
    exact Nat.le_trans (Nat.le_add_right _ _) fits)
  rw [Sink.filled_nil] at written
  refine ⟨_, (require_then fits _).trans written, rfl, ?_⟩
  show data.length + block.checksumLength = block.wireLength
  rw [width, Block.wireLength]

end Writing

/-! ### Any buffer, within any limit -/

theorem Bytes.take_overwrite {buffer : Bytes} {position : Nat} (inside : position ≤ buffer.length)
    (data : Bytes) : (overwrite buffer position data).take position = buffer.take position := by
  rw [overwrite, List.append_assoc]
  exact List.take_left' (List.length_take_of_le inside)

/-- **The layout or nothing**: a limit below the length of the description leaves the buffer and the
log alone. Any other puts the layout into the buffer and changes no other byte; the words of the
description are then written without an error, and the copy of the checksum behind them ends within
the limit. What is reported then is the length of the description, unless there is a logger and the
text of the checksum is too long for its record. -/
theorem Block.write_layout (block : Block) (window : Window) (logger : Option Logger) :
    (Writing.block block =
      Writing.header block >>= fun _ => Writing.bytes (block.checksum.getD [])) ∧
    if window.limit < block.wireLength then
      ∃ error : WireError, error.isCorrupt = false ∧
        error.message = ascii "Buffer too small for Block" ∧
        block.write window logger = ⟨.error (.cause error), window.buffer, logger⟩
    else
      (∃ buffer : Bytes,
        (block.write window logger).buffer = buffer ∧
        (logger = none ∨ block.checksumLength < 1610612734 →
          block.write window logger =
            ⟨.ok block.wireLength, buffer,
              logger.map fun logger => logger.log block.writeText⟩) ∧
        (logger.isSome ∧ 1610612734 ≤ block.checksumLength ∧ block.checksumLength < 2 ^ 31 →
          block.write window logger = ⟨.error (.size .beyondMemory), buffer, logger⟩) ∧
        buffer.length = window.buffer.length ∧
        buffer.take window.start = window.buffer.take window.start ∧
        (buffer.drop window.start).take block.wireLength = block.layout ∧
        buffer.drop (window.start + block.wireLength) =
          window.buffer.drop (window.start + block.wireLength)) ∧
      ∃ sink : Sink, (Writing.header block).run (Sink.ofWindow window) = .ok () sink ∧
        sink.start = window.start ∧
        sink.position + (block.checksum.getD []).length ≤ window.limit := by
  refine ⟨Writing.block_eq_header block, ?_⟩
  by_cases small : window.limit < block.wireLength
  · rw [if_pos small]
    exact ⟨.tooSmall .block, rfl, WireError.message_tooSmall "Block" rfl,
      write_of_short small logger⟩
  rw [if_neg small]
  have fits : block.wireLength ≤ window.limit := Nat.le_of_not_lt small
  have inside := window.inside
  constructor
  · refine ⟨_, buffer_of_fits fits logger, fun loggable => ?_, ?_, ?_, ?_, ?_, ?_⟩
    · rw [← fits_iff_checksumLength] at loggable
      exact write_of_fits fits (Loggable.note_writeRecord loggable)
    · rintro ⟨present, long, short⟩
      obtain ⟨logger, rfl⟩ := Option.isSome_iff_exists.mp present
      exact write_of_unnoted fits (note_of_long long short logger).1
    · refine Bytes.overwrite_length ?_
      rw [encode_length]
      omega
    · exact Bytes.take_overwrite window.start_le _
    · rw [written_bytes, encode_eq_layout]
    · rw [← List.drop_drop, Bytes.drop_overwrite window.start_le, encode_length]
      exact List.drop_left' block.encode_length
  · obtain ⟨sink, run, start, last⟩ := Writing.header_of_fits fits
    exact ⟨sink, run, start, last ▸ fits⟩

/-- **The shortest checksum that is too long to log.** The description fits its length word and the
window and is written whole, but with a logger its length is not reported. -/
theorem Block.written_not_logged :
    let block : Block := ⟨1, 0, 0, some (List.replicate 1610612734 0)⟩
    let window : Window := .whole (List.replicate 1610612762 0)
    block.checksumLength < 2 ^ 31 ∧ block.wireLength ≤ window.limit ∧
      (block.write window none).result = .ok block.wireLength ∧
      ∀ logger : Logger, (block.write window (some logger)).result =
        .error (.size .beyondMemory) := by
  intro block window
  have size : block.checksumLength = 1610612734 := List.length_replicate
  have limit : window.limit = 1610612762 := List.length_replicate
  -- From here on only the two lengths count, not the bytes.
  clear_value block window
  have fits : block.wireLength ≤ window.limit := by
    rw [wireLength, size, limit, fixedLength]
  refine ⟨by omega, fits, ?_, fun logger => ?_⟩
  · rw [write_of_fits fits (Loggable.note_writeRecord (.inl rfl))]
  · rw [write_of_unnoted fits (note_of_long (by omega) (by omega) logger).1]

end StorageBlock
