/-
**The short form of a description.**

The short form holds the number and the generation of a block. It is two words of the whole
description with the word between them left out, and it identifies a block as far as
`Block.sameGeneration` tells blocks apart. A reader of the short form takes both words before it
changes the block it reads into.

* `Block.writeId_of_fits`, `Block.writeId_of_short`: what writing the short form does to a buffer;
* `Block.readId_eq`: what becomes of any bytes that are read;
* `Block.encodeId_eq_iff`: blocks with one short form;
* `Block.short_form`: these together, for any two blocks.
-/

import StorageBlock.Proofs.Wire.Layout

namespace StorageBlock

theorem BigEndian.ofInt64_inj {first second : Int64} :
    ofInt64 first = ofInt64 second ↔ first = second := by
  refine ⟨fun same => ?_, congrArg ofInt64⟩
  rw [← int64_ofInt64 first, same, int64_ofInt64]

/-! ### Writing -/

/-- Once there is space for both words, neither fails. -/
theorem Writing.blockId_of_fits {block : Block} {window : Window}
    (fits : Block.idLength ≤ window.limit) :
    (Writing.blockId block).run (Sink.ofWindow window) =
      .ok () (Sink.filled window block.encodeId) := by
  have words := (appends_long block.id).andThen (appends_long block.generation)
  have written := words window [] (by
    show 0 + block.encodeId.length ≤ window.limit
    rw [block.encodeId_length]
    omega)
  rw [Sink.filled_nil] at written
  exact (require_then fits _).trans written

namespace Block

theorem writeId_of_fits {block : Block} {window : Window} (fits : idLength ≤ window.limit) :
    block.writeId window =
      ⟨.ok idLength, Bytes.overwrite window.buffer window.start block.encodeId, none⟩ := by
  rw [writeId, Writing.perform, Writing.blockId_of_fits fits]
  simp only [Sink.filled, encodeId_length, Logger.note]

theorem writeId_of_short {block : Block} {window : Window} (short : window.limit < idLength) :
    block.writeId window = ⟨.error (.cause (.tooSmall .blockId)), window.buffer, none⟩ := by
  have failed : (Writing.blockId block).run (Sink.ofWindow window) = _ :=
    Writing.require_of_short short _
  rw [writeId, Writing.perform, failed]
  rfl

/-- **The short form is the whole description without the middle**: without the length of the data,
and without what follows the generation. -/
theorem encodeId_eq_encode (block : Block) :
    block.encodeId = block.encode.take 8 ++ (block.encode.drop 16).take 8 := by
  have width := BigEndian.ofInt64_length
  have words : (BigEndian.ofInt64 block.id ++ BigEndian.ofInt64 block.length).length = 16 := by
    rw [List.length_append, width, width]
  have number : block.encode.take 8 = BigEndian.ofInt64 block.id := by
    rw [encode]
    simp only [List.append_assoc]
    exact List.take_left' (width _)
  have generation : (block.encode.drop 16).take 8 = BigEndian.ofInt64 block.generation := by
    rw [encode, List.append_assoc, List.append_assoc, List.drop_left' words]
    exact List.take_left' (width _)
  rw [number, generation, encodeId]

/-- The same of the bytes that writing the whole description has put into its window. -/
theorem encodeId_eq_written (block : Block) (window : Window) :
    let buffer := Bytes.overwrite window.buffer window.start block.encode
    block.encodeId =
      (buffer.drop window.start).take 8 ++ (buffer.drop (window.start + 16)).take 8 := by
  intro buffer
  have written : buffer.drop window.start =
      block.encode ++ window.buffer.drop (window.start + block.encode.length) :=
    Bytes.drop_overwrite window.start_le _
  have long : 24 ≤ block.encode.length := by
    rw [encode_length, wireLength, fixedLength]
    omega
  have generation : ((block.encode.drop 16).length : Nat) ≥ 8 := by
    rw [List.length_drop]
    omega
  rw [← List.drop_drop, written, List.take_append_of_le_length (by omega),
    List.drop_append_of_le_length (by omega), List.take_append_of_le_length generation]
  exact block.encodeId_eq_encode

/-- **Blocks have one short form** exactly if they are the same generation of one block. -/
theorem encodeId_eq_iff {first second : Block} :
    first.encodeId = second.encodeId ↔ sameGeneration (some first) (some second) = true := by
  have width := BigEndian.ofInt64_length
  have words : first.encodeId = second.encodeId ↔
      BigEndian.ofInt64 first.id = BigEndian.ofInt64 second.id ∧
        BigEndian.ofInt64 first.generation = BigEndian.ofInt64 second.generation :=
    List.append_eq_append_iff_of_size_eq_left ((width _).trans (width _).symm)
  rw [words, BigEndian.ofInt64_inj, BigEndian.ofInt64_inj]
  exact decide_eq_true_iff.symm

/-! ### Reading -/

/-- **The outcome of reading the short form**: both words, or a block that is left alone. -/
theorem readId_eq (target : Block) (bytes : Bytes) :
    target.readId bytes =
      if bytes.length < 16 then ⟨.error (.cause (.tooSmall .long)), target, none⟩
      else ⟨.ok 16, { target with id := Wire.longAt bytes 0, generation := Wire.longAt bytes 8 },
        none⟩ := by
  by_cases none : bytes.length < 8
  · rw [if_pos (by omega), readId, Wire.takeLong_of_short none]
  have number : Wire.takeLong (bytes.drop 0) = .ok (Wire.longAt bytes 0, bytes.drop 8) :=
    Wire.takeLong_drop (by omega)
  rw [List.drop_zero] at number
  by_cases one : bytes.length < 16
  -- The number is there, but it stays with the reader: the block is set after both words.
  · have missing : Wire.takeLong (bytes.drop 8) = .error (.tooSmall .long) :=
      Wire.takeLong_of_short (by rw [List.length_drop]; omega)
    rw [if_pos one, readId, number]
    dsimp only
    rw [missing]
  · have generation : Wire.takeLong (bytes.drop 8) =
        .ok (Wire.longAt bytes 8, bytes.drop 16) := Wire.takeLong_drop (by omega)
    have consumed : bytes.length - (bytes.drop 16).length = 16 := by
      rw [List.length_drop]
      omega
    rw [if_neg one, readId, number]
    dsimp only
    rw [generation]
    dsimp only
    rw [consumed]

/-- **The short form of a block is read into another**, whatever follows: the other takes over the
number and the generation, and keeps the rest. -/
theorem readId_encodeId_append (target block : Block) (rest : Bytes) :
    target.readId (block.encodeId ++ rest) =
      ⟨.ok 16, { target with id := block.id, generation := block.generation }, none⟩ := by
  have width := BigEndian.ofInt64_length
  have number : Wire.longAt (block.encodeId ++ rest) 0 = block.id := by
    rw [Wire.longAt, List.drop_zero, encodeId, List.append_assoc, List.take_left' (width _),
      BigEndian.int64_ofInt64]
  have generation : Wire.longAt (block.encodeId ++ rest) 8 = block.generation := by
    rw [Wire.longAt, encodeId, List.append_assoc, List.drop_left' (width _),
      List.take_left' (width _), BigEndian.int64_ofInt64]
  have long : ¬(block.encodeId ++ rest).length < 16 := by
    rw [List.length_append, encodeId_length, idLength]
    omega
  rw [readId_eq, if_neg long, number, generation]

/-! ### Writing and reading -/

/-- **The short form carries the number and the generation**, and nothing else. A limit below
sixteen bytes leaves the buffer alone; any other puts into it the words for the number and the
generation as they stand in the whole description, and changes no other byte. Read into another
block, these bytes make it the same generation of the same block and leave its other fields alone;
two blocks have the same bytes only if they are that already. From fewer bytes, also if they hold
the number, nothing is taken over. -/
theorem short_form (block target : Block) (window : Window) :
    (if window.limit < 16 then
      ∃ error : WireError, error.isCorrupt = false ∧
        error.message = ascii "Buffer too small for block id" ∧
        block.writeId window = ⟨.error (.cause error), window.buffer, none⟩
    else
      ∃ buffer : Bytes, block.writeId window = ⟨.ok 16, buffer, none⟩ ∧
        buffer.length = window.buffer.length ∧
        buffer.take window.start = window.buffer.take window.start ∧
        (buffer.drop window.start).take 16 = block.encodeId ∧
        buffer.drop (window.start + 16) = window.buffer.drop (window.start + 16)) ∧
    (∀ (full : Window) (logger : Option Logger), block.wireLength ≤ full.limit →
      block.Loggable logger → ∃ (buffer : Bytes) (after : Option Logger),
        block.write full logger = ⟨.ok block.wireLength, buffer, after⟩ ∧
        block.encodeId =
          (buffer.drop full.start).take 8 ++ (buffer.drop (full.start + 16)).take 8) ∧
    (∀ rest : Bytes, ∃ read : Block,
      target.readId (block.encodeId ++ rest) = ⟨.ok 16, read, none⟩ ∧
      read.id = block.id ∧ read.generation = block.generation ∧
      read.length = target.length ∧ read.checksum = target.checksum ∧
      sameGeneration (some block) (some read) = true) ∧
    (block.encodeId = target.encodeId ↔
      sameGeneration (some block) (some target) = true) ∧
    ∀ bytes : Bytes, bytes.length < 16 →
      ∃ error : WireError, error.isCorrupt = false ∧
        error.message = ascii "Buffer too small for long" ∧
        target.readId bytes = ⟨.error (.cause error), target, none⟩ := by
  have width : block.encodeId.length = 16 := block.encodeId_length
  refine ⟨?_, ?_, ?_, encodeId_eq_iff, ?_⟩
  · by_cases small : window.limit < 16
    · rw [if_pos small]
      exact ⟨.tooSmall .blockId, rfl, WireError.message_tooSmall "block id" rfl,
        writeId_of_short small⟩
    · rw [if_neg small]
      have inside := window.inside
      refine ⟨_, writeId_of_fits (Nat.le_of_not_lt small), Bytes.overwrite_length (by omega),
        Bytes.take_overwrite window.start_le _, ?_, ?_⟩
      · rw [← width]
        exact Bytes.overwrite_stretch window.start_le _
      · rw [← width]
        exact Bytes.drop_behind_overwrite window.start_le _
  · intro full logger fits loggable
    exact ⟨_, _, write_of_fits fits loggable.note_writeRecord, block.encodeId_eq_written full⟩
  · intro rest
    exact ⟨_, readId_encodeId_append target block rest, rfl, rfl, rfl, rfl,
      decide_eq_true ⟨rfl, rfl⟩⟩
  · intro bytes short
    refine ⟨.tooSmall .long, rfl, WireError.message_tooSmall "long" rfl, ?_⟩
    rw [readId_eq, if_pos short]

/-- The short form of a block with a checksum, in the middle of a buffer, for a block with another
number and length; and the number alone, which is too little. -/
theorem short_form_middle :
    let block : Block := ⟨-2, 4096, 258, some [7, 9]⟩
    let target : Block := ⟨5, 77, 6, none⟩
    let window : Window := ⟨List.replicate 40 170, 3, 20, by decide⟩
    let full : Window := .whole (List.replicate 64 0)
    let number : Bytes := [255, 255, 255, 255, 255, 255, 255, 254]
    (block.wireLength ≤ full.limit ∧ block.Loggable none ∧ number.length < 16) ∧
      (∃ buffer : Bytes, block.writeId window = ⟨.ok 16, buffer, none⟩ ∧
        (buffer.drop 3).take 16 = number ++ [0, 0, 0, 0, 0, 0, 1, 2]) ∧
      (∃ (buffer : Bytes) (after : Option Logger),
        block.write full none = ⟨.ok 30, buffer, after⟩ ∧
        number ++ [0, 0, 0, 0, 0, 0, 1, 2] = buffer.take 8 ++ (buffer.drop 16).take 8) ∧
      target.readId (number ++ [0, 0, 0, 0, 0, 0, 1, 2]) = ⟨.ok 16, ⟨-2, 77, 258, none⟩, none⟩ ∧
      ∃ error : WireError, target.readId number = ⟨.error (.cause error), target, none⟩ := by
  intro block target window full number
  have fits : block.wireLength ≤ full.limit := by decide
  have short : number.length < 16 := by decide
  have bytes : block.encodeId = number ++ [0, 0, 0, 0, 0, 0, 1, 2] := by decide
  obtain ⟨written, copied, taken, _, missing⟩ := short_form block target window
  rw [bytes] at taken
  obtain ⟨buffer, success, _, _, inside, _⟩ := written
  obtain ⟨⟨id, length, generation, checksum⟩, read, rfl, rfl, rfl, rfl, _⟩ := taken []
  obtain ⟨error, _, _, failed⟩ := missing number short
  have loggable : block.Loggable none := .inl rfl
  obtain ⟨whole, after, done, parts⟩ := copied full none fits loggable
  rw [bytes] at parts
  rw [List.append_nil] at read
  exact ⟨⟨fits, loggable, short⟩, ⟨buffer, success, inside.trans bytes⟩,
    ⟨whole, after, done, parts⟩, read, error, failed⟩

end Block
end StorageBlock
