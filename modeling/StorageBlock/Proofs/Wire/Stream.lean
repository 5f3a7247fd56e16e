/-
**Descriptions one after another.**

Nothing stands between two descriptions in a buffer: where one ends is known from its own bytes. A
`Tape` is a buffer with a position, which moves on by the bytes that were written or read.

* `Tape.writeAll_eq`: a run of descriptions is their encodings side by side;
* `Tape.readAll_encode`: the same number of readings gives the blocks back;
* `Wire.takeBlock_take_encode`: a description that has been cut off lacks an item, and which one is
  a matter of its length;
* `Tape.readAll_writeAll`: these together.
-/

import StorageBlock.Proofs.Wire.RoundTrip

namespace StorageBlock

/-! ### A description that has been cut off -/

namespace Wire

theorem longAt_take {bytes : Bytes} {position count : Nat} (whole : position + 8 ≤ count) :
    longAt (bytes.take count) position = longAt bytes position := by
  unfold longAt
  rw [List.drop_take, List.take_take, Nat.min_eq_left (by omega)]

theorem intAt_take {bytes : Bytes} {position count : Nat} (whole : position + 4 ≤ count) :
    intAt (bytes.take count) position = intAt bytes position := by
  unfold intAt
  rw [List.drop_take, List.take_take, Nat.min_eq_left (by omega)]

theorem longAt_encode (block : Block) : longAt block.encode 8 = block.length := by
  have width := BigEndian.ofInt64_length
  unfold longAt Block.encode
  simp only [List.append_assoc]
  rw [List.drop_left' (width _), List.take_left' (width _), BigEndian.int64_ofInt64]

theorem intAt_encode (block : Block) :
    intAt block.encode 24 = Int32.ofNat block.checksumLength := by
  have words : (BigEndian.ofInt64 block.id ++ BigEndian.ofInt64 block.length ++
      BigEndian.ofInt64 block.generation).length = 24 := by
    simp only [List.length_append, BigEndian.ofInt64_length]
  rw [intAt, Block.encode, List.append_assoc, List.drop_left' words,
    List.take_left' (BigEndian.ofInt32_length _), BigEndian.int32_ofInt32]

/-- The item that is lacking when a description ends after some of its bytes. -/
def lacking (count : Nat) : WireItem :=
  if count < 24 then .long else if count < 28 then .int else .checksum

/-- **A description that has been cut off lacks an item**, and never looks corrupt. -/
theorem takeBlock_take_encode {block : Block} (describable : block.Describable) {count : Nat}
    (cut : count < block.wireLength) :
    takeBlock (block.encode.take count) = .error (.tooSmall (lacking count)) := by
  have length : (block.encode.take count).length = count :=
    List.length_take_of_le (by rw [block.encode_length]; omega)
  rw [takeBlock_eq, length, lacking]
  by_cases words : count < 24
  · rw [if_pos words, if_pos words]
  rw [if_neg words, if_neg words, longAt_take (by omega), longAt_encode,
    if_neg (Int64.not_lt.mpr describable.length_nonneg)]
  by_cases word : count < 28
  · rw [if_pos word, if_pos word]
  rw [if_neg word, if_neg word, countAt, intAt_take (by omega), intAt_encode,
    if_neg (ofNat_count_nonneg describable.checksum_short),
    toInt_ofNat_count describable.checksum_short, Int.toNat_natCast]
  exact if_pos cut

end Wire

theorem Block.ofBytes_of_error {bytes : Bytes} {error : WireError}
    (failed : Wire.takeBlock bytes = .error error) (logger : Option Logger) :
    ofBytes bytes logger = (.error (.cause error), logger) := by
  rw [ofBytes, read, failed]
  rfl

/-! ### A position in a buffer -/

/-- A buffer where descriptions are written or read one after another. -/
structure Tape where
  /-- The whole buffer. -/
  buffer : Bytes
  /-- Where the next description begins. -/
  position : Nat
  /-- The logger of the descriptions. -/
  logger : Option Logger

namespace Tape

/-- The stretch from the position to the end of the buffer. -/
def rest (tape : Tape) : Window := Window.clamp tape.buffer tape.position none

/-- Writes the next description. -/
def write (tape : Tape) (block : Block) : Except (Failure WireError) Tape :=
  let written := block.write tape.rest tape.logger
  written.result.map fun count => ⟨written.buffer, tape.position + count, written.logger⟩

/-- Writes descriptions one after another. -/
def writeAll (tape : Tape) : List Block → Except (Failure WireError) Tape
  | [] => .ok tape
  | block :: blocks => do
    let tape ← tape.write block
    writeAll tape blocks

/-- Reads the next description into a block. -/
def read (tape : Tape) (target : Block) : Except (Failure WireError) (Block × Tape) :=
  let attempt := target.read tape.rest.bytes tape.logger
  attempt.result.map fun count =>
    (attempt.block, ⟨tape.buffer, tape.position + count, attempt.logger⟩)

/-- Reads descriptions one after another, each into a block of its own. -/
def readAll (tape : Tape) : List Block → Except (Failure WireError) (List Block × Tape)
  | [] => .ok ([], tape)
  | target :: targets => do
    let (block, tape) ← tape.read target
    let (blocks, tape) ← readAll tape targets
    .ok (block :: blocks, tape)

/-- The bytes of descriptions side by side. -/
def encodeAll (blocks : List Block) : Bytes := blocks.flatMap Block.encode

/-- The number of bytes of descriptions side by side. -/
def totalLength : List Block → Nat
  | [] => 0
  | block :: blocks => block.wireLength + totalLength blocks

theorem encodeAll_length (blocks : List Block) :
    (encodeAll blocks).length = totalLength blocks := by
  induction blocks with
  | nil => rfl
  | cons block blocks hypothesis =>
    rw [encodeAll, List.flatMap_cons, List.length_append, block.encode_length, ← encodeAll,
      hypothesis, totalLength]

/-- Empty checksums leave the same bytes as absent ones. -/
theorem encodeAll_normal (blocks : List Block) :
    encodeAll (blocks.map Block.normal) = encodeAll blocks := by
  unfold encodeAll
  rw [List.flatMap_map]
  exact congrArg List.flatten (List.map_congr_left fun block _ => block.encode_normal)

theorem totalLength_normal (blocks : List Block) :
    totalLength (blocks.map Block.normal) = totalLength blocks := by
  rw [← encodeAll_length, encodeAll_normal, encodeAll_length]

/-- A logger after records. -/
def logAll (logger : Option Logger) (records : List Bytes) : Option Logger :=
  logger.map fun logger => records.foldl Logger.log logger

theorem logAll_nil (logger : Option Logger) : logAll logger [] = logger := by
  cases logger <;> rfl

theorem logAll_logAll (logger : Option Logger) (first second : List Bytes) :
    logAll (logAll logger first) second = logAll logger (first ++ second) := by
  cases logger with
  | none => rfl
  | some logger => exact congrArg some List.foldl_append.symm

/-- Records do not take a logger away, and make none. -/
theorem loggable_logAll {block : Block} {logger : Option Logger} (loggable : block.Loggable logger)
    (records : List Bytes) : block.Loggable (logAll logger records) := by
  refine loggable.imp_left fun absent => ?_
  rw [absent]
  rfl

theorem rest_start {tape : Tape} (inside : tape.position ≤ tape.buffer.length) :
    tape.rest.start = tape.position := Nat.min_eq_left inside

theorem rest_limit {tape : Tape} (inside : tape.position ≤ tape.buffer.length) :
    tape.rest.limit = tape.buffer.length - tape.position := by
  show min tape.buffer.length (tape.buffer.length - min tape.position tape.buffer.length) = _
  omega

theorem rest_bytes {tape : Tape} (inside : tape.position ≤ tape.buffer.length) :
    tape.rest.bytes = tape.buffer.drop tape.position := by
  rw [Window.bytes, rest_start inside, rest_limit inside]
  exact List.take_of_length_le (Nat.le_of_eq List.length_drop)

/-! ### Writing one after another -/

/-- **One step of writing.** -/
theorem write_eq {tape : Tape} {block : Block}
    (fits : tape.position + block.wireLength ≤ tape.buffer.length)
    (loggable : block.Loggable tape.logger) :
    tape.write block =
      .ok ⟨Bytes.overwrite tape.buffer tape.position block.encode,
        tape.position + block.wireLength, logAll tape.logger [block.writeText]⟩ := by
  have inside : tape.position ≤ tape.buffer.length := by omega
  have space : block.wireLength ≤ tape.rest.limit := by
    rw [rest_limit inside]
    omega
  rw [write, Block.write_of_fits space loggable.note_writeRecord, rest_start inside]
  rfl

/-- **A run of writing**: the encodings stand side by side, and nothing else changes. -/
theorem writeAll_eq (blocks : List Block) {tape : Tape}
    (fits : tape.position + totalLength blocks ≤ tape.buffer.length)
    (loggable : ∀ block ∈ blocks, block.Loggable tape.logger) :
    tape.writeAll blocks =
      .ok ⟨Bytes.overwrite tape.buffer tape.position (encodeAll blocks),
        tape.position + totalLength blocks,
        logAll tape.logger (blocks.map Block.writeText)⟩ := by
  induction blocks generalizing tape with
  | nil =>
    rw [writeAll, encodeAll, List.flatMap_nil, Bytes.overwrite_nil, List.map_nil, logAll_nil]
    rfl
  | cons block blocks hypothesis =>
    rw [totalLength] at fits ⊢
    have inside : tape.position ≤ tape.buffer.length := by omega
    have size : (Bytes.overwrite tape.buffer tape.position block.encode).length =
        tape.buffer.length := Bytes.overwrite_length (by rw [block.encode_length]; omega)
    rw [writeAll, write_eq (by omega) (loggable block List.mem_cons_self)]
    show writeAll _ blocks = _
    rw [hypothesis (by show tape.position + block.wireLength + _ ≤ _; rw [size]; omega)
      fun other member =>
        loggable_logAll (loggable other (List.mem_cons_of_mem _ member)) [block.writeText]]
    simp only [← block.encode_length, Bytes.overwrite_overwrite inside, logAll_logAll,
      Nat.add_assoc]
    rfl

/-! ### Reading one after another -/

/-- **One step of reading.** -/
theorem read_eq {tape : Tape} {block : Block} {rest : Bytes} (canonical : block.Canonical)
    (inside : tape.position ≤ tape.buffer.length)
    (next : tape.buffer.drop tape.position = block.encode ++ rest)
    (loggable : block.Loggable tape.logger) (target : Block) :
    tape.read target =
      .ok (block, ⟨tape.buffer, tape.position + block.wireLength,
        logAll tape.logger [block.readText]⟩) := by
  rw [read, rest_bytes inside, next, Block.read_encode_append canonical rest target loggable]
  rfl

/-- **A run of reading**: encodings side by side are read back, however the blocks looked that are
read into. -/
theorem readAll_encode (blocks : List Block) (canonical : ∀ block ∈ blocks, block.Canonical)
    {targets : List Block} (same : targets.length = blocks.length) {tape : Tape} {rest : Bytes}
    (inside : tape.position ≤ tape.buffer.length)
    (next : tape.buffer.drop tape.position = encodeAll blocks ++ rest)
    (loggable : ∀ block ∈ blocks, block.Loggable tape.logger) :
    tape.readAll targets =
      .ok (blocks, ⟨tape.buffer, tape.position + totalLength blocks,
        logAll tape.logger (blocks.map Block.readText)⟩) := by
  induction blocks generalizing targets tape with
  | nil =>
    obtain rfl := List.length_eq_zero_iff.mp same
    rw [readAll, List.map_nil, logAll_nil]
    rfl
  | cons block blocks hypothesis =>
    obtain ⟨target, targets, rfl⟩ := List.exists_cons_of_length_eq_add_one same
    rw [encodeAll, List.flatMap_cons, List.append_assoc] at next
    have step := read_eq (canonical block List.mem_cons_self) inside next
      (loggable block List.mem_cons_self) target
    have long : tape.position + block.wireLength ≤ tape.buffer.length := by
      have width := congrArg List.length next
      rw [List.length_drop, List.length_append, block.encode_length] at width
      omega
    have beyond : tape.buffer.drop (tape.position + block.wireLength) =
        encodeAll blocks ++ rest := by
      rw [← List.drop_drop, next, List.drop_left' block.encode_length, encodeAll]
    have run := @hypothesis (fun other member => canonical other (List.mem_cons_of_mem _ member))
      targets (Nat.succ.inj same) ⟨tape.buffer, tape.position + block.wireLength,
        logAll tape.logger [block.readText]⟩ long beyond fun other member =>
          loggable_logAll (loggable other (List.mem_cons_of_mem _ member)) [block.readText]
    rw [readAll, step]
    show (readAll _ targets >>= _) = _
    rw [run, totalLength, logAll_logAll, ← Nat.add_assoc]
    rfl

/-- What a run of writing has left in the buffer is read back. -/
theorem readAll_overwrite (blocks : List Block) (describable : ∀ block ∈ blocks, block.Describable)
    {tape : Tape} (fits : tape.position + totalLength blocks ≤ tape.buffer.length)
    {targets : List Block} (same : targets.length = blocks.length) {logger : Option Logger}
    (loggable : ∀ block ∈ blocks, block.Loggable logger) :
    let buffer := Bytes.overwrite tape.buffer tape.position (encodeAll blocks)
    (Tape.mk buffer tape.position logger).readAll targets =
      .ok (blocks.map Block.normal, ⟨buffer, tape.position + totalLength blocks,
        logAll logger ((blocks.map Block.normal).map Block.readText)⟩) := by
  intro buffer
  have inside : tape.position ≤ tape.buffer.length := by omega
  have size : buffer.length = tape.buffer.length :=
    Bytes.overwrite_length (by rw [encodeAll_length]; omega)
  have canonical : ∀ block ∈ blocks.map Block.normal, block.Canonical := by
    intro block member
    obtain ⟨source, known, rfl⟩ := List.mem_map.mp member
    exact (describable source known).canonical_normal
  have next : buffer.drop tape.position = encodeAll (blocks.map Block.normal) ++
      tape.buffer.drop (tape.position + (encodeAll blocks).length) := by
    rw [Bytes.drop_overwrite inside, encodeAll_normal]
  have readable : ∀ block ∈ blocks.map Block.normal, block.Loggable logger := by
    intro block member
    obtain ⟨source, known, rfl⟩ := List.mem_map.mp member
    exact (loggable source known).normal
  rw [← totalLength_normal]
  exact readAll_encode (blocks.map Block.normal) canonical (by rw [List.length_map, same])
    (Nat.le_trans inside (Nat.le_of_eq size.symm)) next readable

/-! ### The format delimits itself -/

/-- **A run of descriptions is read back as it was written**, and consumes exactly its bytes; and
no description decodes before its last byte: what is reported then is lack of space. -/
theorem readAll_writeAll (blocks : List Block) (describable : ∀ block ∈ blocks, block.Describable)
    (tape : Tape) (fits : tape.position + totalLength blocks ≤ tape.buffer.length)
    (loggable : ∀ block ∈ blocks, block.Loggable tape.logger) :
    (∃ (buffer : Bytes) (written : Option Logger),
      tape.writeAll blocks = .ok ⟨buffer, tape.position + totalLength blocks, written⟩ ∧
      buffer = Bytes.overwrite tape.buffer tape.position (encodeAll blocks) ∧
      ∀ targets : List Block, targets.length = blocks.length → ∀ logger : Option Logger,
        (∀ block ∈ blocks, block.Loggable logger) →
          ∃ after : Option Logger, (Tape.mk buffer tape.position logger).readAll targets =
            .ok (blocks.map Block.normal,
              ⟨buffer, tape.position + totalLength blocks, after⟩)) ∧
    ∀ block ∈ blocks, ∀ count < block.wireLength, ∀ logger : Option Logger, ∃ error : WireError,
      Block.ofBytes (block.encode.take count) logger = (.error (.cause error), logger) ∧
        error.isCorrupt = false ∧ ascii "Buffer too small for " <+: error.message := by
  constructor
  · exact ⟨_, _, writeAll_eq blocks fits loggable, rfl, fun targets same logger readable =>
      ⟨_, readAll_overwrite blocks describable fits same readable⟩⟩
  · intro block member count cut logger
    exact ⟨_, Block.ofBytes_of_error (Wire.takeBlock_take_encode (describable block member) cut)
      logger, rfl, List.prefix_append _ _⟩

/-- Three descriptions in the middle of a buffer, of which one has an empty checksum. -/
theorem readAll_writeAll_three :
    let blocks : List Block := [⟨-1, 0, 7, none⟩, ⟨5, 9, -3, some []⟩, ⟨0, 1, 2, some [28, 0, 255]⟩]
    let tape : Tape := ⟨List.replicate 100 3, 4, none⟩
    (∀ block ∈ blocks, block.Describable) ∧
      tape.position + totalLength blocks ≤ tape.buffer.length ∧
      (∀ block ∈ blocks, block.Loggable none) ∧
      (∃ (buffer : Bytes) (written : Option Logger),
        tape.writeAll blocks = .ok ⟨buffer, 91, written⟩ ∧
        ∃ after : Option Logger, (Tape.mk buffer 4 none).readAll blocks =
          .ok ([⟨-1, 0, 7, none⟩, ⟨5, 9, -3, none⟩, ⟨0, 1, 2, some [28, 0, 255]⟩],
            ⟨buffer, 91, after⟩)) ∧
      ∃ error : WireError, error.isCorrupt = false ∧
        Block.ofBytes ((Block.encode ⟨0, 1, 2, some [28, 0, 255]⟩).take 30) none =
          (.error (.cause error), none) := by
  intro blocks tape
  have describable : ∀ block ∈ blocks, block.Describable := by
    intro block member
    simp only [blocks, List.mem_cons, List.not_mem_nil, or_false] at member
    rcases member with rfl | rfl | rfl
    · exact ⟨by decide, by decide⟩
    · exact ⟨by decide, by decide⟩
    · exact ⟨by decide, by decide⟩
  have fits : tape.position + totalLength blocks ≤ tape.buffer.length := by decide
  have loggable : ∀ block ∈ blocks, block.Loggable none := fun block _ => .inl rfl
  obtain ⟨⟨buffer, written, run, _, readable⟩, cut⟩ :=
    readAll_writeAll blocks describable tape fits loggable
  obtain ⟨error, failed, plain, _⟩ :=
    cut ⟨0, 1, 2, some [28, 0, 255]⟩ (by simp [blocks]) 30 (by decide) none
  exact ⟨describable, fits, loggable,
    ⟨buffer, written, run, readable blocks rfl none loggable⟩, error, plain, failed⟩

end Tape
end StorageBlock
