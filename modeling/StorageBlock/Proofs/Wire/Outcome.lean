/-
**What becomes of any bytes that are read.**

Bytes describe a block, or reading them fails in one of five ways. Which way it is follows from the
number of bytes and from two signed numbers among them, and where several faults come together their
order decides. A reader that fails in one of these ways leaves no trace, however far it got. With a
logger there is one more failure, for want of a record, and that one comes after the block has
changed.

* `Wire.Rejects`, `Wire.Accepts`: what a caller sees of the two outcomes;
* `Wire.longValue`, `Wire.intValue`: the numbers, in terms of bytes;
* `Wire.read_outcome`: which outcome it is, for all bytes;
* `Wire.overlong_not_logged`: bytes without a fault that cannot be read with a logger.
-/

import StorageBlock.Proofs.Wire.Signed
import StorageBlock.Proofs.Wire.Stream

namespace StorageBlock.Wire

/-! ### The numbers among the bytes -/

/-- The signed number in the eight bytes at a position. -/
def longValue (bytes : Bytes) (position : Nat) : Int :=
  BigEndian.signed ((bytes.drop position).take 8)

/-- The signed number in the four bytes at a position. -/
def intValue (bytes : Bytes) (position : Nat) : Int :=
  BigEndian.signed ((bytes.drop position).take 4)

theorem toInt_longAt {bytes : Bytes} {position : Nat} (inside : position + 8 ≤ bytes.length) :
    (longAt bytes position).toInt = longValue bytes position := by
  have exactly : ((bytes.drop position).take 8).length = 8 := by
    rw [List.length_take, List.length_drop]
    omega
  exact BigEndian.toInt_int64 exactly

theorem toInt_intAt {bytes : Bytes} {position : Nat} (inside : position + 4 ≤ bytes.length) :
    (intAt bytes position).toInt = intValue bytes position := by
  have exactly : ((bytes.drop position).take 4).length = 4 := by
    rw [List.length_take, List.length_drop]
    omega
  exact BigEndian.toInt_int32 exactly

theorem longAt_neg_iff {bytes : Bytes} {position : Nat} (inside : position + 8 ≤ bytes.length) :
    longAt bytes position < 0 ↔ longValue bytes position < 0 := by
  rw [Int64.lt_iff_toInt_lt, toInt_longAt inside, Int64.toInt_zero]

theorem intAt_neg_iff {bytes : Bytes} {position : Nat} (inside : position + 4 ≤ bytes.length) :
    intAt bytes position < 0 ↔ intValue bytes position < 0 := by
  rw [Int32.lt_iff_toInt_lt, toInt_intAt inside, Int32.toInt_zero]

theorem countAt_eq {bytes : Bytes} {position : Nat} (inside : position + 4 ≤ bytes.length) :
    countAt bytes position = (intValue bytes position).toNat := by
  rw [countAt, toInt_intAt inside]

/-! ### What a caller sees -/

/-- Reading fails with a message, into every block and as a new block alike, and no block and no
logger changes. -/
def Rejects (bytes : Bytes) (corrupt : Bool) (message : Bytes) : Prop :=
  ∃ error : WireError, error.isCorrupt = corrupt ∧ error.message = message ∧
    ∀ (target : Block) (logger : Option Logger),
      target.read bytes logger = ⟨.error (.cause error), target, logger⟩ ∧
      Block.ofBytes bytes logger = (.error (.cause error), logger)

/-- Reading gives the block with the numbers among the bytes, and logs it once. Where the text of
its checksum is too long, a logger gets nothing, and the attempt fails when the block has changed
already. -/
def Accepts (bytes : Bytes) : Prop :=
  ∃ block : Block, block.id.toInt = longValue bytes 0 ∧ block.length.toInt = longValue bytes 8 ∧
    block.generation.toInt = longValue bytes 16 ∧
    block.checksum = (if intValue bytes 24 = 0 then none
      else some ((bytes.drop 28).take (intValue bytes 24).toNat)) ∧
    (∀ (target : Block) (logger : Option Logger),
      logger = none ∨ intValue bytes 24 < 1610612734 →
        let after := logger.map fun logger => logger.log block.readText
        target.read bytes logger = ⟨.ok (28 + (intValue bytes 24).toNat), block, after⟩ ∧
        Block.ofBytes bytes logger = (.ok block, after)) ∧
    ∀ (target : Block) (logger : Logger), 1610612734 ≤ intValue bytes 24 →
      target.read bytes (some logger) = ⟨.error (.size .beyondMemory), block, some logger⟩ ∧
      Block.ofBytes bytes (some logger) = (.error (.size .beyondMemory), some logger)

theorem rejects_of_error {bytes : Bytes} {error : WireError}
    (failed : takeBlock bytes = .error error) : Rejects bytes error.isCorrupt error.message := by
  refine ⟨error, rfl, rfl, fun target logger => ⟨?_, Block.ofBytes_of_error failed logger⟩⟩
  rw [Block.read, failed]

theorem takeBlock_of_rejects {bytes message : Bytes} {corrupt : Bool}
    (rejected : Rejects bytes corrupt message) :
    ∃ error, takeBlock bytes = .error error ∧ error.isCorrupt = corrupt ∧
      error.message = message := by
  obtain ⟨error, kind, wording, outcome⟩ := rejected
  have result := congrArg ReadInto.result (outcome default none).1
  unfold Block.read at result
  cases taken : takeBlock bytes with
  | error fault =>
    rw [taken] at result
    obtain rfl : fault = error := Failure.cause.inj (Except.error.inj result)
    exact ⟨fault, rfl, kind, wording⟩
  | ok pair =>
    rw [taken] at result
    cases result

theorem rejects_of_short {bytes : Bytes} {item : WireItem} (name : String)
    (called : item.text = ascii name) (failed : takeBlock bytes = .error (.tooSmall item)) :
    Rejects bytes false (ascii ("Buffer too small for " ++ name)) := by
  rw [← WireError.message_tooSmall name called]
  exact rejects_of_error failed

theorem accepts_of_ok {bytes : Bytes} (whole : 28 + countAt bytes 24 ≤ bytes.length)
    (nonneg : 0 ≤ intValue bytes 24)
    (taken : takeBlock bytes = .ok (found bytes, bytes.drop (28 + countAt bytes 24))) :
    Accepts bytes := by
  have count : countAt bytes 24 = (intValue bytes 24).toNat := countAt_eq (by omega)
  have zero : (intValue bytes 24).toNat = 0 ↔ intValue bytes 24 = 0 := by omega
  have size : (found bytes).checksumLength = (intValue bytes 24).toNat := by
    rw [found_checksumLength, ← count]
    exact Nat.min_eq_left (by omega)
  refine ⟨found bytes, toInt_longAt (by omega), toInt_longAt (by omega), toInt_longAt (by omega),
    ?_, fun target logger few => ?_, fun target logger long => ?_⟩
  · simp only [found, count, zero]
  · have loggable : (found bytes).Loggable logger := by
      refine few.imp_right fun short => ?_
      rw [Block.fits_iff_checksumLength]
      omega
    have read (target : Block) := Block.read_of_takeBlock taken target loggable.note_readRecord
    have consumed : bytes.length - (bytes.length - (28 + countAt bytes 24)) =
        28 + (intValue bytes 24).toNat := by omega
    rw [List.length_drop, consumed] at read
    exact ⟨read target, Block.ofBytes_of_read (read default)⟩
  · have word : countAt bytes 24 < 2147483648 := count_lt _
    have unnoted : Logger.note (found bytes).readRecord (some logger) = .error .beyondMemory :=
      (Block.note_of_long (by omega) (by omega) logger).2
    have read (target : Block) := Block.read_of_unnoted taken target unnoted
    refine ⟨read target, ?_⟩
    rw [Block.ofBytes, read]
    rfl

/-! ### Which outcome it is -/

/-- **The outcome for any bytes**: the first of five faults, or the block. -/
theorem read_outcome (bytes : Bytes) :
    if bytes.length < 24 then Rejects bytes false (ascii "Buffer too small for long")
    else if longValue bytes 8 < 0 then
      Rejects bytes true (ascii "Unexpected block size: " ++ Decimal.ofInt (longValue bytes 8))
    else if bytes.length < 28 then Rejects bytes false (ascii "Buffer too small for int")
    else if intValue bytes 24 < 0 then
      Rejects bytes true
        (ascii "Unexpected checksum length: " ++ Decimal.ofInt (intValue bytes 24))
    else if (bytes.length : Int) < 28 + intValue bytes 24 then
      Rejects bytes false (ascii "Buffer too small for checksum")
    else Accepts bytes := by
  have outcome := takeBlock_eq bytes
  by_cases words : bytes.length < 24
  · rw [if_pos words] at outcome ⊢
    exact rejects_of_short "long" rfl outcome
  rw [if_neg words] at outcome ⊢
  have lengthSign : longAt bytes 8 < 0 ↔ longValue bytes 8 < 0 := longAt_neg_iff (by omega)
  by_cases negative : longValue bytes 8 < 0
  · rw [if_pos (lengthSign.mpr negative)] at outcome
    rw [if_pos negative, ← toInt_longAt (by omega)]
    exact rejects_of_error outcome
  rw [if_neg (mt lengthSign.mp negative)] at outcome
  rw [if_neg negative]
  by_cases word : bytes.length < 28
  · rw [if_pos word] at outcome ⊢
    exact rejects_of_short "int" rfl outcome
  rw [if_neg word] at outcome ⊢
  have countSign : intAt bytes 24 < 0 ↔ intValue bytes 24 < 0 := intAt_neg_iff (by omega)
  by_cases corrupt : intValue bytes 24 < 0
  · rw [if_pos (countSign.mpr corrupt)] at outcome
    rw [if_pos corrupt, ← toInt_intAt (by omega)]
    exact rejects_of_error outcome
  rw [if_neg (mt countSign.mp corrupt)] at outcome
  rw [if_neg corrupt]
  have count : countAt bytes 24 = (intValue bytes 24).toNat := countAt_eq (by omega)
  by_cases cut : bytes.length < 28 + countAt bytes 24
  · rw [if_pos cut] at outcome
    rw [if_pos (by omega)]
    exact rejects_of_short "checksum" rfl outcome
  · rw [if_neg cut] at outcome
    rw [if_neg (by omega)]
    exact accepts_of_ok (by omega) (by omega) outcome

/-! ### A checksum that is too long to log -/

/-- Bytes without a fault begin with the description of a block. -/
theorem Accepts.exists_encode {bytes : Bytes} (accepted : Accepts bytes) :
    ∃ (block : Block) (rest : Bytes), block.Canonical ∧ bytes = block.encode ++ rest ∧
      block.checksumLength = (intValue bytes 24).toNat := by
  obtain ⟨_, _, _, _, _, outcome, _⟩ := accepted
  have success := congrArg ReadInto.result (outcome default none (.inl rfl)).1
  obtain ⟨block, rest, canonical, split, count, _⟩ := Block.encode_append_of_read success
  exact ⟨block, rest, canonical, split, (Nat.add_left_cancel count).symm⟩

/-- Bytes that are all the same are the same at every position. -/
theorem stretch_replicate {byte : UInt8} {total position count : Nat}
    (inside : position + count ≤ total) :
    ((List.replicate total byte).drop position).take count = List.replicate count byte := by
  rw [List.drop_replicate, List.take_replicate, Nat.min_eq_left (by omega)]

theorem longValue_replicate {byte : UInt8} {total position : Nat} (inside : position + 8 ≤ total) :
    longValue (List.replicate total byte) position = BigEndian.signed (List.replicate 8 byte) := by
  rw [longValue, stretch_replicate inside]

theorem intValue_replicate {byte : UInt8} {total position : Nat} (inside : position + 4 ≤ total) :
    intValue (List.replicate total byte) position = BigEndian.signed (List.replicate 4 byte) := by
  rw [intValue, stretch_replicate inside]

/-- There are bytes without a fault whose checksum is too long to log. -/
theorem accepts_overlong :
    ∃ bytes : Bytes, bytes = List.replicate 1616928892 96 ∧ bytes.length = 1616928892 ∧
      longValue bytes 0 = 6944656592455360608 ∧ longValue bytes 8 = 6944656592455360608 ∧
      intValue bytes 24 = 1616928864 ∧ Accepts bytes := by
  refine ⟨_, rfl, ?_⟩
  generalize known : List.replicate 1616928892 (96 : UInt8) = bytes
  have size : bytes.length = 1616928892 := known ▸ List.length_replicate
  have number : longValue bytes 0 = 6944656592455360608 :=
    known ▸ (longValue_replicate (by decide)).trans (by decide)
  have length : longValue bytes 8 = 6944656592455360608 :=
    known ▸ (longValue_replicate (by decide)).trans (by decide)
  have count : intValue bytes 24 = 1616928864 :=
    known ▸ (intValue_replicate (by decide)).trans (by decide)
  have outcome := read_outcome bytes
  rw [if_neg (by omega), if_neg (by omega), if_neg (by omega), if_neg (by omega),
    if_neg (by omega)] at outcome
  exact ⟨size, number, length, count, outcome⟩

/-- **A whole description with a checksum that is too long to log.** There is no fault in the bytes;
a reader with a logger fails all the same, and leaves the block changed. -/
theorem overlong_not_logged :
    let bytes : Bytes := List.replicate 1616928892 96
    (28 ≤ bytes.length ∧ 0 ≤ longValue bytes 8 ∧ 0 ≤ intValue bytes 24 ∧
      (bytes.length : Int) = 28 + intValue bytes 24) ∧
      ∀ (target : Block) (logger : Logger),
        (target.read bytes (some logger)).result = .error (.size .beyondMemory) ∧
        (target.read bytes (some logger)).block.id = 6944656592455360608 := by
  obtain ⟨bytes, known, size, number, length, count, block, id, _, _, _, _, logged⟩ :=
    accepts_overlong
  rw [← known]
  dsimp only
  have changed : block.id = 6944656592455360608 := by
    rw [← Int64.toInt_inj, id, number]
    rfl
  refine ⟨by omega, fun target logger => ?_⟩
  rw [(logged target logger (by omega)).1]
  exact ⟨rfl, changed⟩

end StorageBlock.Wire
