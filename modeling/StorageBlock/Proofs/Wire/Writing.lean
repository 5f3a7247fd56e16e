/-
**What writing a description does to a buffer.**

A description is written item by item, each item behind the one before. `Sink.filled` is a window
whose first bytes have been written, and `Writing.Appends` says of a step that it puts its bytes
behind them as long as the window holds both. The steps of a description compose
(`Writing.Appends.andThen`), so that the outcome is decided by the first question for space alone:

* `Block.write_of_fits`, `Block.write_of_unnoted`: with enough space, the window begins with the
  bytes of the description and every other byte of the buffer stays, whether the record for the log
  can be made or not;
* `Block.write_of_short`: without, nothing is written.
-/

import StorageBlock.Wire.Writer

namespace StorageBlock

/-! ### A window that has been filled in part -/

theorem Window.start_le (window : Window) : window.start ≤ window.buffer.length :=
  Nat.le_trans (Nat.le_add_right window.start window.limit) window.inside

namespace Sink

/-- A window whose first bytes have been written. -/
def filled (window : Window) (data : Bytes) : Sink :=
  ⟨Bytes.overwrite window.buffer window.start data, window.start, window.limit, data.length⟩

theorem filled_nil (window : Window) : filled window [] = ofWindow window := by
  rw [filled, Bytes.overwrite_nil, List.length_nil, ofWindow]

theorem put_filled (window : Window) (before data : Bytes) :
    (filled window before).put data = filled window (before ++ data) := by
  simp only [put, filled, Bytes.overwrite_overwrite window.start_le, List.length_append]

end Sink

/-! ### Steps that append -/

namespace Writing

/-- A step that puts bytes behind those written before, as long as the window holds both. -/
def Appends (step : Writing) (data : Bytes) : Prop :=
  ∀ (window : Window) (before : Bytes), before.length + data.length ≤ window.limit →
    step (Sink.filled window before) = .ok () (Sink.filled window (before ++ data))

theorem Appends.andThen {first second : Writing} {front back : Bytes}
    (one : first.Appends front) (two : second.Appends back) :
    Appends (first >>= fun _ => second) (front ++ back) := by
  intro window before fits
  rw [List.length_append] at fits
  have run := one window before (by omega)
  have continued := two window (before ++ front) (by rw [List.length_append]; omega)
  show EStateM.bind first (fun _ => second) (Sink.filled window before) = _
  rw [EStateM.bind, run]
  simp only [continued, List.append_assoc]

theorem appends_bytes (data : Bytes) : (bytes data).Appends data := by
  intro window before _
  rw [bytes, Sink.put_filled]

/-- A word asks for exactly the space that it takes. -/
theorem appends_required (item : WireItem) {width : Nat} {data : Bytes}
    (exactly : data.length = width) :
    Appends (require item width >>= fun _ => bytes data) data := by
  intro window before fits
  have space : (Sink.filled window before).position + width ≤
      (Sink.filled window before).limit := by
    show before.length + width ≤ window.limit
    omega
  show EStateM.bind (require item width) (fun _ => bytes data) (Sink.filled window before) = _
  rw [EStateM.bind, require, if_pos space]
  exact appends_bytes data window before fits

theorem appends_long (word : Int64) : (long word).Appends (BigEndian.ofInt64 word) :=
  appends_required .long (BigEndian.encode_length _ _)

theorem appends_int (word : Int32) : (int word).Appends (BigEndian.ofInt32 word) :=
  appends_required .int (BigEndian.encode_length _ _)

/-- The checksum of a description, with its length in front. -/
theorem appends_checksum (checksum : Option Bytes) :
    Appends (match checksum with
      | none => int 0
      | some checksum => do
        int (Int32.ofNat checksum.length)
        bytes checksum)
      (BigEndian.ofInt32 (Int32.ofNat (checksum.getD []).length) ++ checksum.getD []) := by
  cases checksum with
  | none =>
    rw [Option.getD_none, List.append_nil]
    exact appends_int 0
  | some checksum => exact (appends_int _).andThen (appends_bytes checksum)

/-! ### Whole descriptions -/

/-- Once there is space, asking for it changes nothing. -/
theorem require_then {item : WireItem} {length : Nat} {window : Window}
    (space : length ≤ window.limit) (rest : Writing) :
    (require item length >>= fun _ => rest).run (Sink.ofWindow window) =
      rest.run (Sink.ofWindow window) := by
  have enough : (Sink.ofWindow window).position + length ≤ (Sink.ofWindow window).limit := by
    show 0 + length ≤ window.limit
    omega
  show EStateM.bind (require item length) (fun _ => rest) (Sink.ofWindow window) = _
  rw [EStateM.bind, require, if_pos enough]
  rfl

/-- Without space, nothing is written. -/
theorem require_of_short {item : WireItem} {length : Nat} {window : Window}
    (short : window.limit < length) (rest : Writing) :
    (require item length >>= fun _ => rest).run (Sink.ofWindow window) =
      .error (.tooSmall item) (Sink.ofWindow window) := by
  have missing : ¬(Sink.ofWindow window).position + length ≤ (Sink.ofWindow window).limit := by
    show ¬0 + length ≤ window.limit
    omega
  show EStateM.bind (require item length) (fun _ => rest) (Sink.ofWindow window) = _
  rw [EStateM.bind, require, if_neg missing]

/-- Once there is space for the whole description, no later item fails. -/
theorem block_of_fits {block : Block} {window : Window} (fits : block.wireLength ≤ window.limit) :
    (Writing.block block).run (Sink.ofWindow window) =
      .ok () (Sink.filled window block.encode) := by
  have items := (appends_long block.id).andThen ((appends_long block.length).andThen
    ((appends_long block.generation).andThen (appends_checksum block.checksum)))
  have width := block.encode_length
  have written := items window [] (by
    rw [List.length_nil, Nat.zero_add]
    refine Nat.le_trans (Nat.le_of_eq ?_) fits
    rw [← width, Block.encode]
    simp only [List.append_assoc, Block.checksumLength])
  refine (require_then fits _).trans ?_
  rw [← Sink.filled_nil]
  refine written.trans ?_
  rw [List.nil_append, Block.encode]
  simp only [List.append_assoc, Block.checksumLength]

theorem block_of_short {block : Block} {window : Window} (short : window.limit < block.wireLength) :
    (Writing.block block).run (Sink.ofWindow window) =
      .error (.tooSmall .block) (Sink.ofWindow window) :=
  require_of_short short _

end Writing

namespace Block

variable {block : Block} {window : Window}

/-- **With enough space a description is written whole**, and nothing outside it changes. -/
theorem write_of_fits (fits : block.wireLength ≤ window.limit) {before after : Option Logger}
    (noted : Logger.note block.writeRecord before = .ok after) :
    block.write window before =
      ⟨.ok block.wireLength, Bytes.overwrite window.buffer window.start block.encode, after⟩ := by
  rw [write, Writing.perform, Writing.block_of_fits fits, noted]
  simp only [Sink.filled, encode_length]

/-- **The buffer has changed also if the record cannot be made.** -/
theorem write_of_unnoted (fits : block.wireLength ≤ window.limit) {logger : Option Logger}
    {error : SizeError} (unnoted : Logger.note block.writeRecord logger = .error error) :
    block.write window logger =
      ⟨.error (.size error), Bytes.overwrite window.buffer window.start block.encode,
        logger⟩ := by
  rw [write, Writing.perform, Writing.block_of_fits fits, unnoted]
  rfl

/-- **The buffer does not depend on the logger.** -/
theorem buffer_of_fits (fits : block.wireLength ≤ window.limit) (logger : Option Logger) :
    (block.write window logger).buffer =
      Bytes.overwrite window.buffer window.start block.encode := by
  cases noted : Logger.note block.writeRecord logger with
  | error error => rw [write_of_unnoted fits noted]
  | ok after => rw [write_of_fits fits noted]

/-- **Without enough space nothing is written.** -/
theorem write_of_short (short : window.limit < block.wireLength) (logger : Option Logger) :
    block.write window logger = ⟨.error (.cause (.tooSmall .block)), window.buffer, logger⟩ := by
  rw [write, Writing.perform, Writing.block_of_short short]
  rfl

end Block

end StorageBlock
