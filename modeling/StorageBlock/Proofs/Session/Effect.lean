/-
**What one command does.**

A command prints, and changes one file at most. What it prints is an answer or a complaint, and in
front of it a line of the log where the log is on. All that a command can do to the files is said
once here:

* `Session.described`: the block that a `write` describes, with the checksum that its data file has
  before anything is written;
* `Session.reply`: the answer to a command (`Session.step_of_print`, `Session.step_of_fault`,
  `Session.step_of_unhandled`: what becomes of it), and `Session.step_write`: the whole effect of a
  `write`;
* `Session.Answers`: all that a command other than `write` may answer;
* `Session.Overlong`: a `read` of a description with a text that is too long
  (`Session.step_aborted_iff`: nothing else aborts the program);
* `Session.StoresAt`: a `write` that succeeds, and where its description goes;
* `Session.step_files`: a command stores a description in this way or leaves all files as they are.
-/

import StorageBlock.Proofs.Block.Printable
import StorageBlock.Proofs.Block.Text
import StorageBlock.Proofs.FileTree.Writing
import StorageBlock.Proofs.Wire.RoundTrip
import StorageBlock.Session.Run

namespace StorageBlock

theorem Checksum.digest?_length {found : Found} {digest : Bytes}
    (computed : digest? found = some digest) : digest.length = 32 := by
  cases found with
  | missing => cases computed
  | directory =>
    rw [digest?_directory] at computed
    cases computed
  | content bytes =>
    rw [digest?_content] at computed
    rw [← Option.some.inj computed, Sha256.hash_length]
    rfl

/-- The text of a digest always fits. -/
theorem Checksum.fits_digest? {found : Found} {digest : Bytes}
    (computed : digest? found = some digest) : Fits digest := by
  rw [fits_iff_length, digest?_length computed]
  decide

namespace Session

variable {setting : Setting} {state : State} {command : Command}

/-- The state behind a command that leaves the files as they are. -/
def State.behind (state : State) (command : Command) : State :=
  ⟨state.files, command.tracing state.tracing, state.performed + 1⟩

/-! ### What a `write` describes -/

/-- The block that a `write` describes: its checksum is that of the data file. -/
def described (directory : Bytes) (files : FileTree) (id length generation : Int64)
    (data : Bytes) : Block :=
  ⟨id, length, generation, Checksum.digest? (files.read (Path.below directory data))⟩

theorem described_checksumLength (directory : Bytes) (files : FileTree)
    (id length generation : Int64) (data : Bytes) :
    (described directory files id length generation data).checksumLength =
      if (described directory files id length generation data).checksum.isSome then 32 else 0 := by
  rw [Block.checksumLength]
  cases computed : (described directory files id length generation data).checksum with
  | none => rfl
  | some digest => exact Checksum.digest?_length computed

theorem described_encode_length (directory : Bytes) (files : FileTree)
    (id length generation : Int64) (data : Bytes) :
    (described directory files id length generation data).encode.length =
      if (described directory files id length generation data).checksum.isSome then 60 else 28 := by
  rw [Block.encode_length, Block.wireLength, described_checksumLength]
  split <;> rfl

theorem described_fits (directory : Bytes) (files : FileTree) (id length generation : Int64)
    (data : Bytes) : (described directory files id length generation data).Fits :=
  fun _ computed => Checksum.fits_digest? computed

/-! ### Lines of the log -/

/-- The time at which a command would write a line of the log, where the log is on. -/
def moment? (setting : Setting) (state : State) : Option Int64 :=
  if state.tracing then some (setting.clock state.performed) else none

/-- The logger of a command that is performed at a time, if the log is on. -/
def traceLogger (moment : Option Int64) : Option Logger :=
  moment.map fun time => .new traceTag fun _ => time

theorem logger?_eq (setting : Setting) (state : State) :
    logger? setting state = traceLogger (moment? setting state) := by
  unfold logger? moment?
  split
  · rfl
  · rfl

/-- The line that the log writes for a record, where it is on. -/
def logged (moment : Option Int64) (record : Bytes) : Bytes :=
  match moment with
  | some time => (Logger.new traceTag fun _ => time).line record
  | none => []

theorem written_log (moment : Option Int64) (record : Bytes) :
    (((traceLogger moment).map fun logger => logger.log record).map Logger.written).getD [] =
      logged moment record := by
  cases moment <;> rfl

theorem written_traceLogger (moment : Option Int64) :
    ((traceLogger moment).map Logger.written).getD [] = [] := by
  cases moment <;> rfl

/-! ### Errors of the binary format -/

/-- What is complained of about an error of the binary format. -/
def complaint (error : WireError) : Bytes :=
  sender ++ ((if error.isCorrupt then ascii "Corrupt block: " else []) ++ error.message)

/-- **Every error of the binary format is handled**, and printed in full. -/
theorem handled_of_error (error : WireError) :
    (Fault.ofFailure (.cause error)).handled? = some (.complaint (complaint error)) := by
  have full : error.message.untilZero = error.message := error.printable_message.untilZero
  rw [Fault.ofFailure, complaint]
  cases error.isCorrupt with
  | false =>
    show some (Output.complaint (sender ++ error.message.untilZero)) = _
    rw [full]
    rfl
  | true =>
    show some (Output.complaint (sender ++ ascii "Corrupt block: " ++ error.message.untilZero)) = _
    rw [full, List.append_assoc]
    rfl

/-! ### Replies -/

/-- **Describing a block never fails** if its text fits: the space that is asked for is the space
that is there. -/
theorem reply_write (moment : Option Int64) {block : Block} (fits : block.Fits) (path : Bytes) :
    Reply.write block (traceLogger moment) path =
      ⟨.answer (logged moment block.writeText), .ok (some ⟨path, block.encode⟩)⟩ := by
  have space : block.wireLength ≤ (Window.whole (List.replicate block.wireLength 0)).limit :=
    Nat.le_of_eq List.length_replicate.symm
  have taken := block.written_bytes (.whole (List.replicate block.wireLength 0))
  have loggable : block.Loggable (traceLogger moment) := .inr fits
  rw [Reply.write, Block.write_of_fits space loggable.note_writeRecord]
  show Reply.mk (.answer _) (.ok (some ⟨path, List.take block.wireLength _⟩)) = _
  rw [written_log]
  exact congrArg (fun content => Reply.mk _ (.ok (some ⟨path, content⟩))) taken

section Read

variable {bytes rest : Bytes} {block : Block}

theorem reply_read_of_ok (moment : Option Int64)
    (taken : Wire.takeBlock bytes = .ok (block, rest)) (fits : block.Fits) (path : Bytes) :
    Reply.read (.content bytes) (traceLogger moment) path =
      .print (.answer (logged moment block.readText) ++
        .answer (withLength (block.version ++ Block.fullEnding block.checksum) block)) := by
  have loggable : block.Loggable (traceLogger moment) := .inr fits
  have read := Block.read_of_takeBlock taken default loggable.note_readRecord
  rw [Reply.read, Block.ofBytes_of_read read]
  dsimp only
  rw [written_log, Block.fullText_of_fits fits]
  rfl

theorem reply_read_of_error (moment : Option Int64) {error : WireError}
    (failed : Wire.takeBlock bytes = .error error) (path : Bytes) :
    Reply.read (.content bytes) (traceLogger moment) path =
      .raise .none (.ofFailure (.cause error)) := by
  rw [Reply.read, Block.ofBytes, Block.read, failed]
  show Reply.raise (.answer (((traceLogger moment).map Logger.written).getD [])) _ = _
  rw [written_traceLogger]
  rfl

/-- **A checksum that is too long raises a fault of its size**, with a log and without: it is the
record that cannot be made, or the answer. -/
theorem reply_read_of_long (moment : Option Int64)
    (taken : Wire.takeBlock bytes = .ok (block, rest))
    (long : 1610612734 ≤ block.checksumLength) (short : block.checksumLength < 2 ^ 31)
    (path : Bytes) :
    Reply.read (.content bytes) (traceLogger moment) path =
      .raise .none (.size .beyondMemory) := by
  cases moment with
  | none =>
    have loggable : block.Loggable none := .inl rfl
    have read := Block.read_of_takeBlock taken default loggable.note_readRecord
    rw [Reply.read, traceLogger, Option.map_none, Block.ofBytes_of_read read]
    dsimp only
    rw [Block.fullText, Block.checksumText_of_long long short]
    rfl
  | some time =>
    have unnoted := (Block.note_of_long long short (.new traceTag fun _ => time)).2
    rw [Reply.read, traceLogger, Option.map_some, Block.ofBytes,
      Block.read_of_unnoted taken default unnoted]
    rfl

/-- **A description without a fault** is printed, or its text is too long. -/
theorem reply_read_of_block (taken : Wire.takeBlock bytes = .ok (block, rest)) (path : Bytes) :
    (∀ moment, Reply.read (.content bytes) (traceLogger moment) path =
      .print (.answer (logged moment block.readText) ++
        .answer (withLength (block.version ++ Block.fullEnding block.checksum) block))) ∨
    1610612734 ≤ block.checksumLength ∧
      ∀ moment, Reply.read (.content bytes) (traceLogger moment) path =
        .raise .none (.size .beyondMemory) := by
  have short := (Wire.takeBlock_eq_ok.mp taken).2.checksum_short
  by_cases fits : block.Fits
  · exact .inl fun moment => reply_read_of_ok moment taken fits path
  · have long := Nat.le_of_not_lt (mt Block.fits_iff_checksumLength.mpr fits)
    exact .inr ⟨long, fun moment => reply_read_of_long moment taken long short path⟩

end Read

/-! ### The effect of a command -/

/-- The answer to a command in a state. -/
def reply (setting : Setting) (state : State) (command : Command) : Reply :=
  command.respond setting.directory (logger? setting state) (finds setting state.files command)

theorem step_eq (setting : Setting) (state : State) (command : Command) :
    step setting state command =
      match carryOut state.files (reply setting state command) with
      | (output, .ok files) =>
        ⟨output, ⟨files, command.tracing state.tracing, state.performed + 1⟩, false⟩
      | (output, .error fault) =>
        match fault.handled? with
        | some complaint => ⟨output ++ complaint, state.behind command, false⟩
        | none => ⟨output, state.behind command, true⟩ := rfl

/-- A command that only prints leaves the files. -/
theorem step_of_print {output : Output} (prints : reply setting state command = .print output) :
    step setting state command = ⟨output, state.behind command, false⟩ := by
  rw [step_eq, prints]
  rfl

section Fault

variable {output : Output} {fault : Fault}

/-- A fault that is handled brings a complaint, and the session goes on. -/
theorem step_of_fault {complaint : Output}
    (raises : reply setting state command = .raise output fault)
    (handled : fault.handled? = some complaint) :
    step setting state command = ⟨output ++ complaint, state.behind command, false⟩ := by
  simp only [step_eq, raises, Reply.raise, carryOut, handled]

/-- A fault that is not handled aborts the program. -/
theorem step_of_unhandled (raises : reply setting state command = .raise output fault)
    (unhandled : fault.handled? = none) :
    step setting state command = ⟨output, state.behind command, true⟩ := by
  simp only [step_eq, raises, Reply.raise, carryOut, unhandled]

end Fault

/-- The complaint about an output path that cannot be opened. -/
def closedComplaint (path : Bytes) : Output :=
  .complaint (sender ++ (ascii "Cannot open " ++ path ++ ascii " for writing").untilZero)

/-- **The effect of a `write`**: its description is stored if the output path can be opened. -/
theorem step_write (setting : Setting) (state : State) (id length generation : Int64)
    (data out : Bytes) :
    step setting state (.write id length generation data out) =
      let block := described setting.directory state.files id length generation data
      let store : Store := ⟨Path.below setting.directory out, block.encode⟩
      let trace := Output.answer (logged (moment? setting state) block.writeText)
      match state.files.write? store.path store.content with
      | some files =>
        ⟨trace ++ store.done, ⟨files, state.tracing, state.performed + 1⟩, false⟩
      | none =>
        ⟨trace ++ closedComplaint store.path, ⟨state.files, state.tracing, state.performed + 1⟩,
          false⟩ := by
  have replies : reply setting state (.write id length generation data out) =
      .write (described setting.directory state.files id length generation data)
        (logger? setting state) (Path.below setting.directory out) := rfl
  rw [step_eq, replies, logger?_eq, reply_write _ (described_fits _ _ _ _ _ _)]
  dsimp only [carryOut]
  cases state.files.write? (Path.below setting.directory out)
      (described setting.directory state.files id length generation data).encode with
  | some files => rfl
  | none => rfl

/-! ### Commands that only print -/

/-- The command reads a description whose checksum has a text that is too long. -/
inductive Overlong (directory : Bytes) (files : FileTree) : Command → Prop where
  | read {file rest : Bytes} {block : Block}
    (found : files.read (Path.below directory file) = .content (block.encode ++ rest))
    (canonical : block.Canonical) (long : 1610612734 ≤ block.checksumLength) :
    Overlong directory files (.read file)

/-- What a command that is no `write` may answer: it prints, or it raises a fault. -/
inductive Answers (directory : Bytes) (files : FileTree) (command : Command) : Reply → Prop where
  | prints (output : Output) : Answers directory files command (.print output)
  | faults {fault : Fault} {complaint : Bytes}
    (handled : fault.handled? = some (.complaint complaint)) :
    Answers directory files command (.raise .none fault)
  | aborts (overlong : Overlong directory files command) :
    Answers directory files command (.raise .none (.size .beyondMemory))

theorem reply_checksum (setting : Setting) (state : State) (file : Bytes) :
    reply setting state (.checksum file) =
      .print (.answer (Checksum.wording (Checksum.digest?
        (state.files.read (Path.below setting.directory file))) ++ ascii "\n")) := by
  unfold reply Command.respond
  rw [Checksum.text_of_fits fun _ computed => Checksum.fits_digest? computed]
  rfl

theorem reply_describe (setting : Setting) (state : State) (file : Bytes)
    (length generation : Int64) :
    reply setting state (.describe file length generation) =
      let path := Path.below setting.directory file
      let block := Block.ofFile path (state.files.read path) length generation
      .print (.answer (withLength (block.version ++ Block.ending block.checksum) block)) := by
  unfold reply Command.respond
  dsimp only
  rw [Block.text_of_fits fun _ computed => Checksum.fits_digest? computed]
  rfl

theorem reply_eq_read (setting : Setting) (state : State) (file : Bytes) :
    reply setting state (.read file) =
      .read (state.files.read (Path.below setting.directory file))
        (traceLogger (moment? setting state)) (Path.below setting.directory file) := by
  rw [reply, logger?_eq]
  rfl

theorem answers_read (setting : Setting) (state : State) (file : Bytes) :
    Answers setting.directory state.files (.read file) (reply setting state (.read file)) := by
  rw [reply_eq_read]
  cases found : state.files.read (Path.below setting.directory file) with
  | missing => exact .faults rfl
  | directory => exact .faults rfl
  | content bytes =>
    cases taken : Wire.takeBlock bytes with
    | error error =>
      rw [reply_read_of_error _ taken]
      exact .faults (handled_of_error error)
    | ok pair =>
      obtain ⟨block, rest⟩ := pair
      rcases reply_read_of_block taken (Path.below setting.directory file) with
        printed | ⟨long, aborted⟩
      · rw [printed]
        exact .prints _
      · obtain ⟨rfl, canonical⟩ := Wire.takeBlock_eq_ok.mp taken
        rw [aborted]
        exact .aborts (.read found canonical long)

/-- **All that a command other than `write` may answer.** -/
theorem answers_of_not_write (setting : Setting) (state : State)
    (other : ∀ id length generation data out, command ≠ .write id length generation data out) :
    Answers setting.directory state.files command (reply setting state command) := by
  cases command with
  | write id length generation data out => exact absurd rfl (other id length generation data out)
  | read file => exact answers_read setting state file
  | checksum file =>
    rw [reply_checksum]
    exact .prints _
  | describe file length generation =>
    rw [reply_describe]
    exact .prints _
  | _ => exact .prints _

/-- So it leaves the files as they are, and aborts the program in one case only. -/
theorem step_of_not_write (setting : Setting) (state : State)
    (other : ∀ id length generation data out, command ≠ .write id length generation data out) :
    (step setting state command).state = state.behind command ∧
      ((step setting state command).aborted = true →
        Overlong setting.directory state.files command) := by
  have answers := answers_of_not_write setting state other
  generalize replies : reply setting state command = answer at answers
  cases answers with
  | prints output =>
    rw [step_of_print replies]
    exact ⟨rfl, fun aborted => nomatch aborted⟩
  | faults handled =>
    rw [step_of_fault replies handled]
    exact ⟨rfl, fun aborted => nomatch aborted⟩
  | aborts overlong =>
    rw [step_of_unhandled replies rfl]
    exact ⟨rfl, fun _ => overlong⟩

theorem Overlong.step_eq (overlong : Overlong setting.directory state.files command) :
    step setting state command = ⟨.none, state.behind command, true⟩ := by
  cases overlong with
  | @read file rest block found canonical long =>
    have taken : Wire.takeBlock (block.encode ++ rest) = .ok (block, rest) :=
      Wire.takeBlock_eq_ok.mpr ⟨rfl, canonical⟩
    have raises : reply setting state (.read file) = .raise .none (.size .beyondMemory) := by
      rw [reply_eq_read, found]
      exact reply_read_of_long _ taken long canonical.checksum_short _
    exact step_of_unhandled raises rfl

/-- **The program is aborted by a description with a text that is too long, and by nothing
else.** -/
theorem step_aborted_iff :
    (step setting state command).aborted = true ↔
      Overlong setting.directory state.files command := by
  refine ⟨fun aborted => ?_, fun overlong => by rw [overlong.step_eq]⟩
  by_cases isWrite : ∃ id length generation data out,
      command = .write id length generation data out
  · obtain ⟨id, length, generation, data, out, rfl⟩ := isWrite
    rw [step_write] at aborted
    dsimp only at aborted
    split at aborted
    · cases aborted
    · cases aborted
  · exact (step_of_not_write setting state fun id length generation data out same =>
      isWrite ⟨id, length, generation, data, out, same⟩).2 aborted

/-! ### Storing a description -/

/-- The command is a `write` that succeeds, which is to say that it brings no complaint; its output
path leads to the location, and it describes the block. -/
inductive StoresAt (setting : Setting) (state : State) (location : Location) :
    Command → Block → Prop where
  | write {id length generation : Int64} {data out : Bytes}
    (leads : state.files.locate? (Path.below setting.directory out) = some location)
    (succeeds :
      (step setting state (.write id length generation data out)).output.complaints = []) :
    StoresAt setting state location (.write id length generation data out)
      (described setting.directory state.files id length generation data)

/-- A `write` that cannot open its output path complains. -/
theorem closed_complains (path : Bytes) (trace : Output) :
    (trace ++ closedComplaint path).complaints ≠ [] := by
  show trace.complaints ++ (_ ++ ascii "\n") ≠ []
  simp [ascii]

/-- **What a `write` that succeeds does**: the description stands at its location, where there was
no directory, and its length is reported. -/
theorem StoresAt.step_eq {location : Location} {block : Block}
    (stores : StoresAt setting state location command block) :
    state.files.isDirectory location = false ∧ ∃ out,
      step setting state command =
        ⟨.answer (logged (moment? setting state) block.writeText) ++
            Store.done ⟨Path.below setting.directory out, block.encode⟩,
          ⟨state.files.put location (.file block.encode), state.tracing, state.performed + 1⟩,
          false⟩ := by
  cases stores with
  | @write id length generation data out leads succeeds =>
    rw [step_write] at succeeds ⊢
    dsimp only at succeeds ⊢
    split at succeeds
    next files written =>
      obtain ⟨reached, led, free, rfl⟩ := FileTree.write?_eq_some.mp written
      rw [leads] at led
      obtain rfl := Option.some.inj led
      exact ⟨free, out, rfl⟩
    next => exact absurd succeeds (closed_complains _ _)

/-- A `write` succeeds where its output path can be opened. -/
theorem storesAt_of_write (id length generation : Int64) (data : Bytes) {out : Bytes}
    {location : Location}
    (leads : state.files.locate? (Path.below setting.directory out) = some location)
    (free : state.files.isDirectory location = false) :
    StoresAt setting state location (.write id length generation data out)
      (described setting.directory state.files id length generation data) := by
  refine .write leads ?_
  rw [step_write]
  dsimp only
  rw [FileTree.write?_eq_some.mpr ⟨location, leads, free, rfl⟩]
  rfl

/-- **A command stores a description or leaves all files as they are.** -/
theorem step_files (setting : Setting) (state : State) (command : Command) :
    (∃ location block, StoresAt setting state location command block ∧
      (step setting state command).state.files =
        state.files.put location (.file block.encode)) ∨
    (∀ location block, ¬StoresAt setting state location command block) ∧
      (step setting state command).state.files = state.files := by
  by_cases isWrite : ∃ id length generation data out,
      command = .write id length generation data out
  · obtain ⟨id, length, generation, data, out, rfl⟩ := isWrite
    have effect := step_write setting state id length generation data out
    dsimp only at effect
    split at effect
    next files written =>
      obtain ⟨location, leads, free, rfl⟩ := FileTree.write?_eq_some.mp written
      have stores := storesAt_of_write id length generation data leads free
      exact .inl ⟨location, _, stores, by rw [effect]⟩
    next =>
      refine .inr ⟨fun location block stores => ?_, by rw [effect]⟩
      cases stores with
      | write _ succeeds =>
        rw [effect] at succeeds
        exact closed_complains _ _ succeeds
  · have other : ∀ id length generation data out,
        command ≠ .write id length generation data out :=
      fun id length generation data out same => isWrite ⟨id, length, generation, data, out, same⟩
    refine .inr ⟨fun location block stores => ?_, ?_⟩
    · cases stores with
      | write => exact other _ _ _ _ _ rfl
    · rw [(step_of_not_write setting state other).1]
      rfl

/-- **A command that complains leaves all files as they are.** -/
theorem step_files_of_complaint
    (complains : (step setting state command).output.complaints ≠ []) :
    (step setting state command).state.files = state.files := by
  rcases step_files setting state command with ⟨location, block, stores, _⟩ | ⟨_, kept⟩
  · cases stores with
    | write _ succeeds => exact absurd succeeds complains
  · exact kept

end Session

end StorageBlock
