/-
**How a session goes on, and how it ends.**

A session reads commands one after another, up to a `quit` or up to the end of the input. Every
command takes a word, so that there are not more commands than bytes that are no blanks. An error of
a command is reported, and the session goes on behind the command as if nothing had been asked. Only
a description with a text that is too long aborts the program.

* `length_script_le`: how many commands there are;
* `script_ends`: what the last of them is;
* `GoesOn`: a session that goes on from a state on the rest of its input (`goesOn_of_reads`: so it
  does behind any commands that it has read);
* `Raises`: the errors of the commands (`reports_of_raises`: each is reported and changes nothing;
  `raises_of_complaint`: all other complaints are about what was typed);
* `start_ends`: the whole program;
* `overlong_aborts`: a session that does not come to its end.
-/

import StorageBlock.Proofs.Session.Effect
import StorageBlock.Proofs.Session.History
import StorageBlock.Proofs.Session.Words
import StorageBlock.Proofs.Wire.Outcome

namespace StorageBlock.Session

open Command

variable {setting : Setting} {state : State} {command : Command} {input text rest : Bytes}

/-! ### How many commands there are -/

/-- The number of bytes that are no blanks. -/
def solidBytes (input : Bytes) : Nat := input.countP fun byte => !isBlank byte

theorem solidBytes_le_of_suffix (within : rest <:+ input) : solidBytes rest ≤ solidBytes input :=
  within.sublist.countP_le

/-- **Every command takes a byte that is no blank**, the first one of its word. -/
theorem solidBytes_next? (found : next? input = some (command, rest)) :
    solidBytes rest < solidBytes input := by
  rw [next?] at found
  split at found
  next => cases found
  next name behind first =>
    obtain ⟨gap, _, word, _, rfl⟩ := word?_eq_some.mp first
    have within : rest <:+ behind := by
      have suffix := (nearsighted_ofWord name).suffix behind
      have left : stop (takes (ofWord name) behind) = rest :=
        congrArg Prod.snd (Option.some.inj found)
      rwa [left] at suffix
    obtain ⟨letter, others, rfl⟩ := List.exists_cons_of_ne_nil word.ne_nil
    have solid : isBlank letter = false := word.solid letter List.mem_cons_self
    have bound := solidBytes_le_of_suffix within
    simp only [solidBytes, List.countP_append, List.countP_cons, solid] at bound ⊢
    simp only [Bool.not_false, if_true]
    omega

theorem length_script_le (input : Bytes) : (script input).length ≤ solidBytes input := by
  fun_induction script input with
  | case1 => exact Nat.zero_le _
  | case2 input rest found => exact Nat.lt_of_le_of_lt (Nat.zero_le _) (solidBytes_next? found)
  | case3 input command rest _ found hypothesis =>
    exact Nat.lt_of_le_of_lt hypothesis (solidBytes_next? found)

/-! ### What the last command is -/

/-- **Commands are read until the input is used up or one of them is `quit`.** -/
theorem script_ends (input : Bytes) :
    (∃ rest, Reads input (script input) rest ∧ IsGap rest) ∨
      ∃ before text rest, Reads input before text ∧ next? text = some (quit, rest) ∧
        script input = before ++ [quit] := by
  fun_induction script input with
  | case1 input nothing => exact .inl ⟨input, .nil input, next?_eq_none.mp nothing⟩
  | case2 input rest found => exact .inr ⟨[], input, rest, .nil input, found, rfl⟩
  | case3 input command middle goes found hypothesis =>
    rcases hypothesis with ⟨rest, further, blank⟩ | ⟨before, text, rest, further, ends, same⟩
    · exact .inl ⟨rest, .cons found goes further, blank⟩
    · exact .inr ⟨command :: before, text, rest, .cons found goes further, ends,
        congrArg (command :: ·) same⟩

/-! ### A session that goes on -/

/-- A session has printed this so far, and goes on as a session from a state on the rest of its
input: it prints the same behind its greeting, leaves the same, and ends in the same way. -/
structure GoesOn (setting : Setting) (state : State) (input : Bytes) (printed : Output)
    (met : State) (rest : Bytes) : Prop where
  output : ∃ later,
    (conduct setting met rest).output = .answer (greeting setting.directory) ++ later ∧
    (conduct setting state input).output =
      .answer (greeting setting.directory) ++ printed ++ later
  files : (conduct setting state input).files = (conduct setting met rest).files
  exitCode : (conduct setting state input).exitCode = (conduct setting met rest).exitCode
  leaves : leaves setting state input = Session.leaves setting met rest

/-- **A session goes on behind the commands that it has read**, in the state that they have left,
if they have not aborted the program. -/
theorem goesOn_of_reads {before : List Command} (earlier : Reads input before text)
    (survives : Survives setting state before) :
    GoesOn setting state input (.join (run setting state before).outputs)
      (run setting state before).state text := by
  have parts := survives.run_append (script text)
  rw [← script_of_reads earlier] at parts
  refine ⟨⟨.join (run setting (run setting state before).state (script text)).outputs, rfl, ?_⟩,
    ?_, ?_, ?_⟩
  · simp only [conduct, parts, Output.join_append, Output.append_assoc]
  · simp only [conduct, parts]
  · simp only [conduct, parts]
  · simp only [leaves, parts]

/-- So it does behind one command more. -/
theorem goesOn_of_next? {before : List Command} (earlier : Reads input before text)
    (survives : Survives setting state before) (found : next? text = some (command, rest))
    (further : command ≠ quit)
    (goes : (step setting (run setting state before).state command).aborted = false) :
    let met := (run setting state before).state
    GoesOn setting state input
      (.join (run setting state before).outputs ++ (step setting met command).output)
      (step setting met command).state rest := by
  intro met
  have one : run setting met [command] =
      ⟨[(step setting met command).output], (step setting met command).state, false⟩ :=
    run_cons_of_goes goes []
  have reached : Survives setting state (before ++ [command]) :=
    survives_append.mpr ⟨survives, congrArg Run.aborted one⟩
  have on := goesOn_of_reads (earlier.snoc found further) reached
  rw [survives.run_append, one, Output.join_append, Output.join_singleton] at on
  exact on

/-! ### Errors -/

/-- A command raises an error with this message, in view of the files that there are. -/
inductive Raises (directory : Bytes) (files : FileTree) : Command → Bytes → Prop where
  /-- The file to read cannot be opened. -/
  | missing {file : Bytes} (nothing : files.read (Path.below directory file) = .missing) :
    Raises directory files (.read file) (ascii "Cannot open " ++ Path.below directory file)
  /-- The file to read is a directory. -/
  | directory {file : Bytes}
    (found : files.read (Path.below directory file) = .directory) :
    Raises directory files (.read file)
      (ascii "basic_filebuf::underflow error reading the file: Is a directory")
  /-- The description is cut short. -/
  | truncated {file bytes message : Bytes}
    (found : files.read (Path.below directory file) = .content bytes)
    (rejected : Wire.Rejects bytes false message) : Raises directory files (.read file) message
  /-- The description is of a block that cannot exist. -/
  | corrupt {file bytes message : Bytes}
    (found : files.read (Path.below directory file) = .content bytes)
    (rejected : Wire.Rejects bytes true message) :
    Raises directory files (.read file) (ascii "Corrupt block: " ++ message)
  /-- The file to write cannot be opened: its path leads nowhere, or to a directory. -/
  | closed {id length generation : Int64} {data out : Bytes}
    (blocked : ∀ location, files.locate? (Path.below directory out) = some location →
      files.isDirectory location = true) :
    Raises directory files (.write id length generation data out)
      (ascii "Cannot open " ++ Path.below directory out ++ ascii " for writing")

/-- The line that reports an error; it ends at the first zero byte of the message. -/
def report (message : Bytes) : Bytes := sender ++ message.untilZero ++ ascii "\n"

/-- The command complains with this line, changes nothing, and the session goes on. -/
def Reports (setting : Setting) (state : State) (command : Command) (line : Bytes) : Prop :=
  (step setting state command).output.complaints = line ∧
    (step setting state command).state = state.behind command ∧
    (step setting state command).aborted = false

theorem reports_of_fault {fault : Fault} {complaint : Bytes}
    (raised : reply setting state command = .raise .none fault)
    (handled : fault.handled? = some (.complaint complaint)) :
    Reports setting state command (complaint ++ ascii "\n") := by
  rw [Reports, step_of_fault raised handled]
  exact ⟨rfl, rfl, rfl⟩

theorem reports_of_error {file bytes : Bytes} {error : WireError}
    (found : state.files.read (Path.below setting.directory file) = .content bytes)
    (failed : Wire.takeBlock bytes = .error error) :
    Reports setting state (.read file)
      (report ((if error.isCorrupt then ascii "Corrupt block: " else []) ++ error.message)) := by
  have kind : Printable (if error.isCorrupt then ascii "Corrupt block: " else []) := by
    split
    · decide
    · exact fun _ member => nomatch member
  rw [report, (kind.append error.printable_message).untilZero]
  refine reports_of_fault ?_ (handled_of_error error)
  rw [reply_eq_read, found, reply_read_of_error _ failed]

/-- **An error is reported, and nothing changes.** -/
theorem reports_of_raises {message : Bytes}
    (raises : Raises setting.directory state.files command message) :
    Reports setting state command (report message) := by
  cases raises with
  | @missing file nothing =>
    have raised := reply_eq_read setting state file
    rw [nothing] at raised
    exact reports_of_fault raised rfl
  | @directory file found =>
    have raised := reply_eq_read setting state file
    rw [found] at raised
    exact reports_of_fault raised rfl
  | truncated found rejected =>
    obtain ⟨error, failed, kind, rfl⟩ := Wire.takeBlock_of_rejects rejected
    have reported := reports_of_error found failed
    rwa [kind] at reported
  | corrupt found rejected =>
    obtain ⟨error, failed, kind, rfl⟩ := Wire.takeBlock_of_rejects rejected
    have reported := reports_of_error found failed
    rwa [kind] at reported
  | closed blocked =>
    rw [Reports, step_write]
    dsimp only
    rw [FileTree.write?_eq_none.mpr blocked]
    exact ⟨rfl, rfl, rfl⟩

theorem raises_of_error {file bytes : Bytes} {error : WireError} {files : FileTree}
    {directory : Bytes} (found : files.read (Path.below directory file) = .content bytes)
    (failed : Wire.takeBlock bytes = .error error) :
    ∃ message, Raises directory files (.read file) message := by
  have rejected := Wire.rejects_of_error failed
  cases kind : error.isCorrupt with
  | false =>
    rw [kind] at rejected
    exact ⟨_, .truncated found rejected⟩
  | true =>
    rw [kind] at rejected
    exact ⟨_, .corrupt found rejected⟩

/-- **Nothing else brings a complaint** but a word that is no command, or operands that cannot be
read. -/
theorem raises_of_complaint (complains : (step setting state command).output.complaints ≠ []) :
    (∃ message, Raises setting.directory state.files command message) ∨ command = invalid ∨
      ∃ usage, command = unreadable usage := by
  have silent {output : Output} (prints : reply setting state command = .print output)
      (answers : output.complaints = []) : False := by
    rw [step_of_print prints] at complains
    exact complains answers
  cases command with
  | read file =>
    left
    cases found : state.files.read (Path.below setting.directory file) with
    | missing => exact ⟨_, .missing found⟩
    | directory => exact ⟨_, .directory found⟩
    | content bytes =>
      cases taken : Wire.takeBlock bytes with
      | error error => exact raises_of_error found taken
      | ok pair =>
        have replies := reply_eq_read setting state file
        rw [found] at replies
        rcases reply_read_of_block taken (Path.below setting.directory file) with
          printed | ⟨_, faulty⟩
        · exact (silent (replies.trans (printed _)) rfl).elim
        · rw [step_of_unhandled (replies.trans (faulty _)) rfl] at complains
          exact absurd rfl complains
  | write id length generation data out =>
    left
    rw [step_write] at complains
    dsimp only at complains
    split at complains
    next => exact absurd rfl complains
    next closed => exact ⟨_, .closed (FileTree.write?_eq_none.mp closed)⟩
  | invalid => exact .inr (.inl rfl)
  | unreadable usage => exact .inr (.inr ⟨usage, rfl⟩)
  | checksum file => exact (silent (reply_checksum _ _ _) rfl).elim
  | describe file length generation => exact (silent (reply_describe _ _ _ _ _) rfl).elim
  | _ => exact absurd rfl complains

/-! ### The whole program -/

/-- **A session ends, and what ends it.** With one argument at most, the program performs not more
commands than its input has bytes that are no blanks. It ends with the exit code zero when it has
performed all of them, and has then read its whole input, or its last command is `quit`. It is
aborted exactly if a `read` comes upon a description with a text that is too long, and does not
perform any other command then.

Behind every other command it goes on with the rest of the input. An error of a command is reported
among the complaints and changes nothing, so that it goes on from the same files and with the log on
or off as before; and all other complaints are about words that are no commands and operands that
cannot be read. -/
theorem start_ends {arguments : List Bytes} (few : arguments.length ≤ 1) (clock : Nat → Int64)
    (files : FileTree) (input : Bytes) :
    ∃ directory, directory? arguments = some directory ∧
      let setting : Setting := ⟨directory, clock⟩
      let initial : State := ⟨files, false, 0⟩
      let outcome := start arguments clock files input
      let performed := history setting initial (script input)
      outcome = conduct setting initial input ∧
      (outcome.exitCode ≠ none →
        outcome.exitCode = some 0 ∧ performed.map Prod.snd = script input) ∧
      (outcome.exitCode = none ↔
        ∃ moment ∈ performed, Overlong directory moment.1.files moment.2) ∧
      performed.length ≤ solidBytes input ∧
      ((∃ rest, Reads input (script input) rest ∧ IsGap rest) ∨
        ∃ before text rest, Reads input before text ∧ next? text = some (quit, rest) ∧
          script input = before ++ [quit]) ∧
      ∀ before text command rest, Reads input before text → Survives setting initial before →
        next? text = some (command, rest) →
        let met := (run setting initial before).state
        ((step setting met command).aborted = true ↔ Overlong directory met.files command) ∧
        (command ≠ quit → ¬Overlong directory met.files command →
          GoesOn setting initial input
            (.join (run setting initial before).outputs ++ (step setting met command).output)
            (step setting met command).state rest) ∧
        (∀ message, Raises directory met.files command message →
          command ≠ quit ∧ Reports setting met command (report message)) ∧
        ((step setting met command).output.complaints ≠ [] →
          (∃ message, Raises directory met.files command message) ∨ command = invalid ∨
            ∃ usage, command = unreadable usage) := by
  obtain ⟨directory, named⟩ : ∃ directory, directory? arguments = some directory := by
    match arguments, few with
    | [], _ => exact ⟨_, rfl⟩
    | [directory], _ => exact ⟨_, rfl⟩
  have ends := start_eq_conduct named clock files input
  have count := (history_begins ⟨directory, clock⟩ ⟨files, false, 0⟩ (script input)).length_le
  rw [List.length_map] at count
  refine ⟨directory, named, ends, fun normal => ?_, ?_,
    Nat.le_trans count (length_script_le input), script_ends input, ?_⟩
  · rw [ends] at normal ⊢
    have survives : Survives ⟨directory, clock⟩ ⟨files, false, 0⟩ (script input) :=
      Bool.eq_false_iff.mpr (mt exitCode_conduct.2.mpr normal)
    exact ⟨exitCode_conduct.1.mpr survives, survives.history_map⟩
  · rw [ends, exitCode_conduct.2, aborted_iff]
    simp only [step_aborted_iff]
  · intro before text command rest earlier survives found met
    refine ⟨step_aborted_iff, fun further fits => ?_, fun message raises => ?_,
      raises_of_complaint⟩
    · have goes : (step ⟨directory, clock⟩ met command).aborted = false :=
        Bool.eq_false_iff.mpr fun aborted => fits (step_aborted_iff.mp aborted)
      exact goesOn_of_next? earlier survives found further goes
    · have other : command ≠ quit := by
        rintro rfl
        cases raises
      exact ⟨other, reports_of_raises raises⟩

/-- A file that is not there, and a `quit` in front of more commands. -/
theorem start_ends_missing :
    let setting : Setting := ⟨ascii ".", fun _ => 0⟩
    let initial : State := ⟨.empty [], false, 0⟩
    let input := ascii "read x\nquit\nhelp\n"
    (([] : List Bytes).length ≤ 1 ∧ Reads input [] input ∧
        next? input = some (.read (ascii "x"), ascii "\nquit\nhelp\n") ∧
        Raises (ascii ".") initial.files (.read (ascii "x")) (ascii "Cannot open ./x")) ∧
      (start [] (fun _ => 0) initial.files input).exitCode = some 0 ∧
      (step setting initial (.read (ascii "x"))).output.complaints =
        ascii "[BLOCKTOOL] Cannot open ./x\n" ∧
      GoesOn setting initial input (step setting initial (.read (ascii "x"))).output
        ⟨.empty [], false, 1⟩ (ascii "\nquit\nhelp\n") := by
  intro setting initial input
  have found : next? input = some (.read (ascii "x"), ascii "\nquit\nhelp\n") := by rfl
  have raises : Raises (ascii ".") initial.files (.read (ascii "x")) (ascii "Cannot open ./x") :=
    .missing (by rfl)
  obtain ⟨directory, named, _, normal, aborted, _, _, each⟩ :=
    @start_ends [] (by decide) (fun _ => 0) initial.files input
  obtain rfl : ascii "." = directory := Option.some.inj named
  obtain ⟨_, further, errors, _⟩ := each [] input _ _ (.nil input) rfl found
  obtain ⟨goes, reported, kept, survived⟩ := errors _ raises
  have missing : ¬Overlong (ascii ".") initial.files (.read (ascii "x")) := by
    rintro (⟨found, _, _⟩)
    cases found
  have commands : script input = [.read (ascii "x"), .quit] := by
    have ends : next? (ascii "\nquit\nhelp\n") = some (quit, ascii "\nhelp\n") := by rfl
    rw [script_cons found goes, script_quit ends]
  have exit : (start [] (fun _ => 0) initial.files input).exitCode = some 0 := by
    refine (normal fun none => ?_).1
    have alive : (step ⟨ascii ".", fun _ => 0⟩ ⟨initial.files, false, 0⟩
        (.read (ascii "x"))).aborted = false := survived
    obtain ⟨moment, member, overlong⟩ := aborted.mp none
    rw [commands, history, alive, if_neg Bool.false_ne_true] at member
    rcases List.mem_cons.mp member with rfl | later
    · exact missing overlong
    · obtain rfl := List.mem_singleton.mp later
      cases overlong
  have on := further goes missing
  rw [kept] at on
  have line : report (ascii "Cannot open ./x") = ascii "[BLOCKTOOL] Cannot open ./x\n" := by decide
  exact ⟨⟨by decide, .nil input, found, raises⟩, exit, reported.trans line, on⟩

/-- **A whole description with a text that is too long aborts the program**: there is no exit code,
and nothing is reported. -/
theorem overlong_aborts :
    let files : FileTree := ⟨[([ascii "b"], .file (List.replicate 1616928892 96))], []⟩
    let outcome := start [] (fun _ => 0) files (ascii "read b\n")
    outcome.exitCode = none ∧ outcome.output.complaints = [] := by
  obtain ⟨bytes, known, _, _, _, count, accepted⟩ := Wire.accepts_overlong
  rw [← known]
  intro files outcome
  obtain ⟨block, rest, canonical, split, length⟩ := accepted.exists_encode
  have found : files.read (Path.below (ascii ".") (ascii "b")) = .content bytes := by rfl
  rw [split] at found
  have aborts : Overlong (ascii ".") files (.read (ascii "b")) :=
    .read found canonical (by omega)
  let setting : Setting := ⟨ascii ".", fun _ => 0⟩
  have effect : step setting ⟨files, false, 0⟩ (.read (ascii "b")) = _ := aborts.step_eq
  have commands : script (ascii "read b\n") = [.read (ascii "b")] := by
    have reads : next? (ascii "read b\n") = some (.read (ascii "b"), ascii "\n") := by rfl
    rw [script_cons reads (fun same => nomatch same), script_nil (by rfl)]
  have performed : run setting ⟨files, false, 0⟩ (script (ascii "read b\n")) =
      ⟨[.none], ⟨files, false, 1⟩, true⟩ := by
    rw [commands, run_cons_of_aborted (by rw [effect]), effect]
    rfl
  have ends : outcome = conduct setting ⟨files, false, 0⟩ (ascii "read b\n") := rfl
  rw [ends, conduct, performed]
  exact ⟨rfl, rfl⟩

end StorageBlock.Session
