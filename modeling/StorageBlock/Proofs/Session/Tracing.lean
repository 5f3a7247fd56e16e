/-
**The log only observes.**

The log of checksums can be on or off, and a session can turn it on and off as it likes: the answers
are the same but for the lines of the log, and everything else is the same altogether.

* `LogLine`: what the log may add in front of the answer to a command (`exists_observed`: it adds
  nothing else, and the rest of the effect does not depend on it);
* `Retraced`: an input with other words behind its `trace` commands
  (`Retraced.script`: its commands are the same, but for those);
* `SameButLog`: answers that differ in the lines of the log only;
* `conduct_retraced`: two sessions on such inputs, each with the log on or off.
-/

import Mathlib.Data.List.Forall2
import StorageBlock.Proofs.Session.Effect
import StorageBlock.Proofs.Session.History
import StorageBlock.Proofs.Session.Words

namespace StorageBlock.Session

open Command

variable {directory : Bytes} {files : FileTree}

/-! ### One command -/

/-- What the log may add in front of the answer to a command, off and at any time: nothing at all,
or one line for a `write` or a `read`. -/
inductive LogLine : Command → (Option Int64 → Bytes) → Prop where
  | silent (command : Command) : LogLine command fun _ => []
  | write {id length generation : Int64} {data out record : Bytes} (oneLine : 10 ∉ record) :
    LogLine (.write id length generation data out) fun moment => logged moment record
  | read {file record : Bytes} (oneLine : 10 ∉ record) :
    LogLine (.read file) fun moment => logged moment record

theorem endsLine_helpText : EndsLine helpText := by
  unfold helpText
  induction helpLines with
  | nil => exact .inl rfl
  | cons line lines hypothesis =>
    rw [List.flatMap_cons]
    exact .append (endsLine_append _ rfl) hypothesis

/-- What a command does whether the log is on or off: the log may add a line in front of what is
printed, which is whole lines. -/
structure Observed (directory : Bytes) (files : FileTree) (command : Command)
    (line : Option Int64 → Bytes) (text complaints : Bytes) (after : FileTree) (aborted : Bool) :
    Prop where
  logs : LogLine command line
  whole : EndsLine text
  steps (clock : Nat → Int64) (tracing : Bool) (performed : Nat) :
    step ⟨directory, clock⟩ ⟨files, tracing, performed⟩ command =
      ⟨⟨line (moment? ⟨directory, clock⟩ ⟨files, tracing, performed⟩) ++ text, complaints⟩,
        ⟨after, command.tracing tracing, performed + 1⟩, aborted⟩

section Answers

variable {command : Command}

/-- A command that prints the same without looking at the log. -/
theorem observed_of_print {output : Output}
    (prints : ∀ clock tracing performed,
      reply ⟨directory, clock⟩ ⟨files, tracing, performed⟩ command = .print output)
    (whole : EndsLine output.answers) :
    Observed directory files command (fun _ => []) output.answers output.complaints files false :=
  ⟨.silent command, whole, fun clock tracing performed =>
    step_of_print (prints clock tracing performed)⟩

/-- So is an error. -/
theorem observed_of_fault {fault : Fault} {complaint : Bytes}
    (raises : ∀ clock tracing performed,
      reply ⟨directory, clock⟩ ⟨files, tracing, performed⟩ command = .raise .none fault)
    (handled : fault.handled? = some (.complaint complaint)) :
    Observed directory files command (fun _ => []) [] (Output.complaint complaint).complaints files
      false :=
  ⟨.silent command, .inl rfl, fun clock tracing performed =>
    step_of_fault (raises clock tracing performed) handled⟩

end Answers

theorem observed_write (directory : Bytes) (files : FileTree) (id length generation : Int64)
    (data out : Bytes) :
    ∃ text complaints after, Observed directory files (.write id length generation data out)
      (fun moment => logged moment
        (described directory files id length generation data).writeText)
      text complaints after false := by
  have oneLine := Block.printable_writeText
    (described directory files id length generation data)
  have effect (clock : Nat → Int64) (tracing : Bool) (performed : Nat) :=
    step_write ⟨directory, clock⟩ ⟨files, tracing, performed⟩ id length generation data out
  dsimp only at effect
  split at effect
  next after _ => exact ⟨_, _, after, .write oneLine.no_feed, endsLine_append _ rfl, effect⟩
  next => exact ⟨[], _, files, .write oneLine.no_feed, .inl rfl, effect⟩

theorem observed_read (directory : Bytes) (files : FileTree) (file : Bytes) :
    ∃ line text complaints aborted,
      Observed directory files (.read file) line text complaints files aborted := by
  have replies (clock : Nat → Int64) (tracing : Bool) (performed : Nat) :
      reply ⟨directory, clock⟩ ⟨files, tracing, performed⟩ (.read file) =
        .read (files.read (Path.below directory file))
          (traceLogger (moment? ⟨directory, clock⟩ ⟨files, tracing, performed⟩))
          (Path.below directory file) := reply_eq_read _ _ file
  cases found : files.read (Path.below directory file) with
  | missing =>
    rw [found] at replies
    exact ⟨_, _, _, _, observed_of_fault replies rfl⟩
  | directory =>
    rw [found] at replies
    exact ⟨_, _, _, _, observed_of_fault replies rfl⟩
  | content bytes =>
    rw [found] at replies
    cases taken : Wire.takeBlock bytes with
    | error error =>
      have raises clock tracing performed := (replies clock tracing performed).trans
        (reply_read_of_error _ taken _)
      exact ⟨_, _, _, _, observed_of_fault raises (handled_of_error error)⟩
    | ok pair =>
      obtain ⟨block, rest⟩ := pair
      rcases reply_read_of_block taken (Path.below directory file) with printed | ⟨_, faulty⟩
      · have prints clock tracing performed := (replies clock tracing performed).trans (printed _)
        exact ⟨_, _, [], false, .read block.printable_readText.no_feed, endsLine_append _ rfl,
          fun clock tracing performed => step_of_print (prints clock tracing performed)⟩
      · -- The program is aborted whether the log is on or off.
        have raises clock tracing performed := (replies clock tracing performed).trans (faulty _)
        exact ⟨_, [], [], true, .silent _, .inl rfl, fun clock tracing performed =>
          step_of_unhandled (raises clock tracing performed) rfl⟩

/-- **The log only observes a command**: where it adds a line, this is all that it does. -/
theorem exists_observed (directory : Bytes) (files : FileTree) (command : Command) :
    ∃ line text complaints after aborted,
      Observed directory files command line text complaints after aborted := by
  cases command with
  | write id length generation data out =>
    obtain ⟨text, complaints, after, observed⟩ :=
      observed_write directory files id length generation data out
    exact ⟨_, text, complaints, after, false, observed⟩
  | read file =>
    obtain ⟨line, text, complaints, aborted, observed⟩ := observed_read directory files file
    exact ⟨line, text, complaints, files, aborted, observed⟩
  | checksum file =>
    let digest := Checksum.digest? (files.read (Path.below directory file))
    have prints clock tracing performed :
        reply ⟨directory, clock⟩ ⟨files, tracing, performed⟩ (.checksum file) =
          .print (.answer (Checksum.wording digest ++ ascii "\n")) := reply_checksum _ _ _
    exact ⟨_, _, _, _, _, observed_of_print prints (endsLine_append _ rfl)⟩
  | describe file length generation =>
    let path := Path.below directory file
    let block := Block.ofFile path (files.read path) length generation
    have prints clock tracing performed :
        reply ⟨directory, clock⟩ ⟨files, tracing, performed⟩ (.describe file length generation) =
          .print (.answer (withLength (block.version ++ Block.ending block.checksum) block)) :=
      reply_describe _ _ _ _ _
    exact ⟨_, _, _, _, _, observed_of_print prints (endsLine_append _ rfl)⟩
  | help => exact ⟨_, _, _, _, _, observed_of_print (fun _ _ _ => rfl) endsLine_helpText⟩
  | classify name =>
    exact ⟨_, _, _, _, _, observed_of_print (fun _ _ _ => rfl) (endsLine_append _ rfl)⟩
  | dataPath path =>
    exact ⟨_, _, _, _, _, observed_of_print (fun _ _ _ => rfl) (endsLine_append _ rfl)⟩
  | trace on => exact ⟨_, _, _, _, _, observed_of_print (fun _ _ _ => rfl) (.inl rfl)⟩
  | quit => exact ⟨_, _, _, _, _, observed_of_print (fun _ _ _ => rfl) (.inl rfl)⟩
  | invalid => exact ⟨_, _, _, _, _, observed_of_print (fun _ _ _ => rfl) (.inl rfl)⟩
  | unreadable usage => exact ⟨_, _, _, _, _, observed_of_print (fun _ _ _ => rfl) (.inl rfl)⟩

/-! ### All commands -/

/-- Two commands that are the same, or that turn the log on or off. -/
inductive Alike : Command → Command → Prop where
  | same (command : Command) : Alike command command
  | trace (first second : Bool) : Alike (.trace first) (.trace second)

/-- Turning the log on or off is all that a `trace` does. -/
theorem Observed.steps_alike {command partner : Command} {line : Option Int64 → Bytes}
    {text complaints : Bytes} {after : FileTree} {aborted : Bool}
    (observed : Observed directory files command line text complaints after aborted)
    (alike : Alike command partner) (clock : Nat → Int64) (tracing : Bool) (performed : Nat) :
    step ⟨directory, clock⟩ ⟨files, tracing, performed⟩ partner =
      ⟨⟨line (moment? ⟨directory, clock⟩ ⟨files, tracing, performed⟩) ++ text, complaints⟩,
        ⟨after, partner.tracing tracing, performed + 1⟩, aborted⟩ := by
  cases alike with
  | same => exact observed.steps clock tracing performed
  | trace first second =>
    have turns (on : Bool) : step ⟨directory, clock⟩ ⟨files, tracing, performed⟩ (.trace on) =
        ⟨.none, ⟨files, on, performed + 1⟩, false⟩ := rfl
    obtain ⟨printed, left, goes⟩ :=
      Turn.mk.inj ((turns first).symm.trans (observed.steps clock tracing performed))
    rw [turns, printed, (State.mk.inj left).1, goes]
    rfl

/-- What is printed by commands, one answer after another: two such texts that differ in the lines
of the log only. -/
inductive SameButLog : List Command → Bytes → Bytes → Prop where
  | nil : SameButLog [] [] []
  | cons {command : Command} {commands : List Command} {line : Option Int64 → Bytes}
    {text first second : Bytes} (logs : LogLine command line) (whole : EndsLine text)
    (others : SameButLog commands first second) (one other : Option Int64) :
    SameButLog (command :: commands) (line one ++ (text ++ first)) (line other ++ (text ++ second))

/-- Two runs do the same but for the log, and end in the same way. -/
structure Alongside (commands : List Command) (here there : Run) : Prop where
  answers : SameButLog commands (Output.join here.outputs).answers
    (Output.join there.outputs).answers
  complaints : (Output.join here.outputs).complaints = (Output.join there.outputs).complaints
  files : here.state.files = there.state.files
  aborted : here.aborted = there.aborted

/-- **Commands that are alike print the same but for the log**, at whatever times and in whatever
state of the log, and do the same. -/
theorem run_alike {first second : List Command} (alike : List.Forall₂ Alike first second)
    (directory : Bytes) (clock another : Nat → Int64) (files : FileTree) (one other : Bool)
    (performed : Nat) :
    Alongside ((history ⟨directory, clock⟩ ⟨files, one, performed⟩ first).map Prod.snd)
      (run ⟨directory, clock⟩ ⟨files, one, performed⟩ first)
      (run ⟨directory, another⟩ ⟨files, other, performed⟩ second) := by
  induction alike generalizing files one other performed with
  | nil => exact ⟨.nil, rfl, rfl, rfl⟩
  | @cons command partner first second same _ hypothesis =>
    obtain ⟨line, text, complaints, after, aborted, observed⟩ :=
      exists_observed directory files command
    have here := observed.steps clock one performed
    have there := observed.steps_alike same another other performed
    have shown {first second : Bytes} {commands : List Command}
        (others : SameButLog commands first second) (one other : Option Int64) :
        SameButLog (command :: commands) (line one ++ text ++ first)
          (line other ++ text ++ second) := by
      rw [List.append_assoc, List.append_assoc]
      exact .cons observed.logs observed.whole others one other
    cases aborted with
    | true =>
      rw [history, run_cons_of_aborted (by rw [here]), run_cons_of_aborted (by rw [there]), here,
        there]
      refine ⟨?_, rfl, rfl, rfl⟩
      simp only [Turn.run, Output.join_singleton, if_true, List.map_cons, List.map_nil]
      simpa only [List.append_nil] using shown .nil _ _
    | false =>
      obtain ⟨answers, complained, left, ends⟩ := hypothesis after (command.tracing one)
        (partner.tracing other) (performed + 1)
      rw [history, run_cons_of_goes (by rw [here]), run_cons_of_goes (by rw [there]), here, there]
      refine ⟨?_, ?_, left, ends⟩
      · rw [Output.join_cons, Output.join_cons]
        exact shown answers _ _
      · rw [Output.join_cons, Output.join_cons]
        exact congrArg (complaints ++ ·) complained

/-! ### Inputs -/

/-- Two inputs that are the same but for the words behind their `trace` commands: other commands are
the same, byte for byte. -/
inductive Retraced : Bytes → Bytes → Prop where
  | refl (input : Bytes) : Retraced input input
  | keep {front rest other : Bytes} {command : Command}
    (found : next? (front ++ rest) = some (command, rest)) (further : Retraced rest other) :
    Retraced (front ++ rest) (front ++ other)
  | replace {blanks gap first second rest other : Bytes} (before : IsGap blanks)
    (between : IsGap gap) (apart : gap ≠ []) (one : IsWord first) (another : IsWord second)
    (ended : EndsWord rest) (further : Retraced rest other) :
    Retraced (blanks ++ (ascii "trace" ++ (gap ++ (first ++ rest))))
      (blanks ++ (ascii "trace" ++ (gap ++ (second ++ other))))

theorem Retraced.head? {first second : Bytes} (retraced : Retraced first second) :
    second.head? = first.head? := by
  cases retraced with
  | refl => rfl
  | @keep front rest other command found further =>
    cases front with
    | nil => exact absurd (next?_length found) (Nat.lt_irrefl _)
    | cons => rfl
  | @replace blanks => cases blanks <;> rfl

theorem next?_trace {blanks gap mode rest : Bytes} (before : IsGap blanks) (between : IsGap gap)
    (apart : gap ≠ []) (word : IsWord mode) (ended : EndsWord rest) :
    next? (blanks ++ (ascii "trace" ++ (gap ++ (mode ++ rest)))) =
      some (trace (decide (mode = ascii "on")), rest) := by
  have name : IsWord (ascii "trace") := by decide
  rw [next?, word?_of_typed before name (endsWord_gap between apart (mode ++ rest))]
  show some (trace (decide ((operand (gap ++ (mode ++ rest))).1 = _)), (operand _).2) = _
  rw [operand, word?_of_typed between word ended]
  rfl

/-- **The commands of two such inputs are alike.** -/
theorem Retraced.script {first second : Bytes} (retraced : Retraced first second) :
    List.Forall₂ Alike (Command.script first) (Command.script second) := by
  induction retraced with
  | refl input => exact List.forall₂_same.mpr fun command _ => .same command
  | @keep front rest other command found further hypothesis =>
    have exchanged := next?_exchange found further.head?
    by_cases ends : command = quit
    · subst ends
      rw [script_quit found, script_quit exchanged]
      exact .cons (.same quit) .nil
    · rw [script_cons found ends, script_cons exchanged ends]
      exact .cons (.same command) hypothesis
  | replace before between apart one another ended further hypothesis =>
    have exchanged : EndsWord _ := fun byte same => ended byte (further.head? ▸ same)
    rw [script_cons (next?_trace before between apart one ended) (fun same => nomatch same),
      script_cons (next?_trace before between apart another exchanged) (fun same => nomatch same)]
    exact .cons (.trace _ _) hypothesis

/-! ### Sessions -/

/-- **Tracing only observes.** Two sessions, at whatever times and each with the log on or off, on
inputs that are the same but for the words behind their `trace` commands: they end in the same way,
complain of the same and leave the same files, and their answers differ in the lines of the log
only, of which there is at most one for each `write` or `read` that is performed. -/
theorem conduct_retraced (directory : Bytes) (clock another : Nat → Int64) (files : FileTree)
    (one other : Bool) (performed : Nat) {first second : Bytes}
    (retraced : Retraced first second) :
    let here := conduct ⟨directory, clock⟩ ⟨files, one, performed⟩ first
    let there := conduct ⟨directory, another⟩ ⟨files, other, performed⟩ second
    here.exitCode = there.exitCode ∧ here.output.complaints = there.output.complaints ∧
      here.files = there.files ∧
      ∃ printed answered,
        here.output.answers = greeting directory ++ printed ∧
        there.output.answers = greeting directory ++ answered ∧
        SameButLog ((history ⟨directory, clock⟩ ⟨files, one, performed⟩
          (Command.script first)).map Prod.snd) printed answered := by
  obtain ⟨answers, complaints, left, ends⟩ :=
    run_alike retraced.script directory clock another files one other performed
  refine ⟨?_, complaints, left, _, _, rfl, rfl, answers⟩
  simp only [conduct, ends]

/-- A session that turns the log on between two commands, and one that turns it off there. -/
theorem conduct_retraced_off :
    Retraced (ascii "read b\ntrace on\nread b\n") (ascii "read b\ntrace off\nread b\n") ∧
      (conduct ⟨ascii ".", fun _ => 0⟩ ⟨.empty [], false, 0⟩
          (ascii "read b\ntrace on\nread b\n")).output.complaints =
        (conduct ⟨ascii ".", fun _ => 1⟩ ⟨.empty [], true, 0⟩
          (ascii "read b\ntrace off\nread b\n")).output.complaints := by
  have mode : Retraced (ascii "\n" ++ (ascii "trace" ++ (ascii " " ++ (ascii "on" ++
        ascii "\nread b\n")))) (ascii "\n" ++ (ascii "trace" ++ (ascii " " ++ (ascii "off" ++
        ascii "\nread b\n")))) :=
    .replace (by decide) (by decide) (by decide) (by decide) (by decide) (by decide)
      (.refl _)
  have retraced : Retraced (ascii "read b" ++ _) (ascii "read b" ++ _) :=
    @Retraced.keep _ _ _ (.read (ascii "b")) rfl mode
  obtain ⟨_, complaints, _⟩ :=
    conduct_retraced (ascii ".") (fun _ => 0) (fun _ => 1) (.empty []) false true 0 retraced
  exact ⟨retraced, complaints⟩

end StorageBlock.Session
