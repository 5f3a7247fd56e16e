/-
**Recovery after operands that cannot be read.**

Where the operands of a `describe` or a `write` cannot be read, the session prints how to use the
command, passes over the rest of the line on which it stopped, and goes on. A reader takes a part of
the faulty word at most before it stops, and never a line feed behind it, so that it is the line of
the faulty word that is passed over and nothing else.

* `AfterLine`: what follows the next line feed (`afterLine_iff`);
* `Takes`: the commands with several operands, and `ofWord_of_failsAt`: what they read;
* `goesOn_of_failsAt`: the session behind them.
-/

import StorageBlock.Proofs.Session.Ending
import StorageBlock.Proofs.Session.Operands

namespace StorageBlock.Session

open Command

variable {input text operands faulty rest after name usage : Bytes} {kinds : List Operand}

/-! ### Lines -/

/-- What follows the first line feed, or nothing if there is none. -/
inductive AfterLine : Bytes → Bytes → Prop where
  | feed {line after : Bytes} (feedless : 10 ∉ line) : AfterLine (line ++ 10 :: after) after
  | ended {rest : Bytes} (feedless : 10 ∉ rest) : AfterLine rest []

theorem skipLine_append_of_not_mem {front : Bytes} (feedless : 10 ∉ front) (rest : Bytes) :
    skipLine (front ++ rest) = skipLine rest := by
  have inside : ∀ byte ∈ front, (byte != 10) = true := fun byte member =>
    bne_iff_ne.mpr fun same => feedless (same ▸ member)
  rw [skipLine, skipLine, List.dropWhile_append_of_pos inside]

theorem afterLine_iff : AfterLine rest after ↔ skipLine rest = after := by
  constructor
  · intro followed
    cases followed with
    | feed feedless =>
      rw [skipLine_append_of_not_mem feedless]
      rfl
    | ended feedless =>
      rw [← List.append_nil rest, skipLine_append_of_not_mem feedless]
      rfl
  · rintro rfl
    by_cases feed : 10 ∈ rest
    · obtain ⟨line, after, rfl, feedless⟩ := List.eq_append_cons_of_mem feed
      rw [skipLine_append_of_not_mem feedless]
      exact .feed feedless
    · have nothing : skipLine rest = [] := by
        rw [← List.append_nil rest, skipLine_append_of_not_mem feed]
        rfl
      rw [nothing]
      exact .ended feed

theorem afterLine_append {front : Bytes} (feedless : 10 ∉ front) :
    AfterLine (front ++ rest) after ↔ AfterLine rest after := by
  rw [afterLine_iff, afterLine_iff, skipLine_append_of_not_mem feedless]

/-! ### Commands with several operands -/

/-- The names of the commands with several operands, the kinds of these, and how to use them. -/
inductive Takes : Bytes → List Operand → Bytes → Prop where
  | describe : Takes (ascii "describe") [.word, .number, .number]
    (ascii "describe <blockfile> <len> <genstamp>")
  | write : Takes (ascii "write") [.number, .number, .number, .word, .word]
    (ascii "write <id> <len> <genstamp> <datafile> <outfile>")

theorem Takes.expects (takes : Takes name kinds usage) :
    ∃ reading, Expects kinds reading ∧ ofWord name = orUsage usage reading := by
  cases takes with
  | describe => exact ⟨readDescribe, expects_readDescribe, rfl⟩
  | write => exact ⟨readWrite, expects_readWrite, rfl⟩

/-- If an operand is missing, the rest of the line is passed over. -/
theorem ofWord_of_failsAt (takes : Takes name kinds usage)
    (fails : FailsAt kinds operands faulty rest) :
    ofWord name operands = (unreadable usage, skipLine rest) := by
  obtain ⟨reading, expects, named⟩ := takes.expects
  rw [named, orUsage, EStateM.run, (expects.fails operands rest).mpr ⟨faulty, fails⟩]

/-- **The operands cannot be read if and only if one of them is missing.** -/
theorem ofWord_unreadable_iff (takes : Takes name kinds usage) :
    (ofWord name operands).1 = unreadable usage ↔
      ∃ faulty rest, FailsAt kinds operands faulty rest := by
  constructor
  · intro unread
    obtain ⟨reading, expects, named⟩ := takes.expects
    rw [named, orUsage, EStateM.run] at unread
    cases outcome : reading operands with
    | ok command rest =>
      rw [outcome] at unread
      obtain rfl : command = unreadable usage := unread
      exact absurd outcome (expects.readable operands rest usage)
    | error cause rest =>
      obtain ⟨faulty, fails⟩ := (expects.fails operands rest).mp outcome
      exact ⟨faulty, rest, fails⟩
  · rintro ⟨faulty, rest, fails⟩
    rw [ofWord_of_failsAt takes fails]

/-! ### Sessions -/

/-- **A session recovers from operands that cannot be read.** Behind any commands that have been
performed, a `describe` or a `write` cannot be read if and only if one of its operands is missing:
there is no number at the front of a word, or the input is at its end. It then prints how to use it
and changes nothing, and the session goes on, from the same files and with the log on or off as
before, behind the first line feed from where the reader stopped on. If the faulty word is on the
line of the command, this is what follows that line, so that no command of a later line is lost or
altered. -/
theorem goesOn_of_failsAt (setting : Setting) (state : State) {before : List Command}
    (earlier : Reads input before text) (survives : Survives setting state before)
    (typed : word? text = some (name, operands)) (takes : Takes name kinds usage) :
    let met := (run setting state before).state
    ((∃ behind, next? text = some (unreadable usage, behind)) ↔
        ∃ faulty rest, FailsAt kinds operands faulty rest) ∧
      ∀ faulty rest, FailsAt kinds operands faulty rest →
        ∃ front after, operands = front ++ faulty ∧ AfterLine rest after ∧
          (10 ∉ front → AfterLine operands after) ∧
          step setting met (unreadable usage) =
            ⟨.complaint (ascii "usage: " ++ usage),
              ⟨met.files, met.tracing, met.performed + 1⟩, false⟩ ∧
          script input = before ++ unreadable usage :: script after ∧
          GoesOn setting state input
            (.join (run setting state before).outputs ++ .complaint (ascii "usage: " ++ usage))
            ⟨met.files, met.tracing, met.performed + 1⟩ after := by
  intro met
  have next : next? text = some (ofWord name operands) := by rw [next?, typed]
  constructor
  · rw [next, ← ofWord_unreadable_iff takes]
    constructor
    · rintro ⟨behind, unread⟩
      exact congrArg Prod.fst (Option.some.inj unread)
    · exact fun unread => ⟨(ofWord name operands).2, congrArg some (Prod.ext unread rfl)⟩
  · intro faulty rest fails
    rw [ofWord_of_failsAt takes fails] at next
    have further : unreadable usage ≠ quit := by rintro ⟨⟩
    have performed : step setting met (unreadable usage) =
        ⟨.complaint (ascii "usage: " ++ usage), ⟨met.files, met.tracing, met.performed + 1⟩,
          false⟩ := rfl
    obtain ⟨front, taken, split, stopped, feedless⟩ := fails.split
    refine ⟨front, skipLine rest, split, afterLine_iff.mpr rfl, fun own => ?_, performed, ?_, ?_⟩
    · -- What has been taken of the faulty word holds no line feed: the line ends where it did.
      rw [split, afterLine_append own, stopped, afterLine_append feedless]
      exact afterLine_iff.mpr rfl
    · rw [script_of_reads earlier, script_cons next further]
    · have on := goesOn_of_next? earlier survives next further (congrArg Turn.aborted performed)
      dsimp only at on
      rwa [performed] at on

/-- A sign without digits, with the log on, and a command on the next line. -/
theorem goesOn_of_failsAt_sign :
    let setting : Setting := ⟨ascii ".", fun _ => 0⟩
    let initial : State := ⟨.empty [], false, 0⟩
    let input := ascii "trace on\ndescribe f -x 3\nread b\n"
    let text := ascii "\ndescribe f -x 3\nread b\n"
    let usage := ascii "describe <blockfile> <len> <genstamp>"
    (Reads input [.trace true] text ∧ Survives setting initial [.trace true] ∧
        word? text = some (ascii "describe", ascii " f -x 3\nread b\n") ∧
        Takes (ascii "describe") [.word, .number, .number] usage ∧
        FailsAt [.word, .number, .number] (ascii " f -x 3\nread b\n") (ascii "-x 3\nread b\n")
          (ascii "x 3\nread b\n")) ∧
      script input = [.trace true, unreadable usage, .read (ascii "b")] ∧
      GoesOn setting initial input (.complaint (ascii "usage: " ++ usage)) ⟨.empty [], true, 2⟩
        (ascii "read b\n") := by
  intro setting initial input text usage
  have earlier : Reads input [.trace true] text :=
    .cons (by rfl) (fun same => nomatch same) (.nil text)
  have typed : word? text = some (ascii "describe", ascii " f -x 3\nread b\n") := by decide
  have given : Operand.Given .word (ascii " f -x 3\nread b\n") (ascii " -x 3\nread b\n") :=
    @Operand.Given.word (ascii " ") (ascii "f") (ascii " -x 3\nread b\n") (by decide) (by decide)
      (by decide)
  have sign : NoNumber (ascii "-x 3\nread b\n") (ascii "x 3\nread b\n") :=
    .digits (.minus (ascii "x 3\nread b\n")) (Digits.read?_eq_none.mp (by rfl))
  have missing : Operand.Missing .number (ascii " -x 3\nread b\n") (ascii "-x 3\nread b\n")
      (ascii "x 3\nread b\n") :=
    @Operand.Missing.number (ascii " ") _ _ (by decide) ⟨45, rfl, rfl⟩ sign
  have fails := FailsAt.later given (@FailsAt.here _ [.number] _ _ _ missing)
  have survives : Survives setting initial [.trace true] := rfl
  obtain ⟨front, after, split, followed, _, performed, all, goes⟩ :=
    (goesOn_of_failsAt setting initial earlier survives typed .describe).2 _ _ fails
  obtain rfl : ascii "read b\n" = after := afterLine_iff.mp followed
  have found : next? (ascii "read b\n") = some (.read (ascii "b"), ascii "\n") := by rfl
  have last : script (ascii "read b\n") = [.read (ascii "b")] := by
    rw [script_cons found (fun same => nomatch same), script_nil (by rfl)]
  rw [last] at all
  exact ⟨⟨earlier, survives, typed, .describe, fails⟩, all, goes⟩

end StorageBlock.Session
