/-
**The history of a session.**

A session is a list of commands, each performed in the state that the one before has left, up to one
that aborts the program. Its history keeps these states, so that one can speak of what a command
met.

* `Session.leaves`: the state that a session leaves (`start_eq_conduct`: the program conducts one
  with the log off);
* `Session.Run.andThen`: further commands behind a run, and `Session.run_append`: commands performed
  one after another, in two parts;
* `Session.Survives`: no command aborts the program;
* `Session.history`: the commands that are performed, each with the state that it meets
  (`aborted_iff`: one of them aborts the program if it is aborted).
-/

import StorageBlock.Session.Run

namespace StorageBlock

namespace Output

theorem append_assoc (first second third : Output) :
    first ++ second ++ third = first ++ (second ++ third) := by
  show Output.mk (_ ++ _ ++ _) (_ ++ _ ++ _) = ⟨_, _⟩
  rw [List.append_assoc, List.append_assoc]
  rfl

theorem join_cons (first : Output) (others : List Output) :
    join (first :: others) = first ++ join others := by
  unfold join
  rw [List.flatMap_cons, List.flatMap_cons]
  rfl

theorem join_singleton (output : Output) : join [output] = output := by
  unfold join
  rw [List.flatMap_singleton, List.flatMap_singleton]

theorem join_append (first second : List Output) :
    join (first ++ second) = join first ++ join second := by
  unfold join
  rw [List.flatMap_append, List.flatMap_append]
  rfl

end Output

namespace Session

variable {setting : Setting} {state : State}

/-! ### Whole sessions -/

/-- What a session on an input leaves. -/
def leaves (setting : Setting) (state : State) (input : Bytes) : State :=
  (run setting state (Command.script input)).state

/-- The program conducts a session with the log off. -/
theorem start_eq_conduct {arguments : List Bytes} {directory : Bytes}
    (named : directory? arguments = some directory) (clock : Nat → Int64) (files : FileTree)
    (input : Bytes) :
    start arguments clock files input = conduct ⟨directory, clock⟩ ⟨files, false, 0⟩ input := by
  simp only [start, named]

/-! ### Commands in two parts -/

/-- Further commands behind others, unless these have aborted the program. -/
def Run.andThen (before : Run) (further : State → Run) : Run :=
  if before.aborted then before
  else
    let after := further before.state
    ⟨before.outputs ++ after.outputs, after.state, after.aborted⟩

/-- The run of one command. -/
def Turn.run (turn : Turn) : Run := ⟨[turn.output], turn.state, turn.aborted⟩

theorem run_cons (setting : Setting) (state : State) (command : Command) (rest : List Command) :
    run setting state (command :: rest) =
      (step setting state command).run.andThen fun state => run setting state rest := by
  rw [run, Run.andThen, Turn.run]
  dsimp only
  by_cases aborted : (step setting state command).aborted
  · simp only [aborted, if_true]
  · simp only [aborted, Bool.false_eq_true, if_false, List.cons_append, List.nil_append]

theorem Run.andThen_assoc (before : Run) (middle last : State → Run) :
    (before.andThen middle).andThen last =
      before.andThen fun state => (middle state).andThen last := by
  unfold Run.andThen
  by_cases aborted : before.aborted
  · simp only [aborted, if_true]
  · by_cases later : (middle before.state).aborted
    · simp only [aborted, later, if_true, Bool.false_eq_true, if_false]
    · simp only [aborted, later, Bool.false_eq_true, if_false, List.append_assoc]

/-- **Commands in two parts**: the second part begins in the state that the first has left. -/
theorem run_append (setting : Setting) (state : State) (first second : List Command) :
    run setting state (first ++ second) =
      (run setting state first).andThen fun state => run setting state second := by
  induction first generalizing state with
  | nil => rfl
  | cons command rest hypothesis =>
    simp only [List.cons_append, run_cons, hypothesis, Run.andThen_assoc]

/-! ### Sessions that survive -/

/-- None of the commands aborts the program. -/
def Survives (setting : Setting) (state : State) (commands : List Command) : Prop :=
  (run setting state commands).aborted = false

/-- **A session that survives ends with the exit code zero**, and any other ends without one. -/
theorem exitCode_conduct {input : Bytes} :
    ((conduct setting state input).exitCode = some 0 ↔
        Survives setting state (Command.script input)) ∧
      ((conduct setting state input).exitCode = none ↔
        (run setting state (Command.script input)).aborted = true) := by
  have exit : (conduct setting state input).exitCode =
      if (run setting state (Command.script input)).aborted then none else some 0 := rfl
  rw [exit, Survives]
  cases (run setting state (Command.script input)).aborted with
  | true => simp only [if_true, reduceCtorEq, and_self]
  | false => simp only [Bool.false_eq_true, if_false, reduceCtorEq, and_self]

theorem Run.andThen_of_aborted {before : Run} (aborted : before.aborted = true)
    (further : State → Run) : before.andThen further = before := by
  rw [andThen, if_pos aborted]

theorem Run.andThen_of_not_aborted {before : Run} (survives : before.aborted = false)
    (further : State → Run) :
    before.andThen further =
      ⟨before.outputs ++ (further before.state).outputs, (further before.state).state,
        (further before.state).aborted⟩ := by
  rw [andThen, survives, if_neg Bool.false_ne_true]

theorem run_cons_of_aborted {command : Command} (aborts : (step setting state command).aborted)
    (rest : List Command) : run setting state (command :: rest) =
      (step setting state command).run := by
  rw [run_cons, Run.andThen_of_aborted aborts]

theorem run_cons_of_goes {command : Command}
    (goes : (step setting state command).aborted = false) (rest : List Command) :
    run setting state (command :: rest) =
      ⟨(step setting state command).output ::
          (run setting (step setting state command).state rest).outputs,
        (run setting (step setting state command).state rest).state,
        (run setting (step setting state command).state rest).aborted⟩ := by
  rw [run_cons, Run.andThen_of_not_aborted goes]
  rfl

theorem survives_cons {command : Command} {rest : List Command} :
    Survives setting state (command :: rest) ↔
      (step setting state command).aborted = false ∧
        Survives setting (step setting state command).state rest := by
  unfold Survives
  cases goes : (step setting state command).aborted with
  | true =>
    rw [run_cons_of_aborted goes]
    exact iff_of_false (fun same => by rw [Turn.run, goes] at same; cases same)
      fun both => by cases both.1
  | false =>
    rw [run_cons_of_goes goes]
    exact (and_iff_right rfl).symm

theorem Survives.run_append {first : List Command} (survives : Survives setting state first)
    (second : List Command) :
    run setting state (first ++ second) =
      ⟨(run setting state first).outputs ++
          (run setting (run setting state first).state second).outputs,
        (run setting (run setting state first).state second).state,
        (run setting (run setting state first).state second).aborted⟩ := by
  rw [Session.run_append, Run.andThen_of_not_aborted survives]

theorem survives_append {first second : List Command} :
    Survives setting state (first ++ second) ↔
      Survives setting state first ∧ Survives setting (run setting state first).state second := by
  constructor
  · intro survives
    have goes : Survives setting state first := by
      cases aborted : (run setting state first).aborted with
      | false => exact aborted
      | true =>
        rw [Survives, run_append, Run.andThen_of_aborted aborted, aborted] at survives
        cases survives
    refine ⟨goes, ?_⟩
    rw [Survives, goes.run_append] at survives
    exact survives
  · rintro ⟨goes, further⟩
    rw [Survives, goes.run_append]
    exact further

theorem Survives.length_outputs {commands : List Command}
    (survives : Survives setting state commands) :
    (run setting state commands).outputs.length = commands.length := by
  induction commands generalizing state with
  | nil => rfl
  | cons command rest hypothesis =>
    obtain ⟨goes, further⟩ := survives_cons.mp survives
    rw [run_cons_of_goes goes, List.length_cons, hypothesis further, List.length_cons]

/-- The output of a command that is performed after others. -/
theorem Survives.getElem?_outputs {earlier : List Command}
    (survives : Survives setting state earlier) (command : Command) (later : List Command) :
    (run setting state (earlier ++ command :: later)).outputs[earlier.length]? =
      some (step setting (run setting state earlier).state command).output := by
  have behind := survives.length_outputs
  rw [survives.run_append, List.getElem?_append_right (Nat.le_of_eq behind), behind, Nat.sub_self]
  cases goes : (step setting (run setting state earlier).state command).aborted with
  | true =>
    rw [run_cons_of_aborted goes]
    rfl
  | false =>
    rw [run_cons_of_goes goes]
    rfl

/-! ### The states of a session -/

/-- The commands that are performed, each with the state that it meets. -/
def history (setting : Setting) (state : State) : List Command → List (State × Command)
  | [] => []
  | command :: rest =>
    (state, command) ::
      if (step setting state command).aborted then []
      else history setting (step setting state command).state rest

/-- The commands that are performed are the first of those that were read. -/
theorem history_begins (setting : Setting) (state : State) (commands : List Command) :
    (history setting state commands).map Prod.snd <+: commands := by
  induction commands generalizing state with
  | nil => exact List.prefix_rfl
  | cons command rest hypothesis =>
    rw [history, List.map_cons]
    refine List.cons_prefix_cons.mpr ⟨rfl, ?_⟩
    split
    · exact List.nil_prefix
    · exact hypothesis _

/-- **All commands are performed** if none of them aborts the program. -/
theorem Survives.history_map {commands : List Command}
    (survives : Survives setting state commands) :
    (history setting state commands).map Prod.snd = commands := by
  induction commands generalizing state with
  | nil => rfl
  | cons command rest hypothesis =>
    obtain ⟨goes, further⟩ := survives_cons.mp survives
    rw [history, goes, if_neg Bool.false_ne_true, List.map_cons, hypothesis further]

/-- **The program is aborted** exactly if one of the performed commands aborts it. -/
theorem aborted_iff (commands : List Command) :
    (run setting state commands).aborted = true ↔
      ∃ moment ∈ history setting state commands,
        (step setting moment.1 moment.2).aborted = true := by
  induction commands generalizing state with
  | nil => exact iff_of_false Bool.false_ne_true (by rintro ⟨_, member, _⟩; cases member)
  | cons command rest hypothesis =>
    rw [history]
    cases goes : (step setting state command).aborted with
    | true =>
      rw [run_cons_of_aborted goes]
      exact iff_of_true goes ⟨(state, command), List.mem_cons_self, goes⟩
    | false =>
      rw [run_cons_of_goes goes, if_neg Bool.false_ne_true]
      simp only [hypothesis, List.mem_cons, exists_eq_or_imp, goes, Bool.false_eq_true, false_or]

end Session

end StorageBlock
