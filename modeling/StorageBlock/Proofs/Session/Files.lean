/-
**What a session does to the files.**

* `Session.LastStored`: the description that was last stored at a location;
* `Session.OnlyWrites`: files that have changed by successful writes and by nothing else;
* `Session.run_onlyWrites`: so they do by any commands, from any state;
* `Session.start_files`: and by the program, whatever its arguments and its input.
-/

import StorageBlock.Proofs.Session.Effect
import StorageBlock.Proofs.Session.History

namespace StorageBlock.Session

variable {setting : Setting} {state : State} {location : Location}

/-! ### What is stored at a location -/

/-- No command of a history stores anything at the location. -/
def Untouched (setting : Setting) (past : List (State × Command)) (location : Location) : Prop :=
  ∀ moment ∈ past, ∀ block, ¬StoresAt setting moment.1 location moment.2 block

/-- The block is described by the last command of a history that stores anything at the
location. -/
def LastStored (setting : Setting) (past : List (State × Command)) (location : Location)
    (block : Block) : Prop :=
  ∃ (earlier : List (State × Command)) (state : State) (command : Command)
    (later : List (State × Command)), past = earlier ++ (state, command) :: later ∧
      StoresAt setting state location command block ∧ Untouched setting later location

theorem untouched_cons {moment : State × Command} {past : List (State × Command)} :
    Untouched setting (moment :: past) location ↔
      (∀ block, ¬StoresAt setting moment.1 location moment.2 block) ∧
        Untouched setting past location := List.forall_mem_cons

theorem LastStored.cons {past : List (State × Command)} {block : Block}
    (stored : LastStored setting past location block) (moment : State × Command) :
    LastStored setting (moment :: past) location block := by
  obtain ⟨earlier, state, command, later, rfl, stores, untouched⟩ := stored
  exact ⟨moment :: earlier, state, command, later, rfl, stores, untouched⟩

theorem StoresAt.encode_length {command : Command} {block : Block}
    (stores : StoresAt setting state location command block) :
    block.encode.length = if block.checksum.isSome then 60 else 28 := by
  cases stores with
  | write => exact described_encode_length _ _ _ _ _ _

/-! ### One command -/

/-- No command makes or removes a directory. -/
theorem step_sameDirectories (setting : Setting) (state : State) (command : Command) :
    FileTree.SameDirectories (step setting state command).state.files state.files := by
  rcases step_files setting state command with ⟨location, block, stores, stored⟩ | ⟨_, kept⟩
  · rw [stored]
    exact FileTree.sameDirectories_put stores.step_eq.1 _
  · rw [kept]
    exact .refl _

theorem step_lookup?_of_stores {command : Command} {block : Block}
    (stores : StoresAt setting state location command block) :
    (step setting state command).state.files.lookup? location = some (.file block.encode) := by
  obtain ⟨free, out, effect⟩ := stores.step_eq
  rw [effect, FileTree.lookup?_put_file free, if_pos rfl]

/-- A command keeps what stands at a location where it stores nothing. -/
theorem step_lookup?_of_not_stores {command : Command}
    (elsewhere : ∀ block, ¬StoresAt setting state location command block) :
    (step setting state command).state.files.lookup? location = state.files.lookup? location := by
  rcases step_files setting state command with ⟨reached, block, stores, stored⟩ | ⟨_, kept⟩
  · have other : location ≠ reached := by
      rintro rfl
      exact elsewhere block stores
    rw [stored, FileTree.lookup?_put_file stores.step_eq.1, if_neg other]
  · rw [kept]

/-! ### All commands -/

theorem run_sameDirectories (setting : Setting) (state : State) (commands : List Command) :
    FileTree.SameDirectories (run setting state commands).state.files state.files := by
  induction commands generalizing state with
  | nil => exact .refl _
  | cons command rest hypothesis =>
    have step := step_sameDirectories setting state command
    cases goes : (Session.step setting state command).aborted with
    | true =>
      rw [run_cons_of_aborted goes]
      exact step
    | false =>
      rw [run_cons_of_goes goes]
      exact (hypothesis _).trans step

/-- What stands at a location stays there as long as nothing is stored there. -/
theorem run_lookup?_of_untouched (commands : List Command)
    (untouched : Untouched setting (history setting state commands) location) :
    (run setting state commands).state.files.lookup? location = state.files.lookup? location := by
  induction commands generalizing state with
  | nil => rfl
  | cons command rest hypothesis =>
    rw [history] at untouched
    obtain ⟨elsewhere, later⟩ := untouched_cons.mp untouched
    have kept := step_lookup?_of_not_stores elsewhere
    cases goes : (step setting state command).aborted with
    | true =>
      rw [run_cons_of_aborted goes]
      exact kept
    | false =>
      rw [goes, if_neg Bool.false_ne_true] at later
      rw [run_cons_of_goes goes]
      exact (hypothesis later).trans kept

/-- What was last stored at a location stands there in the end. -/
theorem run_lookup?_of_touched (commands : List Command)
    (touched : ¬Untouched setting (history setting state commands) location) :
    ∃ block, LastStored setting (history setting state commands) location block ∧
      (run setting state commands).state.files.lookup? location = some (.file block.encode) := by
  induction commands generalizing state with
  | nil => exact absurd (List.forall_mem_nil _) touched
  | cons command rest hypothesis =>
    rw [history] at touched ⊢
    -- Either something is stored there later on, or this command is the last to do so.
    have last (further : List (State × Command)) (later : Untouched setting further location)
        (here : ¬Untouched setting ((state, command) :: further) location) :
        ∃ block, LastStored setting ((state, command) :: further) location block ∧
          (step setting state command).state.files.lookup? location =
            some (.file block.encode) := by
      obtain ⟨block, stores⟩ : ∃ block, StoresAt setting state location command block :=
        Classical.byContradiction fun nothing =>
          here (untouched_cons.mpr ⟨not_exists.mp nothing, later⟩)
      exact ⟨block, ⟨[], state, command, _, rfl, stores, later⟩, step_lookup?_of_stores stores⟩
    cases goes : (step setting state command).aborted with
    | true =>
      rw [goes, if_pos rfl] at touched
      rw [run_cons_of_aborted goes, if_pos rfl]
      exact last [] (List.forall_mem_nil _) touched
    | false =>
      rw [goes, if_neg Bool.false_ne_true] at touched
      rw [run_cons_of_goes goes, if_neg Bool.false_ne_true]
      by_cases later : Untouched setting
          (history setting (step setting state command).state rest) location
      · obtain ⟨block, stored, holds⟩ := last _ later touched
        exact ⟨block, stored, (run_lookup?_of_untouched rest later).trans holds⟩
      · obtain ⟨block, stored, holds⟩ := hypothesis later
        exact ⟨block, stored.cons (state, command), holds⟩

/-- Files have changed by the successful writes of a history and by nothing else. -/
structure OnlyWrites (setting : Setting) (before : FileTree) (past : List (State × Command))
    (after : FileTree) : Prop where
  /-- What no `write` has reached is what it was: the file with its bytes, the directory, or
  nothing. -/
  kept (location : Location) (untouched : Untouched setting past location) :
    after.lookup? location = before.lookup? location
  /-- Every other file holds exactly what was last stored there. -/
  written (location : Location) (touched : ¬Untouched setting past location) :
    ∃ block, LastStored setting past location block ∧
      after.lookup? location = some (.file block.encode) ∧
      block.encode.length = if block.checksum.isSome then 60 else 28
  /-- No directory is made or removed. -/
  directories : FileTree.SameDirectories after before
  /-- No file disappears. -/
  files_stay (location : Location) (content : Bytes)
    (held : before.file? location = some content) : ∃ bytes, after.file? location = some bytes
  /-- A command that complains, at whatever point, leaves every file as it was. -/
  complaints (state : State) (command : Command) (performed : (state, command) ∈ past)
    (complains : (step setting state command).output.complaints ≠ []) :
    (step setting state command).state.files = state.files

theorem run_onlyWrites (setting : Setting) (state : State) (commands : List Command) :
    OnlyWrites setting state.files (history setting state commands)
      (run setting state commands).state.files where
  kept _ untouched := run_lookup?_of_untouched commands untouched
  written _ touched := by
    obtain ⟨block, stored, holds⟩ := run_lookup?_of_touched commands touched
    refine ⟨block, stored, holds, ?_⟩
    obtain ⟨_, _, _, _, _, stores, _⟩ := stored
    exact stores.encode_length
  directories := run_sameDirectories setting state commands
  files_stay location content held := by
    by_cases untouched : Untouched setting (history setting state commands) location
    · refine ⟨content, ?_⟩
      rw [FileTree.file?, run_lookup?_of_untouched commands untouched]
      exact held
    · obtain ⟨block, _, holds⟩ := run_lookup?_of_touched commands untouched
      refine ⟨block.encode, ?_⟩
      rw [FileTree.file?, holds]
  complaints _ _ _ complains := step_files_of_complaint complains

/-- **Files only change through successful writes.** After the program has run, with whatever
arguments and on whatever input, every location holds what it held, or the description that a
`write` has last stored there. With too many arguments nothing changes at all. -/
theorem start_files (arguments : List Bytes) (clock : Nat → Int64) (files : FileTree)
    (input : Bytes) :
    match directory? arguments with
    | none => (start arguments clock files input).files = files
    | some directory =>
      OnlyWrites ⟨directory, clock⟩ files
        (history ⟨directory, clock⟩ ⟨files, false, 0⟩ (Command.script input))
        (start arguments clock files input).files := by
  cases named : directory? arguments with
  | none => simp only [start, named]
  | some directory =>
    rw [start_eq_conduct named]
    exact run_onlyWrites ⟨directory, clock⟩ ⟨files, false, 0⟩ (Command.script input)

end StorageBlock.Session
