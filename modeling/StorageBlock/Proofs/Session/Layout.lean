/-
**The layout of the input does not matter.**

Blanks only separate words: a session does the same on two inputs of the same words, whatever
blanks stand between them and around them, as long as no operands are unreadable. Those are the
exception because the rest of their line is passed over, and a line is a matter of layout.

A number may end inside a word, whose rest is read next. So two readers of such inputs are compared
in the middle of a word as well (`Aligned`).

* `LaidOut`: an input of given words, and `SameWords`: two inputs of the same words;
* `Relates`: a reading that gives the same on related inputs (`Relates.bind`: step by step);
* `script_of_sameWords`: the commands of such inputs;
* `conduct_layout`: the sessions on them.
-/

import StorageBlock.Proofs.Session.History
import StorageBlock.Proofs.Session.Words

namespace StorageBlock.Session

open Command

variable {α β : Type} {first second gap typed rest other : Bytes}

/-! ### Inputs of the same words -/

/-- The input consists of these words, of blanks between them, and of any blanks around them. -/
def LaidOut (words : List Bytes) (input : Bytes) : Prop :=
  ∃ rest, Words input words rest ∧ IsGap rest

/-- Two inputs of the same words. -/
def SameWords (first second : Bytes) : Prop :=
  ∃ words, LaidOut words first ∧ LaidOut words second

theorem isGap_nil : IsGap [] := fun _ member => nomatch member

theorem laidOut_nil {input : Bytes} : LaidOut [] input ↔ IsGap input := by
  refine ⟨fun ⟨rest, words, blank⟩ => ?_, fun blank => ⟨input, .nil input, blank⟩⟩
  cases words
  exact blank

theorem laidOut_cons {input : Bytes} {others : List Bytes} :
    LaidOut (typed :: others) input ↔ ∃ gap behind, IsGap gap ∧ IsWord typed ∧ EndsWord behind ∧
      LaidOut others behind ∧ input = gap ++ (typed ++ behind) := by
  refine ⟨fun ⟨rest, words, blank⟩ => ?_, ?_⟩
  · cases words with
    | @cons gap _ behind _ _ before word ended further =>
      exact ⟨gap, behind, before, word, ended, ⟨rest, further, blank⟩, rfl⟩
  · rintro ⟨gap, behind, before, word, ended, ⟨rest, further, blank⟩, rfl⟩
    exact ⟨rest, .cons before word ended further, blank⟩

theorem sameWords_nil : SameWords [] [] :=
  ⟨[], laidOut_nil.mpr isGap_nil, laidOut_nil.mpr isGap_nil⟩

/-- The next word of two inputs of the same words: it is the same, and so are the words behind. -/
theorem SameWords.word? (same : SameWords first second) :
    word? first = none ∧ word? second = none ∨
      ∃ typed rest other, word? first = some (typed, rest) ∧ word? second = some (typed, other) ∧
        SameWords rest other := by
  obtain ⟨words, one, two⟩ := same
  cases words with
  | nil =>
    exact .inl ⟨word?_eq_none.mpr (laidOut_nil.mp one), word?_eq_none.mpr (laidOut_nil.mp two)⟩
  | cons typed others =>
    obtain ⟨gap, rest, before, word, ended, here, rfl⟩ := laidOut_cons.mp one
    obtain ⟨another, other, behind, _, closed, there, rfl⟩ := laidOut_cons.mp two
    exact .inr ⟨typed, rest, other, word?_of_typed before word ended,
      word?_of_typed behind word closed, others, here, there⟩

/-- Two inputs that go on with the same part of a word, and have the same words behind it. -/
inductive Aligned : Bytes → Bytes → Prop where
  | mk {front rest other : Bytes} (solid : ∀ byte ∈ front, isBlank byte = false)
    (ended : EndsWord rest) (closed : EndsWord other) (same : SameWords rest other) :
    Aligned (front ++ rest) (front ++ other)

/-- What is left of a word is a word. -/
theorem Aligned.sameWords (aligned : Aligned first second) : SameWords first second := by
  cases aligned with
  | @mk front rest other solid ended closed same =>
    by_cases empty : front = []
    · rw [empty]
      exact same
    · obtain ⟨words, one, two⟩ := same
      have word : IsWord front := ⟨empty, solid⟩
      exact ⟨front :: words, laidOut_cons.mpr ⟨[], rest, isGap_nil, word, ended, one, rfl⟩,
        laidOut_cons.mpr ⟨[], other, isGap_nil, word, closed, two, rfl⟩⟩

/-! ### Two readings side by side -/

/-- Both readings give the same value and leave inputs that are related, or both fail. -/
inductive Agree (after : Bytes → Bytes → Prop) :
    EStateM.Result Unit Bytes α → EStateM.Result Unit Bytes α → Prop where
  | ok {rest other : Bytes} (value : α) (left : after rest other) :
    Agree after (.ok value rest) (.ok value other)
  | error (rest other : Bytes) : Agree after (.error () rest) (.error () other)

/-- On inputs that are related, the reading does the same and leaves inputs that are related. -/
def Relates (before after : Bytes → Bytes → Prop) (reading : Reading α) : Prop :=
  ∀ first second, before first second → Agree after (reading first) (reading second)

namespace Relates

variable {before between after : Bytes → Bytes → Prop}

theorem pure (value : α) : Relates before before (Pure.pure value : Reading α) :=
  fun _ _ related => .ok value related

theorem bind {reading : Reading α} {next : α → Reading β} (one : Relates before between reading)
    (others : ∀ value, Relates between after (next value)) :
    Relates before after (reading >>= next) := by
  intro first second related
  have start := one first second related
  show Agree after (EStateM.bind reading next first) (EStateM.bind reading next second)
  unfold EStateM.bind
  generalize reading first = outcome, reading second = partner at start ⊢
  cases start with
  | ok value left => exact others value _ _ left
  | error rest other => exact .error rest other

theorem weaken {reading : Reading α} (one : Relates before between reading)
    (weaker : ∀ first second, between first second → after first second) :
    Relates before after reading := by
  intro first second related
  have start := one first second related
  generalize reading first = outcome, reading second = partner at start ⊢
  cases start with
  | ok value left => exact .ok value (weaker _ _ left)
  | error rest other => exact .error rest other

end Relates

/-! ### Words and numbers -/

theorem relates_word : Relates SameWords SameWords word := by
  intro first second same
  unfold word
  rcases same.word? with ⟨one, two⟩ | ⟨typed, rest, other, one, two, left⟩
  · rw [one, two]
    exact .error [] []
  · rw [one, two]
    exact .ok typed left

/-- Behind its blanks, a reader stands in front of a word. -/
theorem relates_past : Relates SameWords Aligned (past isBlank) := by
  rintro first second ⟨words, one, two⟩
  have aligned : Aligned (skipBlanks first) (skipBlanks second) := by
    cases words with
    | nil =>
      have nothing {input : Bytes} (blank : IsGap input) : skipBlanks input = [] :=
        List.dropWhile_eq_nil_iff.mpr blank
      rw [nothing (laidOut_nil.mp one), nothing (laidOut_nil.mp two)]
      exact @Aligned.mk [] [] [] (fun byte member => nomatch member)
        (fun byte begins => nomatch begins) (fun byte begins => nomatch begins) sameWords_nil
    | cons typed others =>
      obtain ⟨gap, rest, blank, word, ended, here, rfl⟩ := laidOut_cons.mp one
      obtain ⟨another, other, empty, _, closed, there, rfl⟩ := laidOut_cons.mp two
      rw [skipBlanks_append blank (word.head rest), skipBlanks_append empty (word.head other)]
      exact .mk word.solid ended closed ⟨others, here, there⟩
  exact .ok () aligned

/-- A sign is the first byte of a word, if it has one. -/
theorem sign_append (ended : EndsWord rest) (front : Bytes) :
    sign (front ++ rest) = ((sign front).1, (sign front).2 ++ rest) := by
  cases front with
  | nil =>
    cases rest with
    | nil => rfl
    | cons byte rest =>
      have blank : isBlank byte = true := ended byte rfl
      refine sign_cons_of_ne (fun same => ?_) (fun same => ?_) rest
      · rw [same] at blank
        cases blank
      · rw [same] at blank
        cases blank
  | cons byte front =>
    rw [List.cons_append, sign, sign]
    split
    · rfl
    · split <;> rfl

theorem sign_suffix (input : Bytes) : (sign input).2 <:+ input := nearsighted_signed.suffix input

theorem relates_signed : Relates Aligned Aligned signed := by
  rintro _ _ ⟨solid, ended, closed, same⟩
  unfold signed
  rw [sign_append ended, sign_append closed]
  have unsigned := fun byte member => solid byte ((sign_suffix _).subset member)
  exact .ok _ (.mk unsigned ended closed same)

/-- The digits at the front of a word do not depend on what is behind it. -/
theorem Digits.read?_append (ended : EndsNumber rest) (typed : Bytes) :
    Digits.read? (typed ++ rest) =
      (Digits.read? typed).map fun (digits, left) => (digits, left ++ rest) := by
  cases found : Digits.read? typed with
  | none =>
    have stops := Digits.read?_eq_none.mp found
    refine Digits.read?_eq_none.mpr fun byte begins => ?_
    cases typed with
    | nil => exact ended byte begins
    | cons letter typed => exact stops byte begins
  | some pair =>
    obtain ⟨digits, left⟩ := pair
    obtain ⟨rfl, stops⟩ := Digits.read?_eq_some.mp found
    refine Digits.read?_eq_some.mpr ⟨List.append_assoc _ _ _, fun byte begins => ?_⟩
    cases left with
    | nil => exact ended byte begins
    | cons letter left => exact stops byte begins

theorem relates_digits : Relates Aligned Aligned digits := by
  rintro _ _ ⟨solid, ended, closed, same⟩
  rename_i front rest other
  unfold digits
  rw [Digits.read?_append ended.endsNumber, Digits.read?_append closed.endsNumber]
  cases found : Digits.read? front with
  | none => exact .error _ _
  | some pair =>
    obtain ⟨magnitude, left⟩ := pair
    obtain ⟨rfl, _⟩ := Digits.read?_eq_some.mp found
    exact .ok magnitude (.mk (fun byte member => solid byte (List.mem_append_right _ member)) ended
      closed same)

theorem relates_valued (numeral : Numeral) : Relates Aligned Aligned (valued numeral) := by
  intro first second aligned
  unfold valued
  cases numeral.int64? with
  | some value => exact .ok value aligned
  | none => exact .error first second

theorem relates_number : Relates SameWords SameWords number := by
  rw [number_eq]
  exact (relates_past.bind fun _ => relates_signed.bind fun _ => relates_digits.bind fun _ =>
    relates_valued _).weaken fun _ _ => Aligned.sameWords

/-! ### Operands and commands -/

theorem relates_readDescribe : Relates SameWords SameWords readDescribe :=
  relates_word.bind fun _ => relates_number.bind fun _ => relates_number.bind fun _ => .pure _

theorem relates_readWrite : Relates SameWords SameWords readWrite :=
  relates_number.bind fun _ => relates_number.bind fun _ => relates_number.bind fun _ =>
    relates_word.bind fun _ => relates_word.bind fun _ => .pure _

/-- On inputs of the same words this gives the same command and leaves the same words, unless
operands are unreadable. -/
def Freeform (continuation : Bytes → Command × Bytes) : Prop :=
  ∀ first second, SameWords first second →
    (∀ usage, (continuation first).1 ≠ unreadable usage) →
      (continuation first).1 = (continuation second).1 ∧
        SameWords (continuation first).2 (continuation second).2

theorem freeform_pure (command : Command) : Freeform fun input => (command, input) :=
  fun _ _ same _ => ⟨rfl, same⟩

theorem freeform_operand (named : Bytes → Command) :
    Freeform fun input => (named (operand input).1, (operand input).2) := by
  intro first second same _
  dsimp only
  unfold operand
  rcases same.word? with ⟨one, two⟩ | ⟨typed, rest, other, one, two, left⟩
  · rw [one, two]
    exact ⟨rfl, sameWords_nil⟩
  · rw [one, two]
    exact ⟨rfl, left⟩

theorem freeform_orUsage {reading : Reading Command} (relates : Relates SameWords SameWords reading)
    (usage : Bytes) : Freeform (orUsage usage reading) := by
  intro first second same readable
  have agree := relates first second same
  unfold orUsage EStateM.run at readable ⊢
  generalize reading first = outcome, reading second = partner at agree readable ⊢
  cases agree with
  | ok command left => exact ⟨rfl, left⟩
  | error rest other => exact absurd rfl (readable usage)

theorem freeform_ofWord (name : Bytes) : Freeform (ofWord name) :=
  ofWord_cases freeform_pure freeform_operand (freeform_orUsage relates_readDescribe _)
    (freeform_orUsage relates_readWrite _) name

/-- The next command of two inputs of the same words. -/
theorem SameWords.next? (same : SameWords first second)
    (readable : ∀ usage rest, next? first ≠ some (unreadable usage, rest)) :
    next? first = none ∧ next? second = none ∨
      ∃ command rest other, next? first = some (command, rest) ∧
        next? second = some (command, other) ∧ SameWords rest other := by
  rw [Command.next?] at readable ⊢
  rw [Command.next?]
  rcases same.word? with ⟨one, two⟩ | ⟨typed, rest, other, one, two, left⟩
  · rw [one, two]
    exact .inl ⟨rfl, rfl⟩
  · rw [one] at readable ⊢
    rw [two]
    obtain ⟨command, words⟩ := freeform_ofWord typed rest other left fun usage unread =>
      readable usage (ofWord typed rest).2 (congrArg some (Prod.ext unread rfl))
    exact .inr ⟨(ofWord typed rest).1, (ofWord typed rest).2, (ofWord typed other).2, rfl,
      congrArg some (Prod.ext command.symm rfl), words⟩

/-- **The commands of two inputs of the same words** are the same, up to operands of the first that
are unreadable. -/
theorem script_of_sameWords (same : SameWords first second) :
    script first = script second ∨
      ∃ common usage tail others, script first = common ++ unreadable usage :: tail ∧
        script second = common ++ others := by
  induction size : first.length using Nat.strongRecOn generalizing first second with
  | ind length hypothesis =>
    subst size
    by_cases unread : ∃ usage rest, next? first = some (unreadable usage, rest)
    · obtain ⟨usage, rest, found⟩ := unread
      exact .inr ⟨[], usage, script rest, script second,
        script_cons found fun same => (nomatch same), rfl⟩
    · have readable usage rest found := unread ⟨usage, rest, found⟩
      rcases same.next? readable with ⟨one, two⟩ | ⟨command, rest, other, one, two, left⟩
      · exact .inl (by rw [script_nil one, script_nil two])
      · by_cases ends : command = quit
        · subst ends
          exact .inl (by rw [script_quit one, script_quit two])
        · rw [script_cons one ends, script_cons two ends]
          rcases hypothesis rest.length (next?_length one) left rfl with
            equal | ⟨common, usage, tail, others, before, behind⟩
          · exact .inl (congrArg _ equal)
          · exact .inr ⟨command :: common, usage, tail, others, congrArg _ before,
              congrArg _ behind⟩

/-! ### Sessions -/

/-- A session on the input prints how a command is used. -/
def PrintsUsage (setting : Setting) (state : State) (input : Bytes) : Prop :=
  ∃ usage, Output.complaint (ascii "usage: " ++ usage) ∈
    (run setting state (script input)).outputs

/-- **The layout of the input does not matter.** A session does the same on two inputs of the same
words, whatever the blanks between them and around them, if it prints on one of them no usage of a
command: it ends in the same way, prints the same, and leaves the same files. -/
theorem conduct_layout (setting : Setting) (state : State) {words : List Bytes}
    {first second : Bytes} (one : LaidOut words first) (other : LaidOut words second)
    (quiet : ¬PrintsUsage setting state first) :
    conduct setting state first = conduct setting state second := by
  have same : SameWords first second := ⟨words, one, other⟩
  rcases script_of_sameWords same with equal | ⟨common, usage, tail, others, before, behind⟩
  · rw [conduct, conduct, equal]
  · cases goes : (run setting state common).aborted with
    | true =>
      -- Both sessions are aborted before the operands that are unreadable.
      simp only [conduct, before, behind, run_append, Run.andThen_of_aborted goes]
    | false =>
      have survives : Survives setting state common := goes
      have shown := survives.getElem?_outputs (unreadable usage) tail
      rw [← before] at shown
      exact absurd ⟨usage, List.mem_of_getElem? shown⟩ quiet

/-- Among others, a word may hold two numbers, and the input may end with it or not. -/
theorem conduct_layout_two_numbers :
    let setting : Setting := ⟨ascii ".", fun _ => 0⟩
    let state : State := ⟨.empty [], true, 0⟩
    let first := ascii "describe d 5-6"
    let second := ascii "\n\tdescribe  d\r\n5-6\x0b"
    ¬PrintsUsage setting state first ∧
      conduct setting state first = conduct setting state second := by
  intro setting state first second
  have one : LaidOut [ascii "describe", ascii "d", ascii "5-6"] first :=
    ⟨[], .of_word? rfl (.of_word? rfl (.of_word? rfl (.nil _))), isGap_nil⟩
  have other : LaidOut [ascii "describe", ascii "d", ascii "5-6"] second :=
    ⟨[11], .of_word? rfl (.of_word? rfl (.of_word? rfl (.nil _))), by decide⟩
  have commands : script first = [describe (ascii "d") 5 (-6)] := by
    have found : next? first = some (describe (ascii "d") 5 (-6), []) := by rfl
    have ended : next? [] = none := by rfl
    rw [script_cons found (fun same => nomatch same), script_nil ended]
  have quiet : ¬PrintsUsage setting state first := by
    rintro ⟨usage, member⟩
    rw [commands] at member
    have answered := congrArg Output.complaints (List.mem_singleton.mp member)
    cases answered
  exact ⟨quiet, conduct_layout setting state one other quiet⟩

end StorageBlock.Session
