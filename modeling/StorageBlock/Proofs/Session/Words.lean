/-
**What is typed, and what is read.**

Words are typed with blanks between them, and numbers in more than one way: with a sign or without,
and with any zeros in front.

* `Words`: an input that begins with given words (`word?_eq_some`: what the reader takes for one);
* `TypesInt`: the spellings of a number (`typesInt_iff`: a sign, or none, and digits;
  `number_of_types`: each is read as this number);
* `Reads`: an input from which given commands are read one after another (`script_of_reads`).
-/

import Mathlib.Data.List.TakeWhile
import StorageBlock.Proofs.Decimal.Numerals
import StorageBlock.Proofs.Session.Lookahead

namespace StorageBlock.Session

open Decimal

variable {input gap typed mark unsigned rest : Bytes}

/-! ### Readings one after another -/

theorem bind_of_ok {α β : Type} {reading : Reading α} {value : α}
    (read : reading input = .ok value rest) (next : α → Reading β) :
    (reading >>= next) input = next value rest := by
  show EStateM.bind reading next input = _
  rw [EStateM.bind, read]

theorem bind_of_error {α β : Type} {reading : Reading α}
    (failed : reading input = .error () rest) (next : α → Reading β) :
    (reading >>= next) input = .error () rest := by
  show EStateM.bind reading next input = _
  rw [EStateM.bind, failed]

/-! ### Words -/

/-- Nothing but blanks. -/
def IsGap (gap : Bytes) : Prop := ∀ byte ∈ gap, isBlank byte = true

/-- One or more bytes, none of them a blank. -/
structure IsWord (typed : Bytes) : Prop where
  ne_nil : typed ≠ []
  solid : ∀ byte ∈ typed, isBlank byte = false

/-- The input does not go on with a byte of a word. -/
def EndsWord (rest : Bytes) : Prop := ∀ byte ∈ rest.head?, isBlank byte = true

instance (gap : Bytes) : Decidable (IsGap gap) :=
  decidable_of_iff (gap.all isBlank = true) List.all_eq_true

instance (typed : Bytes) : Decidable (IsWord typed) :=
  decidable_of_iff (typed ≠ [] ∧ typed.any isBlank = false)
    ⟨fun ⟨nonempty, solid⟩ => ⟨nonempty, by simpa using solid⟩,
      fun word => ⟨word.ne_nil, by simpa using word.solid⟩⟩

instance (rest : Bytes) : Decidable (EndsWord rest) :=
  decidable_of_iff (rest.head?.all isBlank = true) (Option.all_eq_true _ _)

theorem endsWord_gap (blank : IsGap gap) (nonempty : gap ≠ []) (rest : Bytes) :
    EndsWord (gap ++ rest) := by
  obtain ⟨first, gap, rfl⟩ := List.exists_cons_of_ne_nil nonempty
  intro byte same
  obtain rfl := Option.some.inj same
  exact blank _ List.mem_cons_self

theorem isDigit_of_isBlank {byte : UInt8} (blank : isBlank byte = true) :
    isDigit byte = false := by
  have range : byte = 32 ∨ 9 ≤ byte ∧ byte ≤ 13 := by simpa [isBlank] using blank
  rcases range with rfl | ⟨_, low⟩
  · rfl
  · have below : byte.toNat ≤ 13 := UInt8.le_iff_toNat_le.mp low
    refine eq_false_of_ne_true fun digit => ?_
    have above := (isDigit_iff.mp digit).1
    omega

theorem EndsWord.endsNumber (ended : EndsWord rest) : EndsNumber rest :=
  fun byte first => isDigit_of_isBlank (ended byte first)

/-- Blanks in front of a word, or at the end of the input, are passed over. -/
theorem skipBlanks_append (blank : IsGap gap) (solid : ∀ byte ∈ rest.head?, isBlank byte = false) :
    skipBlanks (gap ++ rest) = rest := (span_append blank solid).2

theorem IsWord.head (word : IsWord typed) (rest : Bytes) :
    ∀ byte ∈ (typed ++ rest).head?, isBlank byte = false := by
  obtain ⟨first, typed, rfl⟩ := List.exists_cons_of_ne_nil word.ne_nil
  intro byte same
  obtain rfl := Option.some.inj same
  exact word.solid _ List.mem_cons_self

theorem word?_of_typed (blank : IsGap gap) (word : IsWord typed) (ended : EndsWord rest) :
    word? (gap ++ (typed ++ rest)) = some (typed, rest) := by
  rw [word?, skipBlanks_append blank (word.head rest)]
  obtain ⟨first, typed, rfl⟩ := List.exists_cons_of_ne_nil word.ne_nil
  have inside : ∀ byte ∈ typed, (!isBlank byte) = true := fun byte member => by
    rw [word.solid byte (List.mem_cons_of_mem _ member), Bool.not_false]
  have boundary : ∀ byte ∈ rest.head?, (!isBlank byte) = false := fun byte same => by
    rw [ended byte same, Bool.not_true]
  obtain ⟨run, left⟩ := span_append inside boundary
  show some (first :: (typed ++ rest).takeWhile _, (typed ++ rest).dropWhile _) = _
  rw [run, left]

/-- **What the reader takes for a word**: the first run of bytes that are no blanks. -/
theorem word?_eq_some :
    word? input = some (typed, rest) ↔
      ∃ gap, IsGap gap ∧ IsWord typed ∧ EndsWord rest ∧ input = gap ++ (typed ++ rest) := by
  constructor
  · intro found
    have split := List.takeWhile_append_dropWhile (p := isBlank) (l := input)
    have solid : ∀ byte ∈ (skipBlanks input).head?, isBlank byte = false := head?_dropWhile
    rw [word?] at found
    rw [← skipBlanks] at split
    split at found
    next => cases found
    next byte tail remaining =>
      obtain ⟨rfl, rfl⟩ := Prod.mk.inj (Option.some.inj found)
      rw [remaining] at split solid
      refine ⟨input.takeWhile isBlank, List.all_eq_true.mp List.all_takeWhile,
        ⟨List.cons_ne_nil _ _, List.forall_mem_cons.mpr ⟨solid byte rfl, ?_⟩⟩, ?_, ?_⟩
      · intro other inside
        simpa using List.all_eq_true.mp (List.all_takeWhile (p := fun byte => !isBlank byte)) _
          inside
      · intro other first
        simpa using head?_dropWhile other first
      · rw [List.cons_append, List.takeWhile_append_dropWhile, split]
  · rintro ⟨gap, blank, word, ended, rfl⟩
    exact word?_of_typed blank word ended

theorem word?_eq_none : word? input = none ↔ IsGap input := by
  rw [word?, IsGap]
  constructor
  · intro missing
    split at missing
    next remaining => exact List.dropWhile_eq_nil_iff.mp remaining
    next => cases missing
  · intro blank
    rw [skipBlanks, List.dropWhile_eq_nil_iff.mpr blank]

/-- An input that begins with words, each behind blanks, and what is behind the last of them. -/
inductive Words : Bytes → List Bytes → Bytes → Prop where
  | nil (rest : Bytes) : Words rest [] rest
  | cons {gap typed behind rest : Bytes} {others : List Bytes} (blank : IsGap gap)
    (word : IsWord typed) (ended : EndsWord behind) (further : Words behind others rest) :
    Words (gap ++ (typed ++ behind)) (typed :: others) rest

theorem Words.of_word? {behind : Bytes} {others : List Bytes}
    (found : word? input = some (typed, behind)) (further : Words behind others rest) :
    Words input (typed :: others) rest := by
  obtain ⟨gap, blank, word, ended, rfl⟩ := word?_eq_some.mp found
  exact .cons blank word ended further

theorem Words.word {others : List Bytes} (words : Words input (typed :: others) rest) :
    ∃ behind, Session.word input = .ok typed behind ∧ Words behind others rest := by
  cases words with
  | @cons gap _ behind _ _ blank word ended further =>
    refine ⟨behind, ?_, further⟩
    rw [Session.word, word?_of_typed blank word ended]

/-! ### Signs -/

/-- A sign in front of the rest, or nothing where it does not begin with one. -/
inductive Marks : Bytes → Bytes → Prop where
  | bare {rest : Bytes} (plain : ∀ byte ∈ rest.head?, byte ≠ 43 ∧ byte ≠ 45) : Marks [] rest
  | plus (rest : Bytes) : Marks (ascii "+") rest
  | minus (rest : Bytes) : Marks (ascii "-") rest

theorem exists_marks (input : Bytes) : ∃ mark rest, Marks mark rest ∧ input = mark ++ rest := by
  cases input with
  | nil => exact ⟨[], [], .bare (fun byte first => nomatch first), rfl⟩
  | cons byte rest =>
    by_cases plus : byte = 43
    · exact ⟨ascii "+", rest, .plus rest, by rw [plus]; rfl⟩
    by_cases minus : byte = 45
    · exact ⟨ascii "-", rest, .minus rest, by rw [minus]; rfl⟩
    refine ⟨[], byte :: rest, .bare fun other first => ?_, rfl⟩
    obtain rfl := Option.some.inj first
    exact ⟨plus, minus⟩

theorem Marks.sign (marks : Marks mark rest) :
    Session.sign (mark ++ rest) = (decide (mark = ascii "-"), rest) := by
  cases marks with
  | bare plain =>
    cases rest with
    | nil => rfl
    | cons byte rest =>
      obtain ⟨plus, minus⟩ := plain byte rfl
      exact sign_cons_of_ne minus plus rest
  | plus => rfl
  | minus => rfl

/-- What is behind the digits does not change the sign. -/
theorem marks_append {digits : Digits} (rest : Bytes) :
    Marks mark (digits.text ++ rest) ↔ Marks mark digits.text := by
  obtain ⟨first, others, shape⟩ := List.exists_cons_of_ne_nil digits.text_ne_nil
  rw [shape, List.cons_append]
  constructor
  all_goals
    intro marks
    cases marks with
    | bare plain => exact .bare plain
    | plus => exact .plus _
    | minus => exact .minus _

/-! ### Numbers -/

/-- The byte string is digits, with a sign in front of them or without, and `number` is the signed
value. -/
inductive TypesInt : Bytes → Int → Prop where
  | plain {spelling : Bytes} {number : Int} (spells : SpellsInt spelling number) :
    TypesInt spelling number
  | plus {spelling : Bytes} {number : Nat} (unsigned : SpellsNat spelling number) :
    TypesInt (ascii "+" ++ spelling) number

/-- The number of a sign and digits. -/
def signedValue (mark : Bytes) (digits : Digits) : Int :=
  Numeral.value ⟨decide (mark = ascii "-"), digits⟩

/-- **The spellings of a number** are a sign, or none, and digits. -/
theorem typesInt_iff {number : Int} :
    TypesInt typed number ↔ ∃ mark digits, Marks mark digits.text ∧ typed = mark ++ digits.text ∧
      signedValue mark digits = number := by
  have bare (digits : Digits) : Marks [] digits.text := .bare fun byte first => by
    have decimal := List.all_eq_true.mp digits.all_isDigit byte (List.mem_of_mem_head? first)
    constructor
    · rintro rfl
      cases decimal
    · rintro rfl
      cases decimal
  constructor
  · intro types
    cases types with
    | plain spells =>
      cases spells with
      | plain unsigned =>
        obtain ⟨digits, rfl, rfl⟩ := spellsNat_iff.mp unsigned
        exact ⟨[], digits, bare digits, rfl, rfl⟩
      | negated unsigned =>
        obtain ⟨digits, rfl, rfl⟩ := spellsNat_iff.mp unsigned
        exact ⟨ascii "-", digits, .minus _, rfl, rfl⟩
    | plus unsigned =>
      obtain ⟨digits, rfl, rfl⟩ := spellsNat_iff.mp unsigned
      exact ⟨ascii "+", digits, .plus _, rfl, rfl⟩
  · rintro ⟨mark, digits, marks, rfl, rfl⟩
    have spells : SpellsNat digits.text digits.value := spellsNat_iff.mpr ⟨digits, rfl, rfl⟩
    generalize shape : digits.text = text at marks spells
    cases marks with
    | bare => exact .plain (.plain spells)
    | plus => exact .plus spells
    | minus => exact .plain (.negated spells)

theorem TypesInt.isWord {number : Int} (types : TypesInt typed number) : IsWord typed := by
  obtain ⟨mark, digits, marks, rfl, _⟩ := typesInt_iff.mp types
  refine ⟨fun empty => digits.text_ne_nil (List.append_eq_nil_iff.mp empty).2,
    fun byte member => ?_⟩
  rcases List.mem_append.mp member with sign | digit
  · cases marks with
    | bare => cases sign
    | plus => rw [List.mem_singleton.mp sign]; rfl
    | minus => rw [List.mem_singleton.mp sign]; rfl
  · refine eq_false_of_ne_true fun blank => ?_
    have other := isDigit_of_isBlank blank
    rw [List.all_eq_true.mp digits.all_isDigit byte digit] at other
    cases other

/-- **What is read** behind blanks and a sign. -/
theorem number_marked (blank : IsGap gap) (marks : Marks mark unsigned)
    (solid : ∀ byte ∈ (mark ++ unsigned).head?, isBlank byte = false) :
    number (gap ++ (mark ++ unsigned)) =
      match Digits.read? unsigned with
      | none => .error () unsigned
      | some (digits, rest) =>
        match Decimal.int64? (signedValue mark digits) with
        | some value => .ok value rest
        | none => .error () rest := by
  simp only [number, skipBlanks_append blank solid, marks.sign]
  rfl

/-- Every spelling of a number that fits is read as this number, and no other is read. -/
theorem number_spelled {value : Int} (blank : IsGap gap) (types : TypesInt typed value)
    (ended : EndsNumber rest) :
    number (gap ++ (typed ++ rest)) =
      match int64? value with
      | some word => .ok word rest
      | none => .error () rest := by
  have solid := types.isWord.head rest
  obtain ⟨mark, digits, marks, rfl, rfl⟩ := typesInt_iff.mp types
  rw [List.append_assoc] at solid ⊢
  rw [number_marked blank ((marks_append rest).mpr marks) solid,
    Digits.read?_eq_some.mpr ⟨rfl, ended⟩]

/-- **Every spelling of a number is read as this number.** -/
theorem number_of_types {value : Int64} (blank : IsGap gap) (types : TypesInt typed value.toInt)
    (ended : EndsNumber rest) : number (gap ++ (typed ++ rest)) = .ok value rest := by
  rw [number_spelled blank types ended, int64?_eq_some.mpr rfl]

theorem Words.number {others : List Bytes} {value : Int64}
    (words : Words input (typed :: others) rest) (types : TypesInt typed value.toInt) :
    ∃ behind, Session.number input = .ok value behind ∧ Words behind others rest := by
  cases words with
  | @cons gap _ behind _ _ blank word ended further =>
    exact ⟨behind, number_of_types blank types ended.endsNumber, further⟩

/-! ### Lines -/

/-- The text consists of whole lines. -/
def EndsLine (text : Bytes) : Prop := text = [] ∨ text.getLast? = some 10

theorem EndsLine.suffix (ended : EndsLine input) (within : rest <:+ input) : EndsLine rest := by
  obtain ⟨front, rfl⟩ := within
  by_cases empty : rest = []
  · exact .inl empty
  · refine ended.imp (fun nothing => (List.append_eq_nil_iff.mp nothing).2) fun feed => ?_
    rwa [List.getLast?_append, List.getLast?_eq_some_getLast empty, Option.some_or,
      ← List.getLast?_eq_some_getLast empty] at feed

theorem EndsLine.append {first second : Bytes} (one : EndsLine first) (other : EndsLine second) :
    EndsLine (first ++ second) := by
  rcases other with rfl | feed
  · rwa [List.append_nil]
  · right
    rw [List.getLast?_append, feed, Option.some_or]

/-- A text is whole if it ends with a whole line. -/
theorem endsLine_append (text : Bytes) {line : Bytes} (feed : line.getLast? = some 10) :
    EndsLine (text ++ line) := by
  right
  rw [List.getLast?_append, feed, Option.some_or]

/-! ### Commands -/

open Command

theorem next?_eq_none : next? input = none ↔ IsGap input := by
  rw [next?, ← word?_eq_none]
  cases word? input <;> simp

theorem script_nil (ended : next? input = none) : script input = [] := by
  rw [script]
  split
  next => rfl
  next found => rw [ended] at found; cases found
  next found => rw [ended] at found; cases found

theorem script_quit (found : next? input = some (quit, rest)) : script input = [quit] := by
  rw [script]
  split
  next missing => rw [found] at missing; cases missing
  next => rfl
  next other same =>
    rw [found] at same
    exact absurd (Prod.mk.inj (Option.some.inj same)).1.symm other

theorem script_cons {command : Command} (found : next? input = some (command, rest))
    (goes : command ≠ quit) : script input = command :: script rest := by
  rw [script]
  split
  next missing => rw [found] at missing; cases missing
  next same =>
    rw [found] at same
    exact absurd (Prod.mk.inj (Option.some.inj same)).1 goes
  next _ same =>
    rw [found] at same
    obtain ⟨rfl, rfl⟩ := Prod.mk.inj (Option.some.inj same)
    rfl

/-- An input from which commands are read one after another, none of them `quit`, and what has not
been read then. -/
inductive Reads : Bytes → List Command → Bytes → Prop where
  | nil (rest : Bytes) : Reads rest [] rest
  | cons {input middle rest : Bytes} {command : Command} {commands : List Command}
    (first : next? input = some (command, middle)) (goes : command ≠ quit)
    (further : Reads middle commands rest) : Reads input (command :: commands) rest

theorem Reads.snoc {before : List Command} (earlier : Reads input before text)
    (found : next? text = some (command, rest)) (goes : command ≠ quit) :
    Reads input (before ++ [command]) rest := by
  induction earlier with
  | nil => exact .cons found goes (.nil _)
  | cons first going _ hypothesis => exact .cons first going (hypothesis found)

/-- **The commands of an input** are those that have been read and those of the rest. -/
theorem script_of_reads {commands : List Command} (reads : Reads input commands rest) :
    script input = commands ++ script rest := by
  induction reads with
  | nil => rfl
  | cons first goes _ hypothesis => rw [script_cons first goes, hypothesis, List.cons_append]

end StorageBlock.Session
