/-
**Operands that cannot be read.**

Where a number is asked for, a reader passes over blanks, takes a sign if there is one, and then the
longest run of digits. It stops behind the sign if there are no digits, behind the digits if the
number does not fit a word, and at the end of the input if there is nothing but blanks.

* `NoNumber`: a part of a word in which there is no number, and where a reader stops in it
  (`number_cases`: an input has a number at its front, or has none, or has nothing);
* `FailsAt`: operands of which one is missing, by their kinds (`FailsAt.split`: a reader stops on
  the line of the faulty word);
* `Expects`: a reading that fails exactly there (`expects_readDescribe`, `expects_readWrite`).
-/

import StorageBlock.Proofs.Session.Words

namespace StorageBlock.Session

open Command

variable {gap typed mark input rest : Bytes}

/-! ### Numbers -/

/-- There is no number at the front of a word: there are no digits behind a sign, or in place of
one, or the number does not fit. A reader takes the sign or the digits and leaves the rest. -/
inductive NoNumber : Bytes → Bytes → Prop where
  | digits {mark rest : Bytes} (marks : Marks mark rest) (missing : EndsNumber rest) :
    NoNumber (mark ++ rest) rest
  | range {typed rest : Bytes} {number : Int} (types : TypesInt typed number)
    (ended : EndsNumber rest) (outside : ¬FitsWord number) : NoNumber (typed ++ rest) rest

/-- The input begins with a byte of a word. -/
def BeginsWord (input : Bytes) : Prop := ∃ byte ∈ input.head?, isBlank byte = false

theorem BeginsWord.head (begins : BeginsWord input) :
    ∀ byte ∈ input.head?, isBlank byte = false := by
  obtain ⟨letter, first, solid⟩ := begins
  intro byte same
  rw [Option.mem_unique same first]
  exact solid

theorem number_of_gap (blank : IsGap gap) : number gap = .error () [] := by
  have none : ∀ byte ∈ ([] : Bytes).head?, byte ≠ 43 ∧ byte ≠ 45 := fun _ first => nomatch first
  have read := number_marked blank (.bare none) fun _ first => nomatch first
  rw [List.append_nil, List.append_nil] at read
  exact read

theorem number_of_noNumber {faulty : Bytes} (blank : IsGap gap) (begins : BeginsWord faulty)
    (missing : NoNumber faulty rest) : number (gap ++ faulty) = .error () rest := by
  cases missing with
  | digits marks missing =>
    rw [number_marked blank marks begins.head, Digits.read?_eq_none.mpr missing]
  | range types ended outside =>
    rw [number_spelled blank types ended, Decimal.int64?_eq_none.mpr outside]

/-- **What becomes of any input**: there is nothing but blanks, there is no number, or there is
one. -/
theorem number_cases (input : Bytes) :
    IsGap input ∨
      (∃ gap faulty rest, IsGap gap ∧ BeginsWord faulty ∧ NoNumber faulty rest ∧
        input = gap ++ faulty) ∨
      ∃ gap typed behind, ∃ value : Int64, IsGap gap ∧ TypesInt typed value.toInt ∧
        EndsNumber behind ∧ input = gap ++ (typed ++ behind) := by
  have split : input.takeWhile isBlank ++ skipBlanks input = input :=
    List.takeWhile_append_dropWhile
  have blank : IsGap (input.takeWhile isBlank) := List.all_eq_true.mp List.all_takeWhile
  have solid : ∀ byte ∈ (skipBlanks input).head?, isBlank byte = false := head?_dropWhile
  generalize input.takeWhile isBlank = gap at split blank
  generalize skipBlanks input = faulty at split solid
  subst split
  cases faulty with
  | nil => exact .inl (by rwa [List.append_nil])
  | cons letter others =>
    right
    have begins : BeginsWord (letter :: others) := ⟨letter, rfl, solid letter rfl⟩
    generalize letter :: others = faulty at begins
    obtain ⟨mark, unsigned, marks, rfl⟩ := exists_marks faulty
    cases found : Digits.read? unsigned with
    | none =>
      exact .inl
        ⟨gap, _, unsigned, blank, begins, .digits marks (Digits.read?_eq_none.mp found), rfl⟩
    | some pair =>
      obtain ⟨digits, rest⟩ := pair
      obtain ⟨rfl, ended⟩ := Digits.read?_eq_some.mp found
      have types : TypesInt (mark ++ digits.text) (signedValue mark digits) :=
        typesInt_iff.mpr ⟨mark, digits, (marks_append rest).mp marks, rfl, rfl⟩
      rw [← List.append_assoc mark] at begins ⊢
      cases fits : Decimal.int64? (signedValue mark digits) with
      | none =>
        exact .inl
          ⟨gap, _, rest, blank, begins, .range types ended (Decimal.int64?_eq_none.mp fits), rfl⟩
      | some value =>
        rw [← Decimal.int64?_eq_some.mp fits] at types
        exact .inr ⟨gap, _, rest, value, blank, types, ended, rfl⟩

/-! ### Operands -/

/-- What is asked for: a word, or a number. -/
inductive Operand where
  | word
  | number

namespace Operand

/-- There is no such operand at the front of the input. What is left from the faulty word on comes
first, and then what is left where a reader stops; both are nothing at the end of the input. -/
inductive Missing : Operand → Bytes → Bytes → Bytes → Prop where
  | ended (operand : Operand) {gap : Bytes} (blank : IsGap gap) : Missing operand gap [] []
  | number {gap faulty rest : Bytes} (blank : IsGap gap) (begins : BeginsWord faulty)
    (missing : NoNumber faulty rest) : Missing .number (gap ++ faulty) faulty rest

/-- There is such an operand at the front of the input, and this is behind it. -/
inductive Given : Operand → Bytes → Bytes → Prop where
  | word {gap typed behind : Bytes} (blank : IsGap gap) (word : IsWord typed)
    (ended : EndsWord behind) : Given .word (gap ++ (typed ++ behind)) behind
  | number {gap typed behind : Bytes} {value : Int64} (blank : IsGap gap)
    (types : TypesInt typed value.toInt) (ended : EndsNumber behind) :
    Given .number (gap ++ (typed ++ behind)) behind

theorem missing_or_given (operand : Operand) (input : Bytes) :
    (∃ faulty rest, Missing operand input faulty rest) ∨ ∃ behind, Given operand input behind := by
  cases operand with
  | word =>
    cases found : word? input with
    | none => exact .inl ⟨[], [], .ended .word (word?_eq_none.mp found)⟩
    | some pair =>
      obtain ⟨gap, blank, word, ended, rfl⟩ := word?_eq_some.mp found
      exact .inr ⟨pair.2, .word blank word ended⟩
  | number =>
    rcases number_cases input with blank | ⟨gap, faulty, rest, blank, begins, missing, rfl⟩ |
      ⟨gap, typed, behind, value, blank, types, ended, rfl⟩
    · exact .inl ⟨[], [], .ended .number blank⟩
    · exact .inl ⟨faulty, rest, .number blank begins missing⟩
    · exact .inr ⟨behind, .number blank types ended⟩

end Operand

/-- A reading of one operand. -/
structure Asks {α : Type} (operand : Operand) (reading : Reading α) : Prop where
  fails {input faulty rest : Bytes} (missing : operand.Missing input faulty rest) :
    reading input = .error () rest
  gives {input behind : Bytes} (given : operand.Given input behind) :
    ∃ value, reading input = .ok value behind

theorem asks_word : Asks .word word where
  fails missing := by
    cases missing with
    | ended _ blank => rw [word, word?_eq_none.mpr blank]
  gives given := by
    cases given with
    | @word _ typed _ blank word ended =>
      refine ⟨typed, ?_⟩
      rw [Session.word, word?_of_typed blank word ended]

theorem asks_number : Asks .number number where
  fails missing := by
    cases missing with
    | ended _ blank => exact number_of_gap blank
    | number blank begins missing => exact number_of_noNumber blank begins missing
  gives given := by
    cases given with
    | @number _ _ _ value blank types ended =>
      exact ⟨value, number_of_types blank types ended⟩

/-! ### Operands one after another -/

/-- One of the operands is missing, behind others that are given. -/
inductive FailsAt : List Operand → Bytes → Bytes → Bytes → Prop where
  | here {operand : Operand} {operands : List Operand} {input faulty rest : Bytes}
    (missing : operand.Missing input faulty rest) : FailsAt (operand :: operands) input faulty rest
  | later {operand : Operand} {operands : List Operand} {input behind faulty rest : Bytes}
    (given : operand.Given input behind) (further : FailsAt operands behind faulty rest) :
    FailsAt (operand :: operands) input faulty rest

/-- A reading of these operands: it fails exactly where one of them is missing, and otherwise gives
a command that can be read. -/
structure Expects (operands : List Operand) (reading : Reading Command) : Prop where
  fails (input rest : Bytes) :
    reading input = .error () rest ↔ ∃ faulty, FailsAt operands input faulty rest
  readable (input rest usage : Bytes) : reading input ≠ .ok (unreadable usage) rest

namespace Expects

variable {operands : List Operand}

theorem pure {command : Command} (good : ∀ usage, command ≠ unreadable usage) :
    Expects [] (Pure.pure command) where
  fails input rest := by
    refine iff_of_false (fun same => nomatch same) ?_
    rintro ⟨_, fails⟩
    cases fails
  readable input rest usage same := by
    cases same
    exact good usage rfl

theorem cons {α : Type} {operand : Operand} {reading : Reading α} {next : α → Reading Command}
    (asks : Asks operand reading) (others : ∀ value, Expects operands (next value)) :
    Expects (operand :: operands) (reading >>= next) where
  fails input rest := by
    constructor
    · intro failed
      rcases operand.missing_or_given input with ⟨faulty, left, missing⟩ | ⟨behind, given⟩
      · rw [bind_of_error (asks.fails missing)] at failed
        cases failed
        exact ⟨faulty, .here missing⟩
      · obtain ⟨value, read⟩ := asks.gives given
        rw [bind_of_ok read] at failed
        obtain ⟨faulty, further⟩ := ((others value).fails behind rest).mp failed
        exact ⟨faulty, .later given further⟩
    · rintro ⟨faulty, fails⟩
      cases fails with
      | here missing => exact bind_of_error (asks.fails missing) next
      | later given further =>
        obtain ⟨value, read⟩ := asks.gives given
        rw [bind_of_ok read]
        exact ((others value).fails _ rest).mpr ⟨faulty, further⟩
  readable input rest usage := by
    rcases operand.missing_or_given input with ⟨_, _, missing⟩ | ⟨behind, given⟩
    · rw [bind_of_error (asks.fails missing)]
      exact fun same => nomatch same
    · obtain ⟨value, read⟩ := asks.gives given
      rw [bind_of_ok read]
      exact (others value).readable behind rest usage

end Expects

/-- The operands of `describe`. -/
theorem expects_readDescribe : Expects [.word, .number, .number] readDescribe :=
  .cons asks_word fun _ => .cons asks_number fun _ => .cons asks_number fun _ =>
    .pure fun _ same => nomatch same

/-- The operands of `write`. -/
theorem expects_readWrite : Expects [.number, .number, .number, .word, .word] readWrite :=
  .cons asks_number fun _ => .cons asks_number fun _ => .cons asks_number fun _ =>
    .cons asks_word fun _ => .cons asks_word fun _ => .pure fun _ same => nomatch same

/-! ### Where a reader stops -/

theorem Marks.not_mem (marks : Marks mark rest) : 10 ∉ mark := by
  cases marks <;> decide

theorem IsWord.not_mem (word : IsWord typed) : 10 ∉ typed :=
  fun member => nomatch word.solid 10 member

theorem NoNumber.taken {faulty : Bytes} (missing : NoNumber faulty rest) :
    ∃ taken, faulty = taken ++ rest ∧ 10 ∉ taken := by
  cases missing with
  | digits marks => exact ⟨_, rfl, marks.not_mem⟩
  | range types => exact ⟨_, rfl, types.isWord.not_mem⟩

theorem Operand.Given.split {operand : Operand} {behind : Bytes}
    (given : operand.Given input behind) : ∃ front, input = front ++ behind := by
  cases given <;> exact ⟨_, (List.append_assoc _ _ _).symm⟩

/-- **A reader stops on the line of the faulty word**, at it or behind a part of it. -/
theorem FailsAt.split {operands : List Operand} {faulty : Bytes}
    (fails : FailsAt operands input faulty rest) :
    ∃ front taken, input = front ++ faulty ∧ faulty = taken ++ rest ∧ 10 ∉ taken := by
  induction fails with
  | @here _ _ input _ _ missing =>
    cases missing with
    | ended => exact ⟨input, [], (List.append_nil input).symm, rfl, List.not_mem_nil⟩
    | @number gap _ _ _ _ missing =>
      obtain ⟨taken, split, feedless⟩ := missing.taken
      exact ⟨gap, taken, rfl, split, feedless⟩
  | later given _ hypothesis =>
    obtain ⟨first, rfl⟩ := given.split
    obtain ⟨front, taken, rfl, split, feedless⟩ := hypothesis
    exact ⟨first ++ front, taken, (List.append_assoc _ _ _).symm, split, feedless⟩

end StorageBlock.Session
