/-
**How far the input is looked at.**

A reading has to look at the byte behind a word or a number to know that it ends, and never looks
farther. So what follows can be exchanged, as long as it begins with the same byte, and more input
can be appended, as long as the reading has not come to the end.

* `Nearsighted`: a reading that looks at one byte behind what it takes, and takes the front of the
  input; sequences of such readings are again (`Nearsighted.bind`);
* `Nearsighted.append`: more input behind a reading that stopped before the end;
* `nearsighted_readDescribe`, `nearsighted_readWrite`, `nearsighted_ofWord`: the operands of every
  command are read in this way;
* `Command.next?_exchange`: a command is read the same in front of another rest of the input.
-/

import StorageBlock.Session.Command

namespace StorageBlock

theorem Digits.read?_eq_none {text : Bytes} : read? text = none ↔ EndsNumber text := by
  unfold read? EndsNumber
  cases text with
  | nil => simp
  | cons byte text => cases digit : Decimal.isDigit byte <;> simp [digit]

namespace Session

variable {α β : Type} {reading : Reading α}

/-- An outcome with another rest of the input. -/
def leaving (rest : Bytes) : EStateM.Result Unit Bytes α → EStateM.Result Unit Bytes α
  | .ok value _ => .ok value rest
  | .error cause _ => .error cause rest

/-- A reading that goes on after another: with `next` after success, with `rescue` after failure. -/
def fork (reading : Reading α) (next : α → Reading β) (rescue : Reading β) : Reading β :=
  fun input => match reading input with
    | .ok value rest => next value rest
    | .error _ rest => rescue rest

/-- A reading that takes the front of the input and looks at one byte behind it. -/
structure Nearsighted (reading : Reading α) : Prop where
  suffix (input : Bytes) : stop (reading input) <:+ input
  exchange {taken rest other : Bytes} (stops : stop (reading (taken ++ rest)) = rest)
    (alike : other.head? = rest.head?) :
    reading (taken ++ other) = leaving other (reading (taken ++ rest))

namespace Nearsighted

/-- **Input can be appended** behind a reading that has not come to the end. -/
theorem append (near : Nearsighted reading) {input : Bytes} (more : Bytes)
    (before : stop (reading input) ≠ []) :
    reading (input ++ more) = leaving (stop (reading input) ++ more) (reading input) := by
  obtain ⟨taken, split⟩ := near.suffix input
  have stops : stop (reading (taken ++ stop (reading input))) = stop (reading input) := by
    rw [split]
  have alike : (stop (reading input) ++ more).head? = (stop (reading input)).head? := by
    obtain ⟨byte, tail, shape⟩ := List.exists_cons_of_ne_nil before
    rw [shape]
    rfl
  have continued := near.exchange stops alike
  rw [← List.append_assoc, split] at continued
  exact continued

/-! ### Sequences -/

/-- A reading that takes nothing, whatever it gives. -/
theorem of_stays (stays : ∀ input, stop (reading input) = input)
    (same : ∀ input other, reading other = leaving other (reading input)) :
    Nearsighted reading where
  suffix input := ⟨[], stays input⟩
  exchange stops _ := by
    rw [stays] at stops
    obtain rfl := List.append_left_eq_self.mp stops
    exact same _ _

theorem pure (value : α) : Nearsighted (Pure.pure value : Reading α) :=
  of_stays (fun _ => rfl) fun _ _ => rfl

/-- **A sequence looks as near as its readings**, because each takes the front of what the one
before has left. -/
theorem fork (first : Nearsighted reading) {next : α → Reading β}
    {rescue : Reading β} (second : ∀ value, Nearsighted (next value))
    (third : Nearsighted rescue) : Nearsighted (Session.fork reading next rescue) := by
  -- After its first reading a sequence is one more reading, on the rest.
  have after {continuation : Reading β} (near : Nearsighted continuation) {taken rest middle other :
      Bytes} (left : stop (reading (taken ++ rest)) = middle)
      (stops : stop (continuation middle) = rest) (alike : other.head? = rest.head?) :
      ∃ between, reading (taken ++ other) = leaving (between ++ other) (reading (taken ++ rest)) ∧
        continuation (between ++ other) = leaving other (continuation middle) := by
    obtain ⟨front, split⟩ := first.suffix (taken ++ rest)
    obtain ⟨between, rfl⟩ : ∃ between, middle = between ++ rest := by
      obtain ⟨between, within⟩ := near.suffix middle
      exact ⟨between, by rw [← within, stops]⟩
    rw [left, ← List.append_assoc] at split
    obtain rfl := List.append_cancel_right split
    have same : (between ++ other).head? = (between ++ rest).head? := by
      cases between with
      | nil => exact alike
      | cons byte between => rfl
    refine ⟨between, ?_, near.exchange stops alike⟩
    rw [List.append_assoc] at left ⊢
    have exchanged := first.exchange left same
    rw [exchanged, List.append_assoc]
  constructor
  · intro input
    have start := first.suffix input
    unfold Session.fork
    split
    next value rest read =>
      rw [read] at start
      exact ((second value).suffix rest).trans start
    next rest read =>
      rw [read] at start
      exact (third.suffix rest).trans start
  · intro taken rest other stops alike
    unfold Session.fork at stops ⊢
    cases read : reading (taken ++ rest) with
    | ok value middle =>
      rw [read] at stops
      obtain ⟨between, one, two⟩ :=
        after (second value) (congrArg stop read) stops alike
      rw [one, read]
      exact two
    | error cause middle =>
      rw [read] at stops
      obtain ⟨between, one, two⟩ := after third (congrArg stop read) stops alike
      rw [one, read]
      exact two

theorem bind (first : Nearsighted reading) {next : α → Reading β}
    (second : ∀ value, Nearsighted (next value)) : Nearsighted (reading >>= next) := by
  have failure : Nearsighted (fun input => .error () input : Reading β) :=
    of_stays (fun _ => rfl) fun _ _ => rfl
  have same : reading >>= next = Session.fork reading next (fun input => .error () input) := by
    funext input
    show EStateM.bind reading next input = _
    unfold EStateM.bind Session.fork
    cases reading input <;> rfl
  rw [same]
  exact first.fork second failure

end Nearsighted

/-! ### Words and numbers -/

/-- Passes over the bytes of a kind. -/
def past (kind : UInt8 → Bool) : Reading Unit := fun input => .ok () (input.dropWhile kind)

/-- Reads the longest run of bytes of a kind, of which there must be one. -/
def many (kind : UInt8 → Bool) : Reading Bytes := fun input =>
  if input.takeWhile kind = [] then .error () input
  else .ok (input.takeWhile kind) (input.dropWhile kind)

/-- Looks at the first byte, and passes over it or not. -/
def peek (value : Option UInt8 → α) (passes : Option UInt8 → Bool) : Reading α := fun input =>
  .ok (value input.head?) (if passes input.head? then input.drop 1 else input)

/-- Passes over the line feed at the end of a line. -/
def feed : Reading Unit := peek (fun _ => ()) fun _ => true

/-- Reads a sign, if there is one. -/
def signed : Reading Bool := fun input => .ok (sign input).1 (sign input).2

/-- Reads a run of digits. -/
def digits : Reading Digits := fun input =>
  match Digits.read? input with
  | none => .error () input
  | some (digits, rest) => .ok digits rest

/-- The value of a numeral, which must be in range. -/
def valued (numeral : Numeral) : Reading Int64 := fun input =>
  match numeral.int64? with
  | some value => .ok value input
  | none => .error () input

theorem word_eq : word = past isBlank >>= fun _ => many fun byte => !isBlank byte := by
  funext input
  show word input = many (fun byte => !isBlank byte) (skipBlanks input)
  unfold word word?
  have stopped := List.head?_dropWhile_not isBlank input
  rw [← skipBlanks] at stopped
  cases remaining : skipBlanks input with
  | nil => rfl
  | cons byte rest =>
    rw [remaining] at stopped
    have letter : isBlank byte = false := by simpa using stopped
    simp [many, letter]

theorem number_eq : number = past isBlank >>= fun _ => signed >>= fun negative =>
    digits >>= fun magnitude => valued ⟨negative, magnitude⟩ := by
  funext input
  simp only [number, skipBlanks, bind, EStateM.bind, past, signed, digits]
  cases Digits.read? (sign (input.dropWhile isBlank)).2 <;> rfl

/-- A longest run ends where the kind of the bytes does. -/
theorem span_append {kind : UInt8 → Bool} {taken rest : Bytes}
    (inside : ∀ byte ∈ taken, kind byte = true)
    (boundary : ∀ byte ∈ rest.head?, kind byte = false) :
    (taken ++ rest).takeWhile kind = taken ∧ (taken ++ rest).dropWhile kind = rest := by
  rw [List.takeWhile_append_of_pos inside, List.dropWhile_append_of_pos inside]
  cases rest with
  | nil => exact ⟨List.append_nil taken, rfl⟩
  | cons byte rest => simp [boundary byte rfl]

theorem head?_dropWhile {kind : UInt8 → Bool} {input : Bytes} :
    ∀ byte ∈ (input.dropWhile kind).head?, kind byte = false := by
  intro byte first
  have stopped := List.head?_dropWhile_not kind input
  rw [Option.mem_def.mp first] at stopped
  simpa using stopped

/-- A longest run is the same in front of another rest that begins alike. -/
theorem span_exchange {kind : UInt8 → Bool} {taken rest other : Bytes}
    (stops : (taken ++ rest).dropWhile kind = rest) (alike : other.head? = rest.head?) :
    (taken ++ other).takeWhile kind = (taken ++ rest).takeWhile kind ∧
      (taken ++ other).dropWhile kind = other := by
  have whole := List.takeWhile_append_dropWhile (p := kind) (l := taken ++ rest)
  have boundary : ∀ byte ∈ ((taken ++ rest).dropWhile kind).head?, kind byte = false :=
    head?_dropWhile
  rw [stops] at whole boundary
  rw [← alike] at boundary
  have run := List.append_cancel_right whole
  have inside : ∀ byte ∈ taken, kind byte = true := by
    rw [← List.all_eq_true, ← run]
    exact List.all_takeWhile
  rw [run]
  exact span_append inside boundary

theorem nearsighted_past (kind : UInt8 → Bool) : Nearsighted (past kind) where
  suffix _ := List.dropWhile_suffix _
  exchange stops alike := congrArg (EStateM.Result.ok ()) (span_exchange stops alike).2

theorem nearsighted_many (kind : UInt8 → Bool) : Nearsighted (many kind) where
  suffix input := by
    unfold many
    split
    · exact List.suffix_rfl
    · exact List.dropWhile_suffix _
  exchange {taken rest other} stops alike := by
    unfold many at stops ⊢
    by_cases none : (taken ++ rest).takeWhile kind = []
    · rw [if_pos none] at stops ⊢
      obtain rfl := List.append_left_eq_self.mp stops
      have whole := List.takeWhile_append_dropWhile (p := kind) (l := [] ++ rest)
      rw [none] at whole
      obtain ⟨same, -⟩ := span_exchange whole alike
      rw [same, if_pos none]
      rfl
    · rw [if_neg none] at stops ⊢
      obtain ⟨same, left⟩ := span_exchange stops alike
      rw [same, if_neg none, left]
      rfl

theorem nearsighted_peek (value : Option UInt8 → α) (passes : Option UInt8 → Bool) :
    Nearsighted (peek value passes) where
  suffix input := by
    show (if passes input.head? then input.drop 1 else input) <:+ input
    split
    · exact List.drop_suffix _ _
    · exact List.suffix_rfl
  exchange {taken rest other} stops alike := by
    have stops : (if passes (taken ++ rest).head? then (taken ++ rest).drop 1 else taken ++ rest) =
        rest := stops
    show EStateM.Result.ok (value (taken ++ other).head?) _ =
      .ok (value (taken ++ rest).head?) other
    cases taken with
    | nil =>
      rw [List.nil_append, List.nil_append, alike]
      by_cases passed : passes rest.head? = true
      · -- A byte that is passed over is gone, so that there was none.
        cases rest with
        | nil => rw [List.head?_eq_none_iff.mp alike, List.drop_nil, ite_self]
        | cons byte rest =>
          rw [List.nil_append, if_pos passed] at stops
          exact absurd stops.symm (List.cons_ne_self _ _)
      · rw [if_neg passed]
    | cons byte taken =>
      by_cases passed : passes (some byte) = true
      · have rest_eq : taken ++ rest = rest := by simpa [passed] using stops
        obtain rfl := List.append_left_eq_self.mp rest_eq
        simp [passed]
      · have whole : byte :: taken ++ rest = rest := by simpa [passed] using stops
        cases List.append_left_eq_self.mp whole

theorem sign_cons_of_ne {byte : UInt8} (minus : byte ≠ 45) (plus : byte ≠ 43) (rest : Bytes) :
    sign (byte :: rest) = (false, byte :: rest) := by
  rw [sign, if_neg minus, if_neg plus]

theorem signed_eq :
    signed = peek (· == some 45) fun first => first == some 45 || first == some 43 := by
  funext input
  unfold signed peek
  cases input with
  | nil => rfl
  | cons byte rest =>
    by_cases minus : byte = 45
    · rw [minus]
      rfl
    by_cases plus : byte = 43
    · rw [plus]
      rfl
    rw [sign_cons_of_ne minus plus]
    simp [minus, plus]

theorem nearsighted_signed : Nearsighted signed := by
  rw [signed_eq]
  exact nearsighted_peek _ _

theorem endsNumber_of_alike {rest other : Bytes} (ended : EndsNumber rest)
    (alike : other.head? = rest.head?) : EndsNumber other := by
  unfold EndsNumber
  rw [alike]
  exact ended

theorem nearsighted_digits : Nearsighted digits where
  suffix input := by
    unfold digits
    split
    · exact List.suffix_rfl
    next magnitude rest found =>
      exact ⟨magnitude.text, (Digits.read?_eq_some.mp found).1.symm⟩
  exchange {taken rest other} stops alike := by
    unfold digits at stops ⊢
    cases found : Digits.read? (taken ++ rest) with
    | none =>
      rw [found] at stops
      obtain rfl := List.append_left_eq_self.mp stops
      have ended := Digits.read?_eq_none.mp found
      rw [List.nil_append, Digits.read?_eq_none.mpr (endsNumber_of_alike ended alike)]
      rfl
    | some pair =>
      obtain ⟨magnitude, left⟩ := pair
      rw [found] at stops
      obtain rfl : left = rest := stops
      obtain ⟨split, ended⟩ := Digits.read?_eq_some.mp found
      obtain rfl := List.append_cancel_right split
      rw [Digits.read?_eq_some.mpr ⟨rfl, endsNumber_of_alike ended alike⟩]
      rfl

theorem nearsighted_valued (numeral : Numeral) : Nearsighted (valued numeral) := by
  unfold valued
  cases numeral.int64? with
  | some value => exact .pure value
  | none => exact .of_stays (fun _ => rfl) fun _ _ => rfl

theorem nearsighted_word : Nearsighted word := by
  rw [word_eq]
  exact (nearsighted_past _).bind fun _ => nearsighted_many _

theorem nearsighted_number : Nearsighted number := by
  rw [number_eq]
  exact (nearsighted_past _).bind fun _ => nearsighted_signed.bind fun _ =>
    nearsighted_digits.bind fun _ => nearsighted_valued _

/-! ### Operands -/

open Command

theorem nearsighted_readDescribe : Nearsighted readDescribe :=
  nearsighted_word.bind fun _ => nearsighted_number.bind fun _ =>
    nearsighted_number.bind fun _ => .pure _

theorem nearsighted_readWrite : Nearsighted readWrite :=
  nearsighted_number.bind fun _ => nearsighted_number.bind fun _ =>
    nearsighted_number.bind fun _ => nearsighted_word.bind fun _ =>
      nearsighted_word.bind fun _ => .pure _

/-- A function that gives a command and the input after it, as a reading. -/
def takes (continuation : Bytes → Command × Bytes) : Reading Command := fun input =>
  .ok (continuation input).1 (continuation input).2

theorem takes_orUsage (usage : Bytes) (reading : Reading Command) :
    takes (orUsage usage reading) = fork reading pure
      (past (· != 10) >>= fun _ => feed >>= fun _ => pure (unreadable usage)) := by
  funext input
  unfold takes orUsage fork EStateM.run
  cases reading input <;> rfl

theorem takes_operand (named : Bytes → Command) :
    (takes fun input => (named (operand input).1, (operand input).2)) =
      fork word (fun name => pure (named name)) (pure (named [])) := by
  funext input
  simp only [takes, operand, fork, word]
  cases word? input <;> rfl

theorem nearsighted_orUsage {reading : Reading Command} (near : Nearsighted reading)
    (usage : Bytes) : Nearsighted (takes (orUsage usage reading)) := by
  rw [takes_orUsage]
  exact near.fork .pure <| (nearsighted_past _).bind fun _ =>
    (nearsighted_peek _ _).bind fun _ => .pure _

theorem nearsighted_operand (named : Bytes → Command) :
    Nearsighted (takes fun input => (named (operand input).1, (operand input).2)) := by
  rw [takes_operand]
  exact nearsighted_word.fork (fun _ => .pure _) (.pure _)

/-! ### Commands -/

/-- **The kinds of commands**, by what is read behind their names: nothing, one word, or the
operands of `describe` or of `write`. -/
theorem ofWord_cases {P : (Bytes → Command × Bytes) → Prop}
    (plain : ∀ command, P fun input => (command, input))
    (one : ∀ named : Bytes → Command, P fun input => (named (operand input).1, (operand input).2))
    (describes : P (orUsage describeUsage readDescribe)) (writes : P (orUsage writeUsage readWrite))
    (name : Bytes) : P (ofWord name) := by
  have branch {condition : Prop} [Decidable condition] {first second : Bytes → Command × Bytes}
      (yes : P first) (no : P second) :
      P fun input => if condition then first input else second input := by
    by_cases holds : condition
    · simpa only [if_pos holds] using yes
    · simpa only [if_neg holds] using no
  exact branch (plain help) <| branch (one classify) <| branch (one dataPath) <|
    branch (one checksum) <| branch describes <| branch writes <| branch (one read) <|
    branch (one fun mode => trace (decide (mode = ascii "on"))) <|
    branch (plain quit) (plain invalid)

theorem nearsighted_ofWord (name : Bytes) : Nearsighted (takes (ofWord name)) :=
  @ofWord_cases (fun continuation => Nearsighted (takes continuation)) (fun _ => .pure _)
    nearsighted_operand (nearsighted_orUsage nearsighted_readDescribe _)
    (nearsighted_orUsage nearsighted_readWrite _) name

/-- The next command, as a reading that fails at the end of the input. -/
def next : Reading Command := word >>= fun name => takes (ofWord name)

theorem nearsighted_next : Nearsighted next := nearsighted_word.bind nearsighted_ofWord

theorem next?_eq_some {input rest : Bytes} {command : Command} :
    next? input = some (command, rest) ↔ next input = .ok command rest := by
  rw [next?]
  show _ ↔ EStateM.bind word (fun name => takes (ofWord name)) input = _
  unfold EStateM.bind word
  cases word? input with
  | none => simp
  | some pair =>
    obtain ⟨name, tail⟩ := pair
    simp [takes, Prod.ext_iff]

end Session

open Session in
/-- **A command is read the same in front of another rest** that begins with the same byte. -/
theorem Command.next?_exchange {taken rest other : Bytes} {command : Command}
    (found : next? (taken ++ rest) = some (command, rest)) (alike : other.head? = rest.head?) :
    next? (taken ++ other) = some (command, other) := by
  rw [next?_eq_some] at found ⊢
  have stops : stop (next (taken ++ rest)) = rest := congrArg stop found
  rw [nearsighted_next.exchange stops alike, found]
  rfl

end StorageBlock
