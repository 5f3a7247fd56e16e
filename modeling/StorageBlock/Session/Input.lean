/-
**Words and numbers in the input of a session.**

Input is read word by word, across lines. A reading that fails also says where it stopped, because
what has been taken is gone: a sign without digits, or the digits of a number that is too large.

* `word?` takes the next word (`word?_length`: it makes the input shorter);
* `number` takes the next number;
* `skipLine` passes over the rest of a line.
-/

import StorageBlock.Decimal

namespace StorageBlock.Session

/-- The bytes between words: space, tab, line feed, vertical tab, form feed, carriage return. -/
def isBlank (byte : UInt8) : Bool := byte == 32 || (decide (9 ≤ byte) && decide (byte ≤ 13))

/-- The input from its next word on. -/
def skipBlanks (input : Bytes) : Bytes := input.dropWhile isBlank

/-- The next word and the input after it, or nothing at the end of the input. -/
def word? (input : Bytes) : Option (Bytes × Bytes) :=
  match skipBlanks input with
  | [] => none
  | byte :: rest =>
    some (byte :: rest.takeWhile (fun byte => !isBlank byte),
      rest.dropWhile (fun byte => !isBlank byte))

/-- The input after the next line feed. -/
def skipLine (input : Bytes) : Bytes := (input.dropWhile (· != 10)).drop 1

/-- A reading from the input, which says where it stopped also when it fails. -/
abbrev Reading := EStateM Unit Bytes

/-- Reads a word. -/
def word : Reading Bytes := fun input =>
  match word? input with
  | some (word, rest) => .ok word rest
  | none => .error () []

/-- The sign in front of a number and what follows it. -/
def sign : Bytes → Bool × Bytes
  | [] => (false, [])
  | byte :: rest => if byte = 45 then (true, rest) else if byte = 43 then (false, rest)
    else (false, byte :: rest)

/-- Reads a number: an optional sign and the longest run of digits. -/
def number : Reading Int64 := fun input =>
  let (negative, unsigned) := sign (skipBlanks input)
  match Digits.read? unsigned with
  | none => .error () unsigned
  | some (digits, rest) =>
    match Numeral.int64? ⟨negative, digits⟩ with
    | some value => .ok value rest
    | none => .error () rest

/-! ### Readings go forward -/

theorem length_dropWhile_le (p : UInt8 → Bool) (input : Bytes) :
    (input.dropWhile p).length ≤ input.length :=
  (List.dropWhile_sublist p).length_le

theorem word?_length {input word rest : Bytes} (found : word? input = some (word, rest)) :
    rest.length < input.length := by
  have shorter := length_dropWhile_le isBlank input
  rw [word?] at found
  split at found
  next => cases found
  next byte tail remaining =>
    obtain ⟨_, rfl⟩ := Prod.mk.inj (Option.some.inj found)
    have := length_dropWhile_le (fun byte => !isBlank byte) tail
    rw [← skipBlanks, remaining, List.length_cons] at shorter
    omega

theorem skipLine_length (input : Bytes) : (skipLine input).length ≤ input.length := by
  have := length_dropWhile_le (· != 10) input
  rw [skipLine, List.length_drop]
  omega

theorem sign_length (input : Bytes) : (sign input).2.length ≤ input.length := by
  rw [sign.eq_def]
  split
  · simp
  · split
    · simp
    · split <;> simp

/-- Where a reading stops. -/
def stop {α : Type} : EStateM.Result Unit Bytes α → Bytes
  | .ok _ rest => rest
  | .error _ rest => rest

theorem word_length (input : Bytes) : (stop (word input)).length ≤ input.length := by
  rw [word]
  split
  next word rest found => exact Nat.le_of_lt (word?_length found)
  next => simp [stop]

theorem number_length (input : Bytes) : (stop (number input)).length ≤ input.length := by
  have blanks := length_dropWhile_le isBlank input
  have signs := sign_length (skipBlanks input)
  rw [← skipBlanks] at blanks
  rw [number]
  generalize sign (skipBlanks input) = signed at signs ⊢
  obtain ⟨negative, unsigned⟩ := signed
  dsimp only at signs ⊢
  split
  next => exact Nat.le_trans signs blanks
  next digits rest found =>
    have split := (Digits.read?_eq_some.mp found).1
    have : rest.length ≤ unsigned.length := by simp [split]
    split <;> exact Nat.le_trans this (Nat.le_trans signs blanks)

end StorageBlock.Session
