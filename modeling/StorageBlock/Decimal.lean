/-
**Decimal numbers as text.**

A number is written with the fewest digits, and read from any run of digits:

* `Decimal.ofNat` and `Decimal.ofInt` write a number;
* `Digits` and `Numeral` are the texts that can be read, with the proof that they hold digits only;
* `Digits.value` and `Numeral.value` read them, for any number of digits;
* `int64?` says which values a signed 64-bit word can hold.

`Digits.read?` and `Numeral.read?` take the longest spelling at the front of a text
(`Digits.read?_eq_some`, `Numeral.read?_eq_some`).
-/

import StorageBlock.Bytes

namespace StorageBlock

namespace Decimal

/-! ### Digits -/

/-- The ASCII digits, `0` to `9`. -/
def isDigit (byte : UInt8) : Bool := decide (48 ≤ byte) && decide (byte ≤ 57)

/-- The digit of a value below ten. -/
def digit (value : Nat) : UInt8 := UInt8.ofNat (48 + value)

/-- The value of a digit. -/
def digitValue (byte : UInt8) : Nat := byte.toNat - 48

theorem isDigit_iff {byte : UInt8} : isDigit byte = true ↔ 48 ≤ byte.toNat ∧ byte.toNat ≤ 57 := by
  simp only [isDigit, Bool.and_eq_true, decide_eq_true_eq, UInt8.le_iff_toNat_le]
  rfl

theorem digit_toNat {value : Nat} (small : value < 10) : (digit value).toNat = 48 + value := by
  simp only [digit, UInt8.toNat_ofNat']
  omega

theorem isDigit_digit {value : Nat} (small : value < 10) : isDigit (digit value) = true := by
  rw [isDigit_iff, digit_toNat small]
  omega

theorem digitValue_digit {value : Nat} (small : value < 10) : digitValue (digit value) = value := by
  rw [digitValue, digit_toNat small]
  omega

/-! ### Writing -/

/-- A natural number in decimal, without leading zeros. -/
def ofNat (value : Nat) : Bytes :=
  if value < 10 then [digit value] else ofNat (value / 10) ++ [digit (value % 10)]

/-- An integer in decimal, with a minus sign when it is negative. -/
def ofInt (value : Int) : Bytes :=
  if value < 0 then ascii "-" ++ ofNat value.natAbs else ofNat value.natAbs

/-! ### Values -/

/-- The value of a run of digits, most significant first. -/
def valueOf (digits : Bytes) : Nat :=
  digits.foldl (fun total byte => 10 * total + digitValue byte) 0

@[simp] theorem valueOf_append_singleton (digits : Bytes) (byte : UInt8) :
    valueOf (digits ++ [byte]) = 10 * valueOf digits + digitValue byte := by
  simp [valueOf]

/-- **What is written reads back.** -/
theorem valueOf_ofNat (value : Nat) : valueOf (ofNat value) = value := by
  fun_induction ofNat value with
  | case1 value small => simp [valueOf, digitValue_digit small]
  | case2 value _ hypothesis =>
    rw [valueOf_append_singleton, hypothesis, digitValue_digit (Nat.mod_lt _ (by omega))]
    omega

theorem all_isDigit_ofNat (value : Nat) : (ofNat value).all isDigit = true := by
  fun_induction ofNat value with
  | case1 value small => simp [isDigit_digit small]
  | case2 value _ hypothesis =>
    simp [List.all_append, hypothesis, isDigit_digit (Nat.mod_lt value (by omega : 0 < 10))]

theorem ofNat_ne_nil (value : Nat) : ofNat value ≠ [] := by
  rw [ofNat]
  split <;> simp

/-- The value as a signed 64-bit word, if it is in range. -/
def int64? (value : Int) : Option Int64 :=
  if Int64.minValue.toInt ≤ value ∧ value ≤ Int64.maxValue.toInt then some (Int64.ofInt value)
  else none

theorem int64?_eq_some {value : Int} {word : Int64} :
    int64? value = some word ↔ word.toInt = value := by
  rw [int64?]
  split
  next range =>
    have least := Int64.toInt_minValue
    have greatest := Int64.toInt_maxValue
    rw [Option.some.injEq]
    constructor
    · rintro rfl
      exact Int64.toInt_ofInt_of_le (by omega) (by omega)
    · rintro rfl
      exact Int64.ofInt_toInt word
  next outside =>
    simp only [reduceCtorEq, false_iff]
    rintro rfl
    exact outside ⟨word.minValue_le_toInt, word.toInt_le⟩

end Decimal

open Decimal

/-! ### Numerals -/

/-- A run of one or more digits. -/
structure Digits where
  /-- The digits as they are spelled. -/
  text : Bytes
  /-- There is at least one. -/
  text_ne_nil : text ≠ []
  /-- All are digits. -/
  all_isDigit : text.all isDigit = true

/-- The value of a run of digits. -/
def Digits.value (digits : Digits) : Nat := valueOf digits.text

/-- The longest run of digits at the front of a text, and what follows it. -/
def Digits.read? (text : Bytes) : Option (Digits × Bytes) :=
  if nonempty : text.takeWhile isDigit ≠ [] then
    some (⟨text.takeWhile isDigit, nonempty, List.all_takeWhile⟩, text.dropWhile isDigit)
  else none

/-- The text does not go on with a digit. -/
def EndsNumber (rest : Bytes) : Prop := ∀ byte ∈ rest.head?, isDigit byte = false

theorem Digits.read?_eq_some {text rest : Bytes} {digits : Digits} :
    Digits.read? text = some (digits, rest) ↔ text = digits.text ++ rest ∧ EndsNumber rest := by
  obtain ⟨spelled, nonempty, decimal⟩ := digits
  simp only [read?, EndsNumber]
  constructor
  · intro found
    split at found
    next =>
      obtain ⟨rfl, rfl⟩ : text.takeWhile isDigit = spelled ∧ text.dropWhile isDigit = rest := by
        simpa using found
      refine ⟨List.takeWhile_append_dropWhile.symm, fun byte first => ?_⟩
      have stopped := List.head?_dropWhile_not isDigit text
      rw [Option.mem_def.mp first] at stopped
      simpa using stopped
    next => simp at found
  · rintro ⟨rfl, ended⟩
    have digitsOnly := List.all_eq_true.mp decimal
    have taken : (spelled ++ rest).takeWhile isDigit = spelled := by
      rw [List.takeWhile_append_of_pos digitsOnly]
      cases rest with
      | nil => simp
      | cons byte rest => simp [ended byte rfl]
    have dropped : (spelled ++ rest).dropWhile isDigit = rest := by
      rw [List.dropWhile_append_of_pos digitsOnly]
      cases rest with
      | nil => simp
      | cons byte rest => simp [ended byte rfl]
    simp [taken, dropped, nonempty]

/-- A number as it may be spelled: an optional minus sign, then digits. -/
structure Numeral where
  /-- Is there a minus sign? -/
  negative : Bool
  /-- The digits after the sign. -/
  magnitude : Digits

namespace Numeral

/-- The spelling of a numeral. -/
def text (numeral : Numeral) : Bytes :=
  (if numeral.negative then ascii "-" else []) ++ numeral.magnitude.text

/-- The number that a numeral denotes. -/
def value (numeral : Numeral) : Int :=
  if numeral.negative then -(numeral.magnitude.value : Int) else numeral.magnitude.value

/-- The number that a numeral denotes as a signed 64-bit word, if it is in range. -/
def int64? (numeral : Numeral) : Option Int64 := Decimal.int64? numeral.value

/-- The longest numeral at the front of a text, and what follows it. -/
def read? (text : Bytes) : Option (Numeral × Bytes) :=
  match Bytes.after? (ascii "-") text with
  | some unsigned => (Digits.read? unsigned).map fun (digits, rest) => (⟨true, digits⟩, rest)
  | none => (Digits.read? text).map fun (digits, rest) => (⟨false, digits⟩, rest)

theorem read?_eq_some {text rest : Bytes} {numeral : Numeral} :
    read? text = some (numeral, rest) ↔ text = numeral.text ++ rest ∧ EndsNumber rest := by
  obtain ⟨negative, digits⟩ := numeral
  rw [read?]
  split
  next unsigned found =>
    rw [Bytes.after?_eq_some] at found
    subst found
    cases negative with
    | true => simp [Option.map_eq_some_iff, Digits.read?_eq_some, Numeral.text]
    | false =>
      obtain ⟨spelled, nonempty, decimal⟩ := digits
      cases spelled with
      | nil => exact absurd rfl nonempty
      | cons first spelled =>
        have signIsNoDigit : isDigit 45 = false := by decide
        simp only [Option.map_eq_some_iff, Prod.mk.injEq, Numeral.mk.injEq, Prod.exists, text,
          show ascii "-" = [45] from rfl]
        constructor
        · rintro ⟨_, _, _, ⟨absurd, _⟩, _⟩
          cases absurd
        · rintro ⟨same, _⟩
          obtain ⟨rfl, _⟩ : 45 = first ∧ unsigned = spelled ++ rest := by simpa using same
          simp [signIsNoDigit] at decimal
  next missing =>
    cases negative with
    | false => simp [Option.map_eq_some_iff, Digits.read?_eq_some, Numeral.text]
    | true =>
      constructor
      · simp [Option.map_eq_some_iff]
      · rintro ⟨rfl, _⟩
        rw [Numeral.text, if_pos rfl, List.append_assoc] at missing
        rw [Bytes.after?_eq_some.mpr rfl] at missing
        cases missing

end Numeral

end StorageBlock
