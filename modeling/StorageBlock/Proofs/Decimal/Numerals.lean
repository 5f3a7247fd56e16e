/-
**Spellings of numbers.**

A number may be spelled in many ways, with leading zeros and with a sign in front of zero; one of
them is written. All of them end where the digits end.

* `SpellsNat` and `SpellsInt` say which byte strings spell a number, and which number;
* `spellsNat_iff`, `spellsInt_iff`: these are the texts and values of `Digits` and of `Numeral`;
* `Numeral.append_inj`: in front of a byte that is no digit, a numeral is known from the text;
* `Decimal.ofInt_append_inj`: so is a number that was written there.
-/

import Mathlib.Data.List.Induction
import Mathlib.Data.Nat.Digits.Defs
import StorageBlock.Decimal

namespace StorageBlock

open Decimal

/-! ### Where a numeral ends -/

theorem endsNumber_nil : EndsNumber [] := by
  intro byte first
  cases first

theorem endsNumber_cons {byte : UInt8} (other : isDigit byte = false) (rest : Bytes) :
    EndsNumber (byte :: rest) := by
  intro first same
  obtain rfl := Option.some.inj same
  exact other

/-- **A numeral is known from the text that begins with it**, if no digit stands behind it. -/
theorem Numeral.append_inj {first second : Numeral} {rest tail : Bytes} (ended : EndsNumber rest)
    (stopped : EndsNumber tail) (same : first.text ++ rest = second.text ++ tail) :
    first = second ∧ rest = tail := by
  have one : Numeral.read? (first.text ++ rest) = some (first, rest) :=
    Numeral.read?_eq_some.mpr ⟨rfl, ended⟩
  have other : Numeral.read? (second.text ++ tail) = some (second, tail) :=
    Numeral.read?_eq_some.mpr ⟨rfl, stopped⟩
  rw [same, other] at one
  exact Prod.mk.inj (Option.some.inj one.symm)

theorem Digits.not_mem_text {byte : UInt8} (other : isDigit byte = false) (digits : Digits) :
    byte ∉ digits.text := by
  intro member
  have decimal := List.all_eq_true.mp digits.all_isDigit byte member
  rw [other] at decimal
  cases decimal

theorem Numeral.not_mem_text {byte : UInt8} (other : isDigit byte = false)
    (unsigned : byte ∉ ascii "-") (numeral : Numeral) : byte ∉ numeral.text := by
  unfold Numeral.text
  rw [List.mem_append, not_or]
  refine ⟨?_, numeral.magnitude.not_mem_text other⟩
  split
  · exact unsigned
  · exact List.not_mem_nil

/-! ### What is written -/

/-- The digits that are written for a natural number. -/
def Digits.ofNat (value : Nat) : Digits :=
  ⟨Decimal.ofNat value, ofNat_ne_nil value, all_isDigit_ofNat value⟩

theorem Digits.value_ofNat (value : Nat) : (Digits.ofNat value).value = value := valueOf_ofNat value

/-- The numeral that is written for an integer. -/
def Numeral.ofInt (value : Int) : Numeral := ⟨decide (value < 0), Digits.ofNat value.natAbs⟩

theorem Numeral.text_ofInt (value : Int) : (Numeral.ofInt value).text = Decimal.ofInt value := by
  unfold Numeral.text Numeral.ofInt Decimal.ofInt Digits.ofNat
  by_cases negative : value < 0
  · rw [if_pos negative, if_pos (decide_eq_true negative)]
  · rw [if_neg negative, if_neg (mt of_decide_eq_true negative), List.nil_append]

theorem Numeral.value_ofInt (value : Int) : (Numeral.ofInt value).value = value := by
  unfold Numeral.value Numeral.ofInt
  rw [Digits.value_ofNat]
  by_cases negative : value < 0
  · rw [if_pos (decide_eq_true negative)]
    omega
  · rw [if_neg (mt of_decide_eq_true negative)]
    omega

theorem Numeral.int64?_ofInt (word : Int64) : (Numeral.ofInt word.toInt).int64? = some word := by
  rw [Numeral.int64?, Numeral.value_ofInt, int64?_eq_some]

theorem Digits.int64?_ofNat {word : Int64} (nonneg : 0 ≤ word) :
    int64? (Digits.ofNat word.toInt.natAbs).value = some word := by
  rw [Digits.value_ofNat, Int.natAbs_of_nonneg (Int64.le_iff_toInt_le.mp nonneg), int64?_eq_some]

theorem Decimal.ofInt_of_nonneg {value : Int} (nonneg : 0 ≤ value) :
    Decimal.ofInt value = Decimal.ofNat value.natAbs :=
  if_neg (Int.not_lt.mpr nonneg)

/-- **A number is known from a text that begins with it as it is written.** -/
theorem Decimal.ofInt_append_inj {first second : Int} {rest tail : Bytes} (ended : EndsNumber rest)
    (stopped : EndsNumber tail)
    (same : Decimal.ofInt first ++ rest = Decimal.ofInt second ++ tail) :
    first = second ∧ rest = tail := by
  rw [← Numeral.text_ofInt, ← Numeral.text_ofInt] at same
  obtain ⟨numeral, behind⟩ := Numeral.append_inj ended stopped same
  have value := congrArg Numeral.value numeral
  rw [Numeral.value_ofInt, Numeral.value_ofInt] at value
  exact ⟨value, behind⟩

/-! ### Which texts spell which number -/

/-- The byte string is one or more digits, most significant first, and `number` is their value. -/
structure SpellsNat (spelling : Bytes) (number : Nat) : Prop where
  ne_nil : spelling ≠ []
  digit : ∀ byte ∈ spelling, 48 ≤ byte.toNat ∧ byte.toNat ≤ 57
  value : Nat.ofDigits 10 (spelling.reverse.map fun byte => byte.toNat - 48) = number

/-- The byte string is digits, or a minus sign and digits, and `number` is the signed value. -/
inductive SpellsInt : Bytes → Int → Prop where
  | plain {spelling : Bytes} {number : Nat} (unsigned : SpellsNat spelling number) :
    SpellsInt spelling number
  | negated {spelling : Bytes} {number : Nat} (unsigned : SpellsNat spelling number) :
    SpellsInt (ascii "-" ++ spelling) (-number)

theorem Decimal.valueOf_eq_ofDigits (digits : Bytes) :
    valueOf digits = Nat.ofDigits 10 (digits.reverse.map digitValue) := by
  -- The induction is from the last digit on, which the library takes first.
  induction digits using List.reverseRecOn with
  | nil => rfl
  | append_singleton digits byte hypothesis =>
    rw [valueOf_append_singleton, hypothesis, List.reverse_append, List.reverse_singleton,
      List.singleton_append, List.map_cons, Nat.ofDigits_cons, Nat.add_comm]

theorem spellsNat_iff {spelling : Bytes} {number : Nat} :
    SpellsNat spelling number ↔
      ∃ digits : Digits, digits.text = spelling ∧ digits.value = number := by
  constructor
  · intro spells
    have decimal : spelling.all isDigit = true :=
      List.all_eq_true.mpr fun byte member => isDigit_iff.mpr (spells.digit byte member)
    exact ⟨⟨spelling, spells.ne_nil, decimal⟩, rfl, (valueOf_eq_ofDigits _).trans spells.value⟩
  · rintro ⟨digits, rfl, rfl⟩
    refine ⟨digits.text_ne_nil, fun byte member => ?_, (valueOf_eq_ofDigits _).symm⟩
    exact isDigit_iff.mp (List.all_eq_true.mp digits.all_isDigit byte member)

theorem spellsInt_iff {spelling : Bytes} {number : Int} :
    SpellsInt spelling number ↔
      ∃ numeral : Numeral, numeral.text = spelling ∧ numeral.value = number := by
  constructor
  · intro spells
    cases spells with
    | plain unsigned =>
      obtain ⟨digits, rfl, rfl⟩ := spellsNat_iff.mp unsigned
      exact ⟨⟨false, digits⟩, rfl, rfl⟩
    | negated unsigned =>
      obtain ⟨digits, rfl, rfl⟩ := spellsNat_iff.mp unsigned
      exact ⟨⟨true, digits⟩, rfl, rfl⟩
  · rintro ⟨⟨negative, digits⟩, rfl, rfl⟩
    have spells : SpellsNat digits.text digits.value := spellsNat_iff.mpr ⟨digits, rfl, rfl⟩
    cases negative with
    | false => exact .plain spells
    | true => exact .negated spells

/-! ### Signed words -/

/-- The number is the value of a signed 64-bit word. -/
def FitsWord (number : Int) : Prop := -2 ^ 63 ≤ number ∧ number < 2 ^ 63

theorem Decimal.map_int64?_eq_some {value number : Int} :
    (int64? value).map Int64.toInt = some number ↔ value = number ∧ FitsWord number := by
  rw [Option.map_eq_some_iff]
  constructor
  · rintro ⟨word, found, rfl⟩
    rw [int64?_eq_some] at found
    have least := word.le_toInt
    have greatest := word.toInt_lt
    exact ⟨found.symm, least, greatest⟩
  · rintro ⟨rfl, least, greatest⟩
    exact ⟨Int64.ofInt value, int64?_eq_some.mpr
      (Int64.toInt_ofInt_of_le least greatest), Int64.toInt_ofInt_of_le least greatest⟩

theorem Decimal.int64?_eq_none {value : Int} : int64? value = none ↔ ¬ FitsWord value := by
  rw [← Option.map_eq_none_iff (f := Int64.toInt), Option.eq_none_iff_forall_ne_some]
  constructor
  · exact fun missing fits => missing value (map_int64?_eq_some.mpr ⟨rfl, fits⟩)
  · rintro outside _ found
    obtain ⟨rfl, fits⟩ := map_int64?_eq_some.mp found
    exact outside fits

end StorageBlock
