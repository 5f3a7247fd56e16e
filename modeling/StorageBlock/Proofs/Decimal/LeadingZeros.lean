/-
**Zeros in front of a number.**

A number is written in one of its spellings. The others differ from it in what does not count: zeros
in front of other digits, and a minus sign in front of zero.

* `Numeral.Canonical`: the spellings without any of this (`canonical_iff_ofInt`: they are those that
  are written);
* `Numeral.Redundant`: the spellings with some of it (`canonical_iff_not_redundant`: all others);
* `Numeral.reduced`: what is left of a spelling (`reduced_eq_iff`: it is the same exactly for the
  same number).
-/

import StorageBlock.Proofs.Decimal.Numerals

namespace StorageBlock

namespace Decimal

/-- The digit of nothing. -/
def zero : UInt8 := 48

/-- A run of digits without the zeros in front. -/
def significant (digits : Bytes) : Bytes := digits.dropWhile (· == zero)

theorem ofNat_zero : ofNat 0 = [zero] := by
  rw [ofNat]
  rfl

theorem ofInt_zero : ofInt 0 = ascii "0" := by
  show ofNat 0 = _
  rw [ofNat_zero]
  rfl

/-- Digits that are written like nothing begin with the zero that is written for it. -/
theorem ne_zero_of_ofNat {value : Nat} {digits : Bytes} (written : ofNat value = digits)
    (first : digits.head? ≠ some zero) : value ≠ 0 := by
  rintro rfl
  rw [← written, ofNat_zero] at first
  exact first rfl

theorem valueOf_significant (digits : Bytes) : valueOf (significant digits) = valueOf digits := by
  unfold significant
  induction digits with
  | nil => rfl
  | cons byte digits hypothesis =>
    rw [List.dropWhile_cons]
    split
    next first =>
      obtain rfl : byte = zero := beq_iff_eq.mp first
      rw [hypothesis]
      rfl
    next => rfl

theorem head?_significant (digits : Bytes) : (significant digits).head? ≠ some zero := by
  intro first
  have stopped := List.head?_dropWhile_not (· == zero) digits
  rw [← significant, first] at stopped
  cases stopped

/-- **Digits without zeros in front are written as they are.** -/
theorem ofNat_valueOf {digits : Bytes} (nonempty : digits ≠ [])
    (decimal : digits.all isDigit = true)
    (first : digits.head? ≠ some zero) : ofNat (valueOf digits) = digits := by
  -- The induction is from the last digit on, as the digits are written.
  induction digits using List.reverseRecOn with
  | nil => exact absurd rfl nonempty
  | append_singleton digits byte hypothesis =>
    rw [List.all_append, Bool.and_eq_true] at decimal
    obtain ⟨least, greatest⟩ := isDigit_iff.mp (List.all_eq_true.mp decimal.2 byte (by simp))
    have small : digitValue byte < 10 := by
      rw [digitValue]
      omega
    have same : digit (digitValue byte) = byte := by
      rw [← UInt8.toNat_inj, digit_toNat small, digitValue]
      omega
    rw [valueOf_append_singleton]
    by_cases single : digits = []
    · subst single
      have value : 10 * valueOf [] + digitValue byte = digitValue byte := Nat.zero_add _
      rw [value, ofNat, if_pos small, same]
      rfl
    · rw [List.head?_append, List.head?_eq_some_head single, Option.some_or,
        ← List.head?_eq_some_head single] at first
      have front := hypothesis single decimal.1 first
      have positive : valueOf digits ≠ 0 := ne_zero_of_ofNat front first
      have quotient : (10 * valueOf digits + digitValue byte) / 10 = valueOf digits := by omega
      have remainder : (10 * valueOf digits + digitValue byte) % 10 = digitValue byte := by omega
      rw [ofNat, if_neg (by omega), quotient, remainder, front, same]

/-- What is left of digits without the zeros in front: the number as it is written, or nothing. -/
theorem significant_text (digits : Digits) :
    significant digits.text = if digits.value = 0 then [] else ofNat digits.value := by
  have value : valueOf (significant digits.text) = digits.value := valueOf_significant digits.text
  by_cases empty : significant digits.text = []
  · rw [empty] at value ⊢
    have nothing : digits.value = 0 := value.symm
    rw [if_pos nothing]
  · have decimal : (significant digits.text).all isDigit = true :=
      List.all_eq_true.mpr fun byte member => List.all_eq_true.mp digits.all_isDigit byte
        ((List.dropWhile_suffix _).subset member)
    have written := ofNat_valueOf empty decimal (head?_significant digits.text)
    rw [value] at written
    rw [if_neg (ne_zero_of_ofNat written (head?_significant digits.text)), written]

theorem head?_ofNat {value : Nat} (positive : value ≠ 0) : (ofNat value).head? ≠ some zero := by
  have whole := significant_text (Digits.ofNat value)
  rw [Digits.value_ofNat, if_neg positive] at whole
  rw [← whole]
  exact head?_significant (ofNat value)

theorem ofInt_ne_nil (value : Int) : ofInt value ≠ [] := by
  rw [ofInt]
  split
  · exact List.cons_ne_nil _ _
  · exact ofNat_ne_nil _

theorem ofInt_injective {first second : Int} (same : ofInt first = ofInt second) :
    first = second :=
  (ofInt_append_inj endsNumber_nil endsNumber_nil (congrArg (· ++ []) same)).1

end Decimal

open Decimal

namespace Numeral

theorem text_injective {first second : Numeral} (same : first.text = second.text) :
    first = second :=
  (append_inj endsNumber_nil endsNumber_nil (congrArg (· ++ []) same)).1

/-! ### Spellings with nothing to leave out -/

/-- A numeral as it may be written: zero, or digits of which the first is not zero, with a minus
sign in front of them or without. -/
def Canonical (numeral : Numeral) : Prop :=
  numeral.text = ascii "0" ∨ numeral.magnitude.text.head? ≠ some zero

/-- A numeral with a zero in front of other digits, or with a minus sign in front of zero. -/
def Redundant (numeral : Numeral) : Prop :=
  ∃ rest, numeral.magnitude.text = zero :: rest ∧ (rest ≠ [] ∨ numeral.negative = true)

theorem text_eq_zero_iff {numeral : Numeral} :
    numeral.text = ascii "0" ↔ numeral.negative = false ∧ numeral.magnitude.text = [zero] := by
  unfold text
  cases numeral.negative with
  | false => simp only [Bool.false_eq_true, if_false, List.nil_append, true_and]; rfl
  | true =>
    refine iff_of_false (fun same => ?_) (fun both => nomatch both.1)
    cases (List.cons.inj same).1

theorem canonical_iff_not_redundant (numeral : Numeral) :
    numeral.Canonical ↔ ¬numeral.Redundant := by
  unfold Canonical Redundant
  rw [text_eq_zero_iff]
  obtain ⟨first, rest, shape⟩ := List.exists_cons_of_ne_nil numeral.magnitude.text_ne_nil
  rw [shape]
  by_cases leading : first = zero
  · subst leading
    cases numeral.negative <;> simp
  · simp [leading]

/-- **The canonical spellings are those that are written.** -/
theorem canonical_iff_ofInt (numeral : Numeral) :
    numeral.Canonical ↔ numeral.text = Decimal.ofInt numeral.value := by
  constructor
  · rintro (same | first)
    · obtain rfl : numeral = ofInt 0 :=
        text_injective (same.trans (ofInt_zero.symm.trans (text_ofInt 0).symm))
      rw [text_ofInt, value_ofInt]
    · have written :=
        ofNat_valueOf numeral.magnitude.text_ne_nil numeral.magnitude.all_isDigit first
      rw [← Digits.value] at written
      have nonzero := ne_zero_of_ofNat written first
      unfold text value Decimal.ofInt
      cases numeral.negative with
      | false => simp [written]
      | true => simp [written, Nat.pos_of_ne_zero nonzero]
  · intro same
    obtain whole : numeral = ofInt numeral.value := text_injective (same.trans (text_ofInt _).symm)
    by_cases nothing : numeral.value = 0
    · left
      rw [same, nothing, ofInt_zero]
    · right
      rw [whole]
      exact head?_ofNat (Int.natAbs_ne_zero.mpr nothing)

/-! ### What is left of a spelling -/

/-- A numeral without the zeros in front of its digits; a minus sign is left if digits are. -/
def reduced (numeral : Numeral) : Bytes :=
  let digits := significant numeral.magnitude.text
  if numeral.negative = true ∧ digits ≠ [] then ascii "-" ++ digits else digits

theorem reduced_eq (numeral : Numeral) :
    numeral.reduced = if numeral.value = 0 then [] else Decimal.ofInt numeral.value := by
  unfold reduced value
  rw [significant_text]
  by_cases nothing : numeral.magnitude.value = 0
  · simp [nothing]
  · have digits : Decimal.ofNat numeral.magnitude.value ≠ [] := ofNat_ne_nil _
    cases numeral.negative with
    | false => simp [nothing, Decimal.ofInt]
    | true => simp [nothing, digits, Decimal.ofInt, Nat.pos_of_ne_zero nothing]

/-- **Two numerals have the same value exactly if the same is left of them.** -/
theorem reduced_eq_iff {first second : Numeral} :
    first.reduced = second.reduced ↔ first.value = second.value := by
  constructor
  · intro same
    rw [reduced_eq, reduced_eq] at same
    by_cases one : first.value = 0
    · by_cases other : second.value = 0
      · rw [one, other]
      · rw [if_pos one, if_neg other] at same
        exact absurd same.symm (ofInt_ne_nil _)
    · by_cases other : second.value = 0
      · rw [if_neg one, if_pos other] at same
        exact absurd same (ofInt_ne_nil _)
      · rw [if_neg one, if_neg other] at same
        exact ofInt_injective same
  · intro same
    rw [reduced_eq, reduced_eq, same]

end Numeral

end StorageBlock
