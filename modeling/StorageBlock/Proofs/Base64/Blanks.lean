/-
**The blanks that the lenient reader tolerates.**

The reader of padded Base64 drops the spaces and tabs in front of a text, and the blanks behind it
while more than three bytes remain.

* `exists_around_body`: what is dropped are blanks, and nothing is dropped behind an empty body;
* `body_around`: blanks around a text of at least three other bytes are dropped, and so are blanks
  in front of any text of other bytes;
* `body_append_signs`: in front of padding, nothing is dropped behind the text;
* `body_map`: exchanging bytes that are not blank for others exchanges them in the body.
-/

import Mathlib.Data.List.DropRight
import StorageBlock.Proofs.Base64.Unpadded

namespace StorageBlock.Base64.Padded

theorem trimEnd_eq (text : Bytes) :
    trimEnd text = text.take 3 ++ (text.drop 3).rdropWhile isTrailingBlank := rfl

theorem dropWhile_of_head {isBlank : UInt8 → Bool} {byte : UInt8} (clean : isBlank byte = false)
    (text : Bytes) : (byte :: text).dropWhile isBlank = byte :: text := by
  rw [List.dropWhile_cons, clean]
  rfl

theorem rdropWhile_of_clean {isDropped : UInt8 → Bool} {text : Bytes}
    (clean : ∀ byte ∈ text, isDropped byte = false) : text.rdropWhile isDropped = text := by
  rw [List.rdropWhile_eq_self_iff]
  intro nonempty
  rw [clean _ (List.getLast_mem nonempty)]
  exact Bool.false_ne_true

theorem rdropWhile_append_of_all {isDropped : UInt8 → Bool} {text trailing : Bytes}
    (all : ∀ byte ∈ trailing, isDropped byte) :
    (text ++ trailing).rdropWhile isDropped = text.rdropWhile isDropped := by
  have nothing : trailing.reverse.dropWhile isDropped = [] :=
    List.dropWhile_eq_nil_iff.mpr fun byte member => all byte (List.mem_reverse.mp member)
  unfold List.rdropWhile
  rw [List.reverse_append, List.dropWhile_append, nothing]
  rfl

/-- **What surrounds the body are blanks.** -/
theorem exists_around_body (text : Bytes) :
    ∃ leading trailing, text = leading ++ body text ++ trailing ∧
      (∀ byte ∈ leading, isLeadingBlank byte) ∧ (∀ byte ∈ trailing, isTrailingBlank byte) ∧
      (body text = [] → trailing = []) := by
  refine ⟨text.takeWhile isLeadingBlank,
    ((text.dropWhile isLeadingBlank).drop 3).rtakeWhile isTrailingBlank, ?_, ?_, ?_, ?_⟩
  · rw [body, trimEnd_eq, List.append_assoc, List.append_assoc, List.rdropWhile_append_rtakeWhile,
      List.take_append_drop, List.takeWhile_append_dropWhile]
  · exact fun byte member => List.mem_takeWhile_imp member
  · exact fun byte member => List.mem_rtakeWhile_imp member
  · intro empty
    rw [body, trimEnd_eq, List.append_eq_nil_iff, List.take_eq_nil_iff] at empty
    rcases empty.1 with impossible | nothing
    · cases impossible
    · rw [nothing]
      rfl

/-- Blanks are dropped, and nothing is added. -/
theorem body_length_le (text : Bytes) : (body text).length ≤ text.length := by
  obtain ⟨leading, trailing, parts, _⟩ := exists_around_body text
  have size := congrArg List.length parts
  rw [List.length_append, List.length_append] at size
  omega

/-- Blanks behind three other bytes are dropped. -/
theorem trimEnd_append {text trailing : Bytes} (long : 3 ≤ text.length)
    (clean : ∀ byte ∈ text, isTrailingBlank byte = false)
    (blank : ∀ byte ∈ trailing, isTrailingBlank byte) : trimEnd (text ++ trailing) = text := by
  rw [trimEnd_eq, List.take_append_of_le_length long, List.drop_append_of_le_length long,
    rdropWhile_append_of_all blank,
    rdropWhile_of_clean fun byte member => clean byte (List.mem_of_mem_drop member),
    List.take_append_drop]

/-- **Blanks around other bytes are dropped**, those behind them only if there are at least three
other bytes. -/
theorem body_around {leading text trailing : Bytes}
    (leadingBlank : ∀ byte ∈ leading, isLeadingBlank byte)
    (clean : ∀ byte ∈ text, isLeadingBlank byte = false ∧ isTrailingBlank byte = false)
    (trailingBlank : ∀ byte ∈ trailing, isTrailingBlank byte)
    (behind : trailing = [] ∨ 3 ≤ text.length) : body (leading ++ text ++ trailing) = text := by
  have front : (leading ++ (text ++ trailing)).dropWhile isLeadingBlank =
      (text ++ trailing).dropWhile isLeadingBlank := by
    rw [List.dropWhile_append, List.dropWhile_eq_nil_iff.mpr leadingBlank]
    rfl
  rw [List.append_assoc, body, front]
  rcases behind with rfl | long
  · rw [List.append_nil]
    exact body_of_clean (fun byte member => (clean byte member).1)
      fun byte member => (clean byte member).2
  · have start : (text ++ trailing).dropWhile isLeadingBlank = text ++ trailing := by
      cases text with
      | nil => exact absurd long (by decide)
      | cons byte text => exact dropWhile_of_head (clean byte List.mem_cons_self).1 _
    rw [start]
    exact trimEnd_append long (fun byte member => (clean byte member).2) trailingBlank

/-- Behind a last byte that is not blank, nothing is dropped. -/
theorem trimEnd_of_last {last : UInt8} (clean : isTrailingBlank last = false) (text : Bytes) :
    trimEnd (text ++ [last]) = text ++ [last] := by
  rw [trimEnd_eq]
  by_cases long : 3 ≤ text.length
  · rw [List.drop_append_of_le_length long,
      List.rdropWhile_concat_neg _ _ _ (by rw [clean]; exact Bool.false_ne_true),
      ← List.drop_append_of_le_length long, List.take_append_drop]
  · have short : (text ++ [last]).length ≤ 3 := by
      rw [List.length_append, List.length_singleton]
      omega
    rw [List.take_of_length_le short, List.drop_of_length_le short, List.rdropWhile_nil,
      List.append_nil]

/-- **Padding keeps the blanks behind the symbols**: only those in front are dropped. -/
theorem body_append_signs (text : Bytes) (count : Nat) :
    body (text ++ List.replicate (count + 1) sign) =
      text.dropWhile isLeadingBlank ++ List.replicate (count + 1) sign := by
  have signs : (List.replicate (count + 1) sign).dropWhile isLeadingBlank =
      List.replicate (count + 1) sign := dropWhile_of_head rfl _
  have front : (text ++ List.replicate (count + 1) sign).dropWhile isLeadingBlank =
      text.dropWhile isLeadingBlank ++ List.replicate (count + 1) sign := by
    rw [List.dropWhile_append, signs]
    split
    · next nothing => rw [List.isEmpty_iff.mp nothing, List.nil_append]
    · rfl
  rw [body, front, List.replicate_succ', ← List.append_assoc]
  exact trimEnd_of_last rfl _

/-- **Exchanging bytes without making or removing blanks** exchanges the bytes of the body. -/
theorem body_map {exchange : UInt8 → UInt8}
    (leading : ∀ byte, isLeadingBlank (exchange byte) = isLeadingBlank byte)
    (trailing : ∀ byte, isTrailingBlank (exchange byte) = isTrailingBlank byte) (text : Bytes) :
    body (text.map exchange) = (body text).map exchange := by
  have sameLeading : isLeadingBlank ∘ exchange = isLeadingBlank := funext leading
  have sameTrailing : isTrailingBlank ∘ exchange = isTrailingBlank := funext trailing
  rw [body, trimEnd, List.dropWhile_map, sameLeading, ← List.map_take, ← List.map_drop,
    ← List.map_reverse, List.dropWhile_map, sameTrailing, ← List.map_reverse, ← List.map_append]
  rfl

end StorageBlock.Base64.Padded
