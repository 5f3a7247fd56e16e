/-
**Byte strings.**

Names, paths, texts and file contents are all lists of bytes: nothing in this library assumes that
they are valid in some character encoding. The operations here are the ones that several formats
share:

* `ascii` spells a fixed text, and `after?` removes a fixed text from the front (`after?_eq_some`);
* `untilZero` ends a text at its first zero byte;
* `cutLast` cuts at the last occurrence of a mark (`cutLast_eq_some`, `cutLast_eq_none`);
* `chunks` splits into pieces of one size (`chunks_flatten`: nothing is lost);
* `overwrite` replaces a stretch of a buffer (`overwrite_length`: a stretch inside keeps the size;
  `overwrite_overwrite`: two stretches side by side are one).
-/

namespace StorageBlock

/-- A byte string. -/
abbrev Bytes := List UInt8

/-- The bytes of a text whose characters are all ASCII. -/
def ascii (text : String) : Bytes := text.toList.map fun character => character.val.toUInt8

theorem ascii_append (first second : String) :
    ascii (first ++ second) = ascii first ++ ascii second := by
  rw [ascii, String.toList_append, List.map_append, ascii, ascii]

namespace Bytes

/-! ### Fixed texts and marks -/

/-- The part of a text before its first zero byte. -/
def untilZero (text : Bytes) : Bytes := text.takeWhile (· != 0)

/-- What follows `start` in a text that begins with it. -/
def after? : (start text : Bytes) → Option Bytes
  | [], text => some text
  | _ :: _, [] => none
  | expected :: start, byte :: text => if byte = expected then after? start text else none

theorem after?_eq_some {start text rest : Bytes} :
    after? start text = some rest ↔ text = start ++ rest := by
  induction start generalizing text with
  | nil => simp [after?]
  | cons expected start hypothesis =>
    cases text with
    | nil => simp [after?]
    | cons byte text =>
      by_cases same : byte = expected <;> simp [after?, same, hypothesis]

/-- The parts of a text before and after the last occurrence of a mark. -/
def cutLast (mark : UInt8) : Bytes → Option (Bytes × Bytes)
  | [] => none
  | byte :: text =>
    match cutLast mark text with
    | some (front, back) => some (byte :: front, back)
    | none => if byte = mark then some ([], text) else none

theorem cutLast_eq_none {mark : UInt8} {text : Bytes} :
    cutLast mark text = none ↔ mark ∉ text := by
  induction text with
  | nil => simp [cutLast]
  | cons byte text hypothesis =>
    rw [cutLast]
    split
    next front back found =>
      have present : mark ∈ text := by
        false_or_by_contra
        rename_i absent
        rw [hypothesis.mpr absent] at found
        cases found
      simp [present]
    next missing =>
      have absent := hypothesis.mp missing
      by_cases same : byte = mark
      · simp [same]
      · simp [same, absent, Ne.symm same]

theorem cutLast_eq_some {mark : UInt8} {text front back : Bytes} :
    cutLast mark text = some (front, back) ↔ text = front ++ mark :: back ∧ mark ∉ back := by
  induction text generalizing front with
  | nil => simp [cutLast]
  | cons byte text hypothesis =>
    rw [cutLast]
    split
    next before after found =>
      have split := (@hypothesis before).mp
      constructor
      · intro same
        obtain ⟨rfl, rfl⟩ : byte :: before = front ∧ after = back := by simpa using same
        obtain ⟨rfl, absent⟩ := split found
        exact ⟨rfl, absent⟩
      · rintro ⟨same, absent⟩
        cases front with
        | nil =>
          obtain ⟨rfl, rfl⟩ : byte = mark ∧ text = back := by simpa using same
          rw [cutLast_eq_none.mpr absent] at found
          cases found
        | cons first front =>
          obtain ⟨rfl, rest⟩ : byte = first ∧ text = front ++ mark :: back := by simpa using same
          have cut := hypothesis.mpr ⟨rest, absent⟩
          rw [found] at cut
          obtain ⟨rfl, rfl⟩ : before = front ∧ after = back := by simpa using cut
          rfl
    next missing =>
      have missing := cutLast_eq_none.mp missing
      cases front with
      | nil =>
        by_cases same : byte = mark
        · subst same
          simp only [if_true, Option.some.injEq, Prod.mk.injEq, true_and, List.nil_append,
            List.cons.injEq]
          constructor
          · rintro rfl
            exact ⟨rfl, missing⟩
          · exact fun both => both.1
        · simp [same]
      | cons first front =>
        constructor
        · intro found
          split at found <;> simp at found
        · rintro ⟨same, _⟩
          obtain ⟨_, rest⟩ : byte = first ∧ text = front ++ mark :: back := by simpa using same
          exact absurd (by simp [rest]) missing

/-! ### Pieces of one size -/

/-- A byte string cut into pieces of `size` bytes, of which the last may be shorter. -/
def chunks (size : Nat) (positive : 0 < size) (bytes : Bytes) : List Bytes :=
  if bytes = [] then [] else bytes.take size :: chunks size positive (bytes.drop size)
termination_by bytes.length
decreasing_by
  rename_i nonempty
  have := List.length_pos_iff.mpr nonempty
  simp only [List.length_drop]
  omega

@[simp] theorem chunks_nil {size : Nat} (positive : 0 < size) : chunks size positive [] = [] := by
  rw [chunks, if_pos rfl]

theorem chunks_of_ne_nil {size : Nat} (positive : 0 < size) {bytes : Bytes}
    (nonempty : bytes ≠ []) :
    chunks size positive bytes = bytes.take size :: chunks size positive (bytes.drop size) := by
  rw [chunks, if_neg nonempty]

/-- **The pieces together are the whole.** -/
theorem chunks_flatten {size : Nat} (positive : 0 < size) (bytes : Bytes) :
    (chunks size positive bytes).flatten = bytes := by
  fun_induction chunks size positive bytes with
  | case1 => rfl
  | case2 bytes nonempty hypothesis =>
    rw [List.flatten_cons, hypothesis, List.take_append_drop]

/-! ### Writing into a buffer -/

/-- The buffer after `data` has been written over it from `position` on. -/
def overwrite (buffer : Bytes) (position : Nat) (data : Bytes) : Bytes :=
  buffer.take position ++ data ++ buffer.drop (position + data.length)

theorem overwrite_length {buffer : Bytes} {position : Nat} {data : Bytes}
    (inside : position + data.length ≤ buffer.length) :
    (overwrite buffer position data).length = buffer.length := by
  simp only [overwrite, List.length_append, List.length_take, List.length_drop]
  omega

theorem overwrite_nil (buffer : Bytes) (position : Nat) :
    overwrite buffer position [] = buffer := by
  simp only [overwrite, List.append_nil, List.length_nil, Nat.add_zero, List.take_append_drop]

/-- From the stretch on, the buffer holds the data and then what it held before. -/
theorem drop_overwrite {buffer : Bytes} {position : Nat} (inside : position ≤ buffer.length)
    (data : Bytes) :
    (overwrite buffer position data).drop position =
      data ++ buffer.drop (position + data.length) := by
  rw [overwrite, List.append_assoc]
  exact List.drop_left' (List.length_take_of_le inside)

/-- The stretch holds the data. -/
theorem overwrite_stretch {buffer : Bytes} {position : Nat} (inside : position ≤ buffer.length)
    (data : Bytes) :
    ((overwrite buffer position data).drop position).take data.length = data := by
  rw [drop_overwrite inside, List.take_left]

/-- Behind the stretch the buffer stays as it was. -/
theorem drop_behind_overwrite {buffer : Bytes} {position : Nat} (inside : position ≤ buffer.length)
    (data : Bytes) :
    (overwrite buffer position data).drop (position + data.length) =
      buffer.drop (position + data.length) := by
  rw [← List.drop_drop, drop_overwrite inside, List.drop_left]

/-- Writing behind what has just been written is writing both at once. -/
theorem overwrite_overwrite {buffer : Bytes} {position : Nat} (inside : position ≤ buffer.length)
    (first second : Bytes) :
    overwrite (overwrite buffer position first) (position + first.length) second =
      overwrite buffer position (first ++ second) := by
  have front : (overwrite buffer position first).take (position + first.length) =
      buffer.take position ++ first := by
    have width : (buffer.take position ++ first).length = position + first.length := by
      rw [List.length_append, List.length_take_of_le inside]
    exact List.take_left' width
  have back : (overwrite buffer position first).drop (position + first.length + second.length) =
      buffer.drop (position + (first ++ second).length) := by
    rw [Nat.add_assoc, ← List.drop_drop, drop_overwrite inside, ← List.drop_drop, List.drop_left,
      List.drop_drop, List.length_append, Nat.add_assoc]
  rw [overwrite, front, back, overwrite, List.append_assoc _ first]

end Bytes

end StorageBlock
