/-
**The space that reading a checksum takes.**

In memory, the reader of padded Base64 is given a space of three bytes for each four bytes of the
text. It writes three bytes for each group of four symbols until it meets a byte without a value,
and reports in a signed word how many bytes it has written, or minus one. The space is then cut to
that number without the bytes of the padding, and this difference of unsigned words wraps around if
more was added than is reported.

* `Padded.fill`, `Padded.decodeInto` and `decodeInPlace` read in this way, and a `Mishap` is all
  that could go wrong;
* `Padded.fill_eq`: a group at a time, nothing is written behind the end of the space;
* `decodeInPlace_eq`: reading in memory is reading;
* `decode_within_space`: of a text whose length fits a word, it ends with a checksum or refuses the
  text.
-/

import StorageBlock.Proofs.Checksum.Language

namespace StorageBlock

/-! ### Reading into a space -/

namespace Base64.Padded

/-- Writes the bytes of groups of four symbols into a space, behind those that are written already,
up to the first group with a byte that has no value. Gives the space and the report: the number of
bytes written, or minus one. There is no result if a byte would be written behind the end of the
space. -/
def fill (space : Bytes) (written : Nat) : Bytes → Option (Bytes × Int32)
  | first :: second :: third :: fourth :: rest =>
    match [first, second, third, fourth].mapM sextet? with
    | none => some (space, -1)
    | some values =>
      if written + 3 ≤ space.length then
        fill (Bytes.overwrite space written (octets values)) (written + 3) rest
      else none
  | _ => some (space, Int32.ofNat written)

/-- Reads a text into a space. -/
def decodeInto (space text : Bytes) : Option (Bytes × Int32) :=
  if (body text).length % 4 = 0 then fill space 0 (body text) else some (space, -1)

/-- What is reported of a reading, when some bytes had been written before. -/
def report (written : Nat) : Option Bytes → Int32
  | some bytes => Int32.ofNat (written + bytes.length)
  | none => -1

/-! ### A group at a time -/

/-- The bytes of symbols, if each has a value. -/
def octets? (symbols : Bytes) : Option Bytes := (symbols.mapM sextet?).map octets

theorem octets_append {front : List Sextet} (four : front.length = 4) (values : List Sextet) :
    octets (front ++ values) = octets front ++ octets values := by
  match front, four with
  | [_, _, _, _], _ => rfl

theorem octets?_group (first second third fourth : UInt8) (rest : Bytes) :
    octets? (first :: second :: third :: fourth :: rest) =
      ([first, second, third, fourth].mapM sextet?).bind fun values =>
        (octets? rest).map (octets values ++ ·) := by
  show (([first, second, third, fourth] ++ rest).mapM sextet?).map octets = _
  rw [List.mapM_append]
  cases read : [first, second, third, fourth].mapM sextet? with
  | none => rfl
  | some values =>
    unfold octets?
    cases rest.mapM sextet? with
    | none => rfl
    | some others => exact congrArg some (octets_append (length_of_mapM read) others)

/-- **Nothing is written behind the end of the space** if it has three bytes for each group. What is
written are the bytes of the symbols, if each has a value. -/
theorem fill_eq {space symbols : Bytes} {written : Nat} (whole : symbols.length % 4 = 0)
    (room : written + 3 * (symbols.length / 4) ≤ space.length) :
    ∃ filled, fill space written symbols = some (filled, report written (octets? symbols)) ∧
      ∀ bytes, octets? symbols = some bytes → filled = Bytes.overwrite space written bytes := by
  fun_induction fill space written symbols with
  | case1 space written first second third fourth rest unread =>
    -- The groups in front have been written; what they have left is the space here.
    rw [octets?_group, unread]
    exact ⟨space, rfl, fun bytes read => by cases read⟩
  | case2 space written first second third fourth rest values read inside hypothesis =>
    simp only [List.length_cons] at whole room
    have three : (octets values).length = 3 := by simp [octets_length, length_of_mapM read]
    have size : (Bytes.overwrite space written (octets values)).length = space.length :=
      Bytes.overwrite_length (by omega)
    obtain ⟨filled, run, content⟩ := hypothesis (by omega) (by omega)
    rw [octets?_group, read, run, Option.bind_some]
    cases others : octets? rest with
    | none => exact ⟨filled, rfl, fun bytes read => by cases read⟩
    | some bytes =>
      refine ⟨filled, ?_, fun both same => ?_⟩
      · simp [report, three, Nat.add_assoc]
      · obtain rfl := Option.some.inj same
        rw [content bytes others, ← three, Bytes.overwrite_overwrite (by omega)]
  | case3 space written first second third fourth rest values read outside =>
    simp only [List.length_cons] at room
    omega
  | case4 symbols space written short =>
    have nothing : symbols = [] := by
      match symbols, short with
      | [], _ => rfl
      | [_], _ | [_, _], _ | [_, _, _], _ => simp at whole
      | first :: second :: third :: fourth :: rest, short =>
        exact absurd rfl (short first second third fourth rest)
    subst nothing
    refine ⟨space, rfl, fun bytes read => ?_⟩
    obtain rfl := Option.some.inj read
    exact (Bytes.overwrite_nil space written).symm

theorem decodeInto_eq {space text : Bytes} (room : 3 * (text.length / 4) ≤ space.length) :
    ∃ filled, decodeInto space text = some (filled, report 0 (decode text)) ∧
      ∀ bytes, decode text = some bytes → filled = Bytes.overwrite space 0 bytes := by
  unfold decodeInto decode
  by_cases whole : (body text).length % 4 = 0
  · rw [if_pos whole, if_pos whole]
    have inside := body_length_le text
    exact fill_eq whole (by omega)
  · rw [if_neg whole, if_neg whole]
    exact ⟨space, rfl, fun bytes read => by cases read⟩

end Base64.Padded

namespace Checksum

open Base64

/-! ### Cutting the space -/

/-- Why a reading in memory ends without a checksum. -/
inductive Mishap where
  /-- The text is not the text of a checksum. -/
  | refused (error : FormatError)
  /-- A byte would be written behind the end of the space. -/
  | overrun
  /-- The space would be given a size beyond what memory can hold. -/
  | size (error : SizeError)

/-- The mishap that a failure is. -/
def Mishap.ofFailure : Failure FormatError → Mishap
  | .cause error => refused error
  | .size error => size error

/-- The space for the bytes of a text: three zeros for each four bytes of the completed text. -/
def space (text : Bytes) : Bytes := List.replicate (3 * ((padded text).length / 4)) 0

theorem space_length (text : Bytes) : (space text).length = 3 * ((padded text).length / 4) :=
  List.length_replicate

/-- The checksum that a text stands for, read in memory. -/
def decodeInPlace (text : Bytes) : Except Mishap Bytes :=
  if text = [] then .ok []
  else if text.length % 4 = 1 then .error (.refused (.length text))
  else if text.any isForeign then .error (.refused (.character text))
  else
    match Padded.decodeInto (space text) (padded text).counted with
    | none => .error .overrun
    | some (filled, reported) =>
      if reported < 0 then .error (.refused (.encoding text))
      else (Bytes.resize filled (remaining reported (padding text.length))).mapError .size

/-! ### The report and the padding -/

/-- What a reading of a completed text leaves in its space and reports. -/
theorem decodeInto_counted (text : Bytes) :
    ∃ filled, Padded.decodeInto (space text) (padded text).counted =
        some (filled, Padded.report 0 (Padded.decode (padded text).counted)) ∧
      ∀ bytes, Padded.decode (padded text).counted = some bytes →
        filled = Bytes.overwrite (space text) 0 bytes := by
  have inside := (Bytes.counted_length (padded text)).2
  refine Padded.decodeInto_eq ?_
  rw [space_length]
  omega

/-- **A difference of sizes** is that of the numbers, or it is a size beyond all memory. -/
theorem remaining_cases {bytes : Bytes} {added : Nat} (small : bytes.length < 2 ^ 31)
    (few : added < 4) :
    (remaining (Bytes.lengthWord bytes) added).toNat ≤ bytes.length ∨
      Bytes.memoryLimit < (remaining (Bytes.lengthWord bytes) added).toNat := by
  by_cases enough : added ≤ bytes.length
  · refine .inl ?_
    rw [toNat_remaining small enough]
    exact Nat.sub_le _ _
  · refine .inr ?_
    have size := Bytes.toNat_sizeOfWord_lengthWord small
    have word : (UInt64.ofNat added).toNat = added :=
      UInt64.toNat_ofNat_of_lt' (by unfold UInt64.size; omega)
    rw [remaining, UInt64.toNat_sub, size, word, Bytes.memoryLimit]
    omega

/-- **Reading in memory is reading**, for texts of any length: no byte is written behind the end of
the space, and what is cut off does not depend on the rest of the space. -/
theorem decodeInPlace_eq (text : Bytes) :
    decodeInPlace text = (decode text).mapError .ofFailure := by
  obtain ⟨filled, run, content⟩ := decodeInto_counted text
  unfold decodeInPlace decode
  split
  · rfl
  split
  · rfl
  split
  · rfl
  rw [run, Padded.decodeFirst, ← Bytes.counted]
  cases read : Padded.decode (padded text).counted with
  | none => rfl
  | some bytes =>
    have few : padding text.length < 4 := Nat.mod_lt _ (by decide)
    obtain ⟨_, count⟩ := Padded.decode_length read
    have body := Padded.body_length_le (padded text).counted
    obtain ⟨below, inside⟩ := Bytes.counted_length (padded text)
    have small : bytes.length < 2 ^ 31 := by omega
    have front : filled.take bytes.length = bytes := by
      rw [content bytes read, Bytes.overwrite, List.take_zero, List.nil_append]
      exact List.take_left
    have wider : bytes.length ≤ filled.length := by
      rw [← front, List.length_take]
      exact Nat.min_le_right _ _
    show (if Padded.report 0 (some bytes) < 0 then _ else _) = Except.mapError _
      (if Bytes.lengthWord bytes < 0 then _ else _)
    rw [Padded.report, Nat.zero_add, ← Bytes.lengthWord]
    split
    · rfl
    rcases remaining_cases small few with shorter | beyond
    · have limit : (remaining (Bytes.lengthWord bytes) (padding text.length)).toNat ≤
          Bytes.memoryLimit := by
        unfold Bytes.memoryLimit
        omega
      have same := congrArg
        (List.take (remaining (Bytes.lengthWord bytes) (padding text.length)).toNat) front
      rw [List.take_take, Nat.min_eq_left shorter] at same
      rw [Bytes.resize_of_le (by omega) limit, Bytes.resize_of_le shorter limit, same]
      rfl
    · rw [Bytes.resize, Bytes.resize, if_pos beyond, if_pos beyond]
      rfl

/-- **Cutting the space is safe.** In memory, a completed text is read without a byte written behind
the end of the space. If the text is not refused, at least as many bytes are reported as signs were
added and at most as many as the space has, so that the difference of the two is that of the
numbers. So reading in memory ends with the checksum that is read or refuses the text for the same
reason, and for no other. -/
theorem decode_within_space {text : Bytes} (short : (padded text).length < 2 ^ 31) :
    (∃ filled reported,
      Padded.decodeInto (space text) (padded text) = some (filled, reported) ∧
        (0 ≤ reported →
          padding text.length ≤ reported.toInt ∧
            reported.toInt ≤ ↑(3 * ((padded text).length / 4)) ∧
            (remaining reported (padding text.length)).toNat =
              reported.toInt - padding text.length)) ∧
      ∃ outcome : Except FormatError Bytes,
        decodeInPlace text = outcome.mapError .refused ∧
          decode text = outcome.mapError .cause := by
  have whole := Bytes.counted_of_short short
  obtain ⟨filled, run, _⟩ := decodeInto_counted text
  rw [whole] at run
  refine ⟨⟨filled, _, run, fun accepted => ?_⟩, parse text, ?_, decode_of_short short⟩
  · cases read : Padded.decode (padded text) with
    | none =>
      rw [read] at accepted
      exact absurd accepted (by decide)
    | some bytes =>
      obtain ⟨enough, inside⟩ := length_of_padded read
      have small : bytes.length < 2 ^ 31 := by omega
      rw [Padded.report, Nat.zero_add, ← Bytes.lengthWord, toNat_remaining small enough,
        Bytes.lengthWord, Int32.toInt_ofNat_of_lt small]
      omega
  · rw [decodeInPlace_eq, decode_of_short short]
    cases parse text with
    | ok checksum => rfl
    | error error => rfl

/-- Four blanks and two symbols: three bytes are reported in a space of six, and two of them belong
to the padding. -/
theorem decode_within_space_blanks :
    let text := ascii "    AQ"
    (padded text).length < 2 ^ 31 ∧ (space text).length = 6 ∧
      Padded.decodeInto (space text) (padded text) = some ([1, 0, 0, 0, 0, 0], 3) ∧
      (remaining 3 (padding text.length)).toNat = 1 ∧ decodeInPlace text = .ok [1] := by
  intro text
  have short : (padded text).length < 2 ^ 31 := by decide
  have run : Padded.decodeInto (space text) (padded text) = some ([1, 0, 0, 0, 0, 0], 3) := by
    decide +kernel
  have known : parse (ascii "    AQ") = .ok [1] := rfl
  have accepted : decode text = .ok [1] := (decode_eq_ok_iff short).mpr known
  obtain ⟨⟨filled, reported, read, bounds⟩, outcome, inPlace, same⟩ := decode_within_space short
  obtain ⟨rfl, rfl⟩ := Prod.mk.inj (Option.some.inj (run.symm.trans read))
  obtain ⟨_, _, left⟩ := bounds (by decide)
  have difference : (3 : Int32).toInt - padding text.length = 1 := by decide
  rw [accepted] at same
  cases outcome with
  | error error => cases same
  | ok checksum =>
    obtain rfl := Except.ok.inj same
    exact ⟨short, by decide, run, Int.ofNat_inj.mp (left.trans difference), inPlace⟩

end Checksum

end StorageBlock
