/-
**Printed blocks.**

A block is printed as its number, its generation and its checksum, side by side: the signs that
separate them also occur within them. Still nothing is ambiguous, because a number ends with its
digits.

* `version_append_inj`: number and generation are known from what begins with them;
* `printed_unambiguous`: two blocks are printed alike exactly if they agree in number, generation
  and checksum, in either form and from one form to the other.
-/

import Mathlib.Tactic.MkIffOfInductiveProp
import StorageBlock.Proofs.Checksum.Text
import StorageBlock.Proofs.Decimal.Numerals

namespace StorageBlock.Block

/-- Two descriptions agree in all that is printed; the length of the data is not. -/
@[mk_iff] structure SameIdentity (first second : Block) : Prop where
  id : first.id = second.id
  generation : first.generation = second.generation
  checksum : first.checksum = second.checksum

/-! ### Number and generation -/

theorem version_append (block : Block) (rest : Bytes) :
    block.version ++ rest = FileName.opening ++ (Decimal.ofInt block.id.toInt ++
      FileName.underscore :: (Decimal.ofInt block.generation.toInt ++ rest)) := by
  rw [version, name, List.append_assoc, List.append_assoc, List.cons_append]

/-- **Number and generation are known from the text that begins with them**, if no digit follows. -/
theorem version_append_inj {first second : Block} {rest tail : Bytes} (ended : EndsNumber rest)
    (stopped : EndsNumber tail) : first.version ++ rest = second.version ++ tail ↔
      first.id = second.id ∧ first.generation = second.generation ∧ rest = tail := by
  have mark (rest : Bytes) : EndsNumber (FileName.underscore :: rest) :=
    endsNumber_cons (by decide) rest
  rw [version_append, version_append]
  constructor
  · intro same
    obtain ⟨id, behind⟩ :=
      Decimal.ofInt_append_inj (mark _) (mark _) (List.append_cancel_left same)
    obtain ⟨generation, behind⟩ := Decimal.ofInt_append_inj ended stopped (List.cons.inj behind).2
    exact ⟨Int64.toInt_inj.mp id, Int64.toInt_inj.mp generation, behind⟩
  · rintro ⟨id, generation, rfl⟩
    rw [id, generation]

/-! ### The checksum behind them -/

/-- What is printed behind the generation: nothing without a checksum. -/
def ending : Option Bytes → Bytes
  | some checksum => ascii "--" ++ Checksum.spelling checksum
  | none => []

/-- What is always printed behind the generation. -/
def fullEnding (checksum : Option Bytes) : Bytes := ascii "--" ++ Checksum.wording checksum

theorem text_of_fits {block : Block} (fits : block.Fits) :
    block.text = .ok (block.version ++ ending block.checksum) := by
  rw [text]
  split
  next checksum present =>
    rw [Checksum.encode_of_fits (fits checksum present), present, ending, ← List.append_assoc]
    rfl
  next absent => rw [absent, ending, List.append_nil]

theorem fullText_of_fits {block : Block} (fits : block.Fits) :
    block.fullText = .ok (block.version ++ fullEnding block.checksum) := by
  rw [fullText, checksumText, Checksum.text_of_fits fits, fullEnding, ← List.append_assoc]
  rfl

theorem endsNumber_fullEnding (checksum : Option Bytes) : EndsNumber (fullEnding checksum) :=
  endsNumber_cons (by decide) _

theorem endsNumber_ending (checksum : Option Bytes) : EndsNumber (ending checksum) := by
  cases checksum with
  | some checksum => exact endsNumber_fullEnding (some checksum)
  | none => exact endsNumber_nil

variable {one other : Option Bytes}

theorem fullEnding_inj : fullEnding one = fullEnding other ↔ one = other := by
  unfold fullEnding
  rw [List.append_cancel_left_eq]
  exact ⟨Checksum.wording_injective, congrArg Checksum.wording⟩

theorem ending_eq_fullEnding : ending one = fullEnding other ↔ one = other ∧ other ≠ none := by
  cases one with
  | none =>
    constructor
    · intro same
      cases same
    · rintro ⟨rfl, present⟩
      exact absurd rfl present
  | some checksum =>
    show fullEnding (some checksum) = fullEnding other ↔ _
    rw [fullEnding_inj]
    constructor
    · rintro rfl
      exact ⟨rfl, Option.some_ne_none checksum⟩
    · exact fun both => both.1

theorem ending_inj : ending one = ending other ↔ one = other := by
  cases other with
  | some checksum =>
    show ending one = fullEnding (some checksum) ↔ _
    rw [ending_eq_fullEnding]
    exact and_iff_left (Option.some_ne_none checksum)
  | none =>
    cases one with
    | none => exact iff_of_true rfl rfl
    | some checksum => exact iff_of_false (List.cons_ne_nil _ _) (Option.some_ne_none checksum)

/-! ### Printed alike -/

/-- **Printed blocks are unambiguous.** Two blocks have one printed text exactly if they agree in
number, generation and checksum, and the same holds for the text with a word for an absent checksum.
One block's text is another's text of the second kind exactly if they agree and there is a
checksum. -/
theorem printed_unambiguous {first second : Block} (firstFits : first.Fits)
    (secondFits : second.Fits) :
    ∃ one other oneFull otherFull,
      (first.text = .ok one ∧ second.text = .ok other ∧ first.fullText = .ok oneFull ∧
        second.fullText = .ok otherFull) ∧
      (one = other ↔ SameIdentity first second) ∧
      (oneFull = otherFull ↔ SameIdentity first second) ∧
      (one = otherFull ↔ SameIdentity first second ∧ second.checksum ≠ none) := by
  refine ⟨_, _, _, _, ⟨text_of_fits firstFits, text_of_fits secondFits,
    fullText_of_fits firstFits, fullText_of_fits secondFits⟩, ?_, ?_, ?_⟩
  · rw [sameIdentity_iff, version_append_inj (endsNumber_ending _) (endsNumber_ending _),
      ending_inj]
  · rw [sameIdentity_iff, version_append_inj (endsNumber_fullEnding _) (endsNumber_fullEnding _),
      fullEnding_inj]
  · rw [sameIdentity_iff, version_append_inj (endsNumber_ending _) (endsNumber_fullEnding _),
      ending_eq_fullEnding, and_assoc, and_assoc]

/-- The bytes that the word for an absent checksum would stand for are printed differently from it;
the length of the data is not printed. -/
theorem printed_unambiguous_word :
    let first : Block := ⟨1, 2, -3, some [158, 135, 33, 121, 201, 44, 186]⟩
    let second : Block := ⟨1, 5, -3, none⟩
    let third : Block := ⟨1, 8, -3, none⟩
    first.Fits ∧ second.Fits ∧ third.Fits ∧
      (∃ one otherFull, first.text = .ok one ∧ second.fullText = .ok otherFull ∧
        one ≠ otherFull) ∧
      ∃ text, second.text = .ok text ∧ third.text = .ok text := by
  intro first second third
  have firstFits : first.Fits := by decide
  have secondFits : second.Fits := by decide
  have thirdFits : third.Fits := by decide
  refine ⟨firstFits, secondFits, thirdFits, ?_, ?_⟩
  · obtain ⟨one, _, _, otherFull, ⟨text, _, _, full⟩, _, _, alike⟩ :=
      printed_unambiguous firstFits secondFits
    exact ⟨one, otherFull, text, full, fun same => (alike.mp same).2 rfl⟩
  · obtain ⟨one, other, _, _, ⟨text, others, _, _⟩, alike, _⟩ :=
      printed_unambiguous secondFits thirdFits
    obtain rfl := alike.mpr ⟨rfl, rfl, rfl⟩
    exact ⟨one, text, others⟩

end StorageBlock.Block
