/-
**The names of one block.**

The data file of a block has one name that is made from the number, and more that are read as this
number: its digits may have zeros in front, and the number zero may have a minus sign. These are all
the names that a block has.

* `dataBlockId?_eq_some`: a name with a number is a numeral behind `blk_`;
* `name_eq_iff_canonical`: it is the name that is made from the number if the numeral is canonical;
* `aliases_of_block`: which names are made from their number, and which two name the same block.
-/

import StorageBlock.Proofs.Decimal.LeadingZeros
import StorageBlock.Proofs.FileName.RoundTrip

namespace StorageBlock.FileName

variable {name other : Bytes} {id : Int64}

/-- A name has a number if it is a numeral behind the opening, and the number is that of the
numeral. -/
theorem dataBlockId?_eq_some :
    dataBlockId? name = some id ↔
      ∃ numeral : Numeral, name = ascii "blk_" ++ numeral.text ∧ numeral.value = id.toInt := by
  constructor
  · intro found
    rw [dataBlockId?] at found
    split at found
    next numeral parsed =>
      exact ⟨numeral, parse?_eq_some.mp parsed, (Decimal.int64?_eq_some.mp found).symm⟩
    next => cases found
  · rintro ⟨numeral, rfl, value⟩
    exact (dataBlockId?_block numeral).trans (Decimal.int64?_eq_some.mpr value.symm)

/-- **A name is made from its number** exactly if its numeral is canonical. -/
theorem name_eq_iff_canonical {numeral : Numeral} (value : numeral.value = id.toInt) :
    ascii "blk_" ++ numeral.text = (Block.ofId id).name ↔ numeral.Canonical := by
  rw [numeral.canonical_iff_ofInt, value]
  exact List.append_right_inj (ascii "blk_")

/-- Two names have the same number exactly if the same is left of their numerals. -/
theorem dataBlockId?_eq_iff {one another : Numeral} {same : Int64} (value : one.value = id.toInt)
    (equal : another.value = same.toInt) : id = same ↔ one.reduced = another.reduced := by
  rw [Numeral.reduced_eq_iff, value, equal, Int64.toInt_inj]

/-- **Which names name one block.** A name with a number is a numeral behind `blk_`. It is the name
that is made from the number exactly if the numeral is zero, or digits of which the first is not
zero, with a minus sign or without. Two names have the same number exactly if their numerals are the
same when zeros in front are left out, and a minus sign in front of zero; so if two names of one
block differ, one of them has such a zero or such a sign. -/
theorem aliases_of_block {same : Int64} (found : dataBlockId? name = some id)
    (again : dataBlockId? other = some same) :
    ∃ numeral another : Numeral,
      name = ascii "blk_" ++ numeral.text ∧ other = ascii "blk_" ++ another.text ∧
      (name = (Block.ofId id).name ↔
        numeral.text = ascii "0" ∨ numeral.magnitude.text.head? ≠ some Decimal.zero) ∧
      (dataBlockId? name = dataBlockId? other ↔ numeral.reduced = another.reduced) ∧
      (dataBlockId? name = dataBlockId? other → name ≠ other →
        numeral.Redundant ∨ another.Redundant) := by
  obtain ⟨numeral, rfl, value⟩ := dataBlockId?_eq_some.mp found
  obtain ⟨another, rfl, equal⟩ := dataBlockId?_eq_some.mp again
  have own := name_eq_iff_canonical value
  have theirs := name_eq_iff_canonical equal
  refine ⟨numeral, another, rfl, rfl, own, ?_, fun agree differ => ?_⟩
  · rw [found, again, Option.some.injEq]
    exact dataBlockId?_eq_iff value equal
  · rw [found, again, Option.some.injEq] at agree
    subst agree
    -- Only one name is made from the number, so that not both numerals are canonical.
    by_contra neither
    rw [not_or] at neither
    have one := own.mpr (numeral.canonical_iff_not_redundant.mpr neither.1)
    have two := theirs.mpr (another.canonical_iff_not_redundant.mpr neither.2)
    exact differ (one.trans two.symm)

/-- Zero with a minus sign and a zero in front, and zero as it is written. -/
theorem aliases_of_block_zero :
    let name := ascii "blk_-00"
    let other := ascii "blk_0"
    (dataBlockId? name = some 0 ∧ dataBlockId? other = some 0) ∧
      ∃ numeral another : Numeral,
        name = ascii "blk_" ++ numeral.text ∧ other = ascii "blk_" ++ another.text ∧
        numeral.reduced = another.reduced ∧ (numeral.Redundant ∨ another.Redundant) := by
  intro name other
  have found : dataBlockId? name = some 0 := by decide +kernel
  have again : dataBlockId? other = some 0 := by decide +kernel
  have agree : dataBlockId? name = dataBlockId? other := found.trans again.symm
  obtain ⟨numeral, another, spelled, spells, _, reduced, redundant⟩ := aliases_of_block found again
  exact ⟨⟨found, again⟩, numeral, another, spelled, spells, reduced.mp agree,
    redundant agree (by decide)⟩

end StorageBlock.FileName
