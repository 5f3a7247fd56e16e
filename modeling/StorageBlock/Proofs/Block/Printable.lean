/-
**Printable texts.**

Numbers, checksums and the wording around them are printable: they hold neither a zero byte, at
which a message would end, nor a line feed, at which a line would.

* `Printable.untilZero`, `Printable.no_feed`: what this is good for;
* `Block.printable_writeText`, `Block.printable_readText`: so are the records of the log;
* `WireError.printable_message`: and the wording of every error of the binary format.
-/

import Mathlib.Data.List.TakeWhile
import StorageBlock.Proofs.Wire.Records
import StorageBlock.Wire.Error

namespace StorageBlock

/-- All bytes are printable, from the blank to the tilde. -/
def Printable (text : Bytes) : Prop := ∀ byte ∈ text, 32 ≤ byte.toNat ∧ byte.toNat ≤ 126

instance (text : Bytes) : Decidable (Printable text) :=
  decidable_of_iff (text.all (fun byte => decide (32 ≤ byte.toNat ∧ byte.toNat ≤ 126)) = true)
    (by simp only [List.all_eq_true, decide_eq_true_eq, Printable])

namespace Printable

variable {first second text : Bytes}

theorem append (one : Printable first) (other : Printable second) :
    Printable (first ++ second) := by
  intro byte member
  rcases List.mem_append.mp member with inside | inside
  · exact one byte inside
  · exact other byte inside

theorem untilZero (printable : Printable text) : text.untilZero = text := by
  refine List.takeWhile_eq_self_iff.mpr fun byte member => ?_
  have range := (printable byte member).1
  rw [bne_iff_ne]
  rintro rfl
  revert range
  decide

theorem no_feed (printable : Printable text) : 10 ∉ text := by
  intro member
  have range := (printable 10 member).1
  revert range
  decide

end Printable

theorem Decimal.printable_ofNat (value : Nat) : Printable (ofNat value) := by
  intro byte member
  have range := isDigit_iff.mp (List.all_eq_true.mp (all_isDigit_ofNat value) byte member)
  omega

theorem Decimal.printable_ofInt (value : Int) : Printable (ofInt value) := by
  unfold ofInt
  split
  · exact .append (by decide) (printable_ofNat _)
  · exact printable_ofNat _

theorem Checksum.printable_spelling (checksum : Bytes) : Printable (spelling checksum) := by
  have symbols : ∀ value, 32 ≤ (Base64.Alphabet.urlSafe.symbol value).toNat ∧
      (Base64.Alphabet.urlSafe.symbol value).toNat ≤ 126 := by decide
  intro byte member
  obtain ⟨value, _, rfl⟩ := List.mem_map.mp member
  exact symbols value

theorem Checksum.printable_wording (checksum : Option Bytes) : Printable (wording checksum) := by
  cases checksum with
  | none => exact (by decide : Printable absentText)
  | some checksum => exact printable_spelling checksum

namespace Block

theorem printable_noteText (block : Block) : Printable block.noteText :=
  (Printable.append (.append (by decide) (Decimal.printable_ofNat _)) (by decide)).append
    (Checksum.printable_wording _)

theorem printable_writeText (block : Block) : Printable block.writeText := by
  unfold writeText
  refine .append (by decide) ?_
  split
  · exact block.printable_noteText
  · decide

theorem printable_readText (block : Block) : Printable block.readText :=
  .append (by decide) block.printable_noteText

end Block

theorem WireError.printable_message (error : WireError) : Printable error.message := by
  cases error with
  | tooSmall item => cases item <;> decide
  | negativeLength length => exact .append (by decide) (Decimal.printable_ofInt _)
  | negativeChecksumLength length => exact .append (by decide) (Decimal.printable_ofInt _)

end StorageBlock
