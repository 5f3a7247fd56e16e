/-
**Blocks in order, and in collections.**

Blocks are compared by their number alone: two descriptions of one block are equal for every
collection, whatever their lengths, generations and checksums.

* `Block.sortBy` orders things by their block and keeps the order of equals;
* `Catalog` assigns a value to each block, in the order of the numbers: the description that came
  first stays, the value that came last counts;
* `Block.distinct` keeps the first description of each block.
-/

import StorageBlock.Block.Basic

namespace StorageBlock

namespace Block

/-! ### Comparison -/

instance : Ord Block := ⟨fun first second => compare first.id second.id⟩

instance : LT Block := ⟨fun first second => first.id < second.id⟩

instance : LE Block := ⟨fun first second => first.id ≤ second.id⟩

instance : BEq Block := ⟨fun first second => first.id == second.id⟩

instance : Hashable Block := ⟨fun block => hash block.id⟩

instance (first second : Block) : Decidable (first < second) :=
  inferInstanceAs (Decidable (first.id < second.id))

instance (first second : Block) : Decidable (first ≤ second) :=
  inferInstanceAs (Decidable (first.id ≤ second.id))

theorem lt_iff {first second : Block} : first < second ↔ first.id < second.id := Iff.rfl

theorem beq_iff {first second : Block} : (first == second) = true ↔ first.id = second.id := by
  show (first.id == second.id) = true ↔ _
  exact beq_iff_eq

/-! ### Collections -/

/-- Things in the order of their blocks; the order of things with equal blocks stays. -/
def sortBy {α : Type} (block : α → Block) (items : List α) : List α :=
  items.mergeSort fun first second => !decide (block second < block first)

/-- The first description of each block, in the order of arrival. -/
def distinct (blocks : List Block) : List Block :=
  blocks.foldl (fun seen block => if seen.any (· == block) then seen else seen ++ [block]) []

end Block

/-- One value for each block, in the order of the blocks. -/
abbrev Catalog (α : Type) := List (Block × α)

namespace Catalog

/-- Assigns a value to a block; a block that is known keeps its description. -/
def assign {α : Type} (block : Block) (value : α) : Catalog α → Catalog α
  | [] => [(block, value)]
  | (known, old) :: rest =>
    if block < known then (block, value) :: (known, old) :: rest
    else if known < block then (known, old) :: assign block value rest
    else (known, value) :: rest

/-- The catalog after assignments, one after another. -/
def ofList {α : Type} (assignments : List (Block × α)) : Catalog α :=
  assignments.foldl (fun catalog (block, value) => assign block value catalog) []

end Catalog

end StorageBlock
