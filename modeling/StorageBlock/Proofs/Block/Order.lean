/-
**Blocks in order.**

Every comparison of two blocks looks at their numbers alone. So the comparison in three ways, the
order, equality and the hash values never contradict each other, and blocks that differ in all but
their number take the same place.

* `Agree`: what they have in common for two blocks (`agree`);
* `StablySorted` says that things stand in the order of their blocks, and those of one number in
  the order in which they came;
* `stablySorted_iff`: sorting does this, and nothing else does.
-/

import StorageBlock.Block.Order

namespace StorageBlock.Block

/-! ### Two blocks -/

/-- The comparison of two blocks, their order, their equality and their hash values agree with each
other and with the numbers of the blocks. -/
structure Agree (first second : Block) : Prop where
  less : compare first second = .lt ↔ first < second
  equal : compare first second = .eq ↔ first == second
  greater : compare first second = .gt ↔ first > second
  lt_iff_number : first < second ↔ first.id.toInt < second.id.toInt
  beq_iff_number : first == second ↔ first.id = second.id
  hash_iff_number : hash first = hash second ↔ first.id = second.id

theorem hash_eq_iff {first second : Block} : hash first = hash second ↔ first.id = second.id := by
  constructor
  · intro same
    have words : first.id.toUInt64 = second.id.toUInt64 := same
    rw [← Int64.toInt_inj, ← Int64.toInt_toBitVec, ← Int64.toInt_toBitVec]
    exact congrArg (fun word : UInt64 => word.toBitVec.toInt) words
  · exact congrArg (hash : Int64 → UInt64)

theorem agree (first second : Block) : Agree first second where
  less := Std.compare_eq_lt (a := first.id) (b := second.id)
  equal := by
    rw [beq_iff]
    exact Std.compare_eq_eq_iff_eq (a := first.id) (b := second.id)
  greater := Std.compare_eq_gt (a := first.id) (b := second.id)
  lt_iff_number := Int64.lt_iff_toInt_lt
  beq_iff_number := beq_iff
  hash_iff_number := hash_eq_iff

instance : EquivBEq Block where
  rfl := beq_iff.mpr rfl
  symm same := beq_iff.mpr (beq_iff.mp same).symm
  trans same other := beq_iff.mpr ((beq_iff.mp same).trans (beq_iff.mp other))

instance : LawfulHashable Block where
  hash_eq _ _ same := hash_eq_iff.mpr (beq_iff.mp same)

/-! ### Things of one number -/

variable {α : Type} {block : α → Block} {items sorted : List α} {item : α} {id : Int64}

/-- The things whose block has a number, in the order in which they stand. -/
def withId (block : α → Block) (id : Int64) (items : List α) : List α :=
  items.filter fun item => (block item).id == id

@[simp] theorem withId_nil : withId block id [] = [] := rfl

@[simp] theorem mem_withId :
    item ∈ withId block id items ↔ item ∈ items ∧ (block item).id = id := by
  simp [withId]

/-- Some thing has a block of the number exactly if there are things of this number. -/
theorem withId_ne_nil_iff :
    withId block id items ≠ [] ↔ ∃ item ∈ items, (block item).id = id := by
  simp [withId, List.filter_eq_nil_iff]

theorem withId_cons : withId block id (item :: items) =
    if (block item).id = id then item :: withId block id items else withId block id items := by
  simp [withId, List.filter_cons]

theorem withId_withId : withId block id (withId block id items) = withId block id items := by
  simp [withId]

theorem withId_append (others : List α) :
    withId block id (items ++ others) = withId block id items ++ withId block id others :=
  List.filter_append ..

theorem withId_map {β : Type} (image : β → α) (sources : List β) :
    withId block id (sources.map image) =
      (withId (fun source => block (image source)) id sources).map image :=
  List.filter_map

/-! ### Sorting -/

/-- The same things, in the order of the numbers of their blocks, and those of one number in the
order in which they came. -/
structure StablySorted (block : α → Block) (items sorted : List α) : Prop where
  perm : sorted.Perm items
  ordered : sorted.Pairwise fun first second => (block first).id ≤ (block second).id
  stable : ∀ id, withId block id sorted = withId block id items

/-- What `sortBy` asks of two things: that the first may stand before the second. -/
theorem mayPrecede_iff {first second : α} :
    (!decide (block second < block first)) = true ↔ (block first).id ≤ (block second).id := by
  rw [Bool.not_eq_true', decide_eq_false_iff_not, lt_iff, Int64.not_lt]

theorem stablySorted_sortBy (block : α → Block) (items : List α) :
    StablySorted block items (sortBy block items) := by
  have transitive (first second third : α) :
      (!decide (block second < block first)) = true →
        (!decide (block third < block second)) = true →
          (!decide (block third < block first)) = true := by
    simp only [mayPrecede_iff]
    exact Int64.le_trans
  have total (first second : α) :
      (!decide (block second < block first) || !decide (block first < block second)) = true := by
    rw [Bool.or_eq_true, mayPrecede_iff, mayPrecede_iff]
    exact Int64.le_total _ _
  have perm : (sortBy block items).Perm items := List.mergeSort_perm _ _
  refine ⟨perm, ?_, fun id => ?_⟩
  · exact (List.pairwise_mergeSort transitive total items).imp mayPrecede_iff.mp
  · -- Things of one number may stand in any order, so sorting keeps them as they stand.
    have equals : (withId block id items).Pairwise fun first second =>
        (!decide (block second < block first)) = true := by
      refine List.pairwise_of_forall_mem_list fun first known second other => ?_
      rw [mayPrecede_iff, (mem_withId.mp known).2, (mem_withId.mp other).2]
      exact Int64.le_refl id
    have kept : (withId block id items).Sublist (sortBy block items) :=
      List.sublist_mergeSort transitive total equals List.filter_sublist
    have inside : (withId block id items).Sublist (withId block id (sortBy block items)) := by
      rw [← withId_withId]
      exact kept.filter _
    exact (inside.eq_of_length (perm.symm.filter _).length_eq).symm

/-- **The order of the numbers and the order of arrival leave no choice.** -/
theorem eq_of_ordered {first second : List α}
    (ordered : first.Pairwise fun one other => (block one).id ≤ (block other).id)
    (ordered' : second.Pairwise fun one other => (block one).id ≤ (block other).id)
    (same : ∀ id, withId block id first = withId block id second) : first = second := by
  induction first generalizing second with
  | nil =>
    cases second with
    | nil => rfl
    | cons item rest =>
      have nothing := same (block item).id
      rw [withId_nil, withId_cons, if_pos rfl] at nothing
      cases nothing
  | cons one first hypothesis =>
    have members (item : α) : item ∈ one :: first ↔ item ∈ second := by
      have both := congrArg (item ∈ ·) (same (block item).id)
      simpa using both
    cases second with
    | nil => exact absurd ((members one).mp List.mem_cons_self) List.not_mem_nil
    | cons other second =>
      obtain ⟨least, behind⟩ := List.pairwise_cons.mp ordered
      obtain ⟨least', behind'⟩ := List.pairwise_cons.mp ordered'
      -- Each of the two heads stands in the other list too, so neither number is the greater one.
      have below : (block one).id ≤ (block other).id := by
        rcases List.mem_cons.mp ((members other).mpr List.mem_cons_self) with rfl | later
        · exact Int64.le_refl _
        · exact least other later
      have above : (block other).id ≤ (block one).id := by
        rcases List.mem_cons.mp ((members one).mp List.mem_cons_self) with rfl | later
        · exact Int64.le_refl _
        · exact least' one later
      have number : (block one).id = (block other).id := Int64.le_antisymm below above
      have heads := same (block one).id
      rw [withId_cons, if_pos rfl, withId_cons, if_pos number.symm] at heads
      obtain ⟨rfl, _⟩ := List.cons.inj heads
      refine congrArg (one :: ·) (hypothesis behind behind' fun id => ?_)
      have tails := same id
      rw [withId_cons, withId_cons] at tails
      split at tails
      · exact (List.cons.inj tails).2
      · exact tails

/-- **Sorting puts things in the order of their blocks and keeps the order of equals**, and it is
the only way to do so. -/
theorem stablySorted_iff : StablySorted block items sorted ↔ sorted = sortBy block items := by
  constructor
  · intro stably
    have kept := stablySorted_sortBy block items
    exact eq_of_ordered stably.ordered kept.ordered fun id =>
      (stably.stable id).trans (kept.stable id).symm
  · rintro rfl
    exact stablySorted_sortBy block items

end StorageBlock.Block
