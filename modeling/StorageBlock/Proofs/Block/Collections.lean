/-
**Blocks in collections.**

A collection takes two blocks for one if they have the same number, whatever else is said of them.
Of the descriptions of one block it keeps the one that came first; if values are assigned to
blocks, the value that came last counts.

* `Catalog.lookup?_assign`, `Catalog.lookup?_ofList`: what one assignment changes, and what is found
  under a number after a run of assignments;
* `Block.mem_distinct`: the first description of each number is kept, and no other;
* `Block.length_eq_card`: with one element for each number, a collection counts the numbers;
* `Block.collected_by_number`: comparison, sorting, catalogs and sets of one list of blocks.
-/

import Mathlib.Data.Finset.Card
import Mathlib.Data.List.Induction
import Std.Data.HashSet.Lemmas
import StorageBlock.Proofs.Block.Order

namespace StorageBlock

open Block (withId withId_nil withId_cons withId_append withId_ne_nil_iff mem_withId)

variable {α β : Type}

/-! ### Catalogs -/

namespace Catalog

variable {catalog : Catalog α} {block : Block} {value : α} {id : Int64}

/-- The numbers of a catalog increase, so that no number stands twice. -/
def Increasing (catalog : Catalog α) : Prop :=
  catalog.Pairwise fun first second => first.1.id < second.1.id

/-- The entry of the block with a number. -/
def lookup? (catalog : Catalog α) (id : Int64) : Option (Block × α) :=
  catalog.find? fun entry => entry.1.id == id

theorem lookup?_cons (entry : Block × α) (rest : Catalog α) :
    lookup? (entry :: rest) id = if entry.1.id = id then some entry else rest.lookup? id := by
  by_cases here : entry.1.id = id <;> simp [lookup?, here]

/-- Something is found under a number exactly if an entry has it. -/
theorem lookup?_ne_none_iff : catalog.lookup? id ≠ none ↔ ∃ entry ∈ catalog, entry.1.id = id := by
  simp [lookup?, List.find?_eq_none]

/-- No entry is found in front of all entries. -/
theorem lookup?_of_lt (before : ∀ entry ∈ catalog, id < entry.1.id) :
    catalog.lookup? id = none := by
  apply List.find?_eq_none.mpr
  intro entry member same
  exact Int64.ne_of_lt (before entry member) (beq_iff_eq.mp same).symm

/-- What is in front of the first entry is in front of all. -/
theorem lt_of_lt_head {first : Block × α} {rest : Catalog α}
    (increasing : Increasing (first :: rest)) (before : id < first.1.id) :
    ∀ entry ∈ first :: rest, id < entry.1.id := by
  intro entry member
  rcases List.mem_cons.mp member with rfl | later
  · exact before
  · exact Int64.lt_trans before ((List.pairwise_cons.mp increasing).1 entry later)

theorem lookup?_eq_some (increasing : catalog.Increasing) {entry : Block × α} :
    catalog.lookup? id = some entry ↔ entry ∈ catalog ∧ entry.1.id = id := by
  induction catalog with
  | nil => simp [lookup?]
  | cons first rest hypothesis =>
    obtain ⟨least, behind⟩ := List.pairwise_cons.mp increasing
    rw [lookup?_cons]
    by_cases here : first.1.id = id
    · rw [if_pos here, Option.some.injEq]
      constructor
      · rintro rfl
        exact ⟨List.mem_cons_self, here⟩
      · rintro ⟨member, number⟩
        rcases List.mem_cons.mp member with same | later
        · exact same.symm
        · exact absurd (here.trans number.symm) (Int64.ne_of_lt (least entry later))
    · rw [if_neg here, hypothesis behind, List.mem_cons]
      constructor
      · exact fun found => ⟨.inr found.1, found.2⟩
      · rintro ⟨rfl | later, number⟩
        · exact absurd number here
        · exact ⟨later, number⟩

/-! ### One assignment -/

theorem number_of_mem_assign {entry : Block × α} (member : entry ∈ assign block value catalog) :
    entry.1.id = block.id ∨ ∃ known ∈ catalog, known.1.id = entry.1.id := by
  fun_induction assign block value catalog with
  | case1 =>
    rw [List.mem_singleton.mp member]
    exact .inl rfl
  | case2 known old rest before =>
    rcases List.mem_cons.mp member with rfl | inside
    · exact .inl rfl
    · exact .inr ⟨entry, inside, rfl⟩
  | case3 known old rest _ behind hypothesis =>
    rcases List.mem_cons.mp member with rfl | inside
    · exact .inr ⟨_, List.mem_cons_self, rfl⟩
    · refine (hypothesis inside).imp_right fun ⟨other, later, number⟩ => ?_
      exact ⟨other, List.mem_cons_of_mem _ later, number⟩
  | case4 known old rest =>
    rcases List.mem_cons.mp member with rfl | inside
    · exact .inr ⟨_, List.mem_cons_self, rfl⟩
    · exact .inr ⟨entry, List.mem_cons_of_mem _ inside, rfl⟩

/-- An assignment keeps the order of the numbers. -/
theorem increasing_assign (increasing : catalog.Increasing) :
    (assign block value catalog).Increasing := by
  fun_induction assign block value catalog with
  | case1 => exact List.pairwise_singleton _ _
  | case2 known old rest before =>
    exact List.pairwise_cons.mpr ⟨lt_of_lt_head increasing before, increasing⟩
  | case3 known old rest _ behind hypothesis =>
    obtain ⟨least, increasing⟩ := List.pairwise_cons.mp increasing
    refine List.pairwise_cons.mpr ⟨fun entry member => ?_, hypothesis increasing⟩
    rcases number_of_mem_assign member with number | ⟨other, later, number⟩
    · exact number ▸ behind
    · exact number ▸ least other later
  | case4 known old rest => exact List.pairwise_cons.mpr (List.pairwise_cons.mp increasing)

/-- **An assignment changes the entry of its number only**: a block that is known stays, and the
value is the new one. -/
theorem lookup?_assign (increasing : catalog.Increasing) :
    (assign block value catalog).lookup? id =
      if id = block.id then some (((catalog.lookup? id).map Prod.fst).getD block, value)
      else catalog.lookup? id := by
  fun_induction assign block value catalog with
  | case1 =>
    rw [lookup?_cons]
    simp [lookup?, eq_comm]
  | case2 known old rest before =>
    rw [lookup?_cons]
    by_cases here : block.id = id
    · have absent : lookup? ((known, old) :: rest) id = none :=
        lookup?_of_lt (lt_of_lt_head increasing (here ▸ before))
      simp [here, absent]
    · simp [here, Ne.symm here]
  | case3 known old rest _ behind hypothesis =>
    rw [lookup?_cons, lookup?_cons, hypothesis (List.pairwise_cons.mp increasing).2]
    by_cases here : known.id = id
    · have other : id ≠ block.id := here ▸ Int64.ne_of_lt behind
      simp [here, other]
    · simp [here]
  | case4 known old rest notBefore notBehind =>
    have number : known.id = block.id :=
      Int64.le_antisymm (Int64.not_lt.mp notBefore) (Int64.not_lt.mp notBehind)
    rw [lookup?_cons, lookup?_cons, number]
    by_cases here : block.id = id
    · simp [here]
    · simp [here, Ne.symm here]

/-! ### A run of assignments -/

/-- What assignments to one block leave: the block as it came first, and the value that came
last. -/
def lasting (assigned : List (Block × α)) : Option (Block × α) :=
  assigned.head?.bind fun first => assigned.getLast?.map fun last => (first.1, last.2)

theorem lasting_eq_some {assigned : List (Block × α)} :
    lasting assigned = some (block, value) ↔
      assigned.head?.map Prod.fst = some block ∧ assigned.getLast?.map Prod.snd = some value := by
  unfold lasting
  cases assigned.head? <;> cases assigned.getLast? <;> simp

theorem lasting_eq_none {assigned : List (Block × α)} :
    lasting assigned = none ↔ assigned = [] := by
  cases assigned <;> simp [lasting, List.getLast?_cons]

theorem lasting_concat (assigned : List (Block × α)) (assignment : Block × α) :
    lasting (assigned ++ [assignment]) =
      some (((lasting assigned).map Prod.fst).getD assignment.1, assignment.2) := by
  cases assigned with
  | nil => rfl
  | cons first rest => simp [lasting, List.getLast?_cons]

theorem ofList_concat (assignments : List (Block × α)) (assignment : Block × α) :
    ofList (assignments ++ [assignment]) =
      assign assignment.1 assignment.2 (ofList assignments) := by
  simp [ofList]

theorem increasing_ofList (assignments : List (Block × α)) :
    (ofList assignments).Increasing := by
  induction assignments using List.reverseRecOn with
  | nil => exact List.Pairwise.nil
  | append_singleton assignments assignment hypothesis =>
    rw [ofList_concat]
    exact increasing_assign hypothesis

/-- **After a run of assignments**, the entry of a number holds the first block that was assigned
under it and the last value. -/
theorem lookup?_ofList (assignments : List (Block × α)) :
    (ofList assignments).lookup? id = lasting (withId Prod.fst id assignments) := by
  induction assignments using List.reverseRecOn with
  | nil => rfl
  | append_singleton assignments assignment hypothesis =>
    rw [ofList_concat, lookup?_assign (increasing_ofList assignments), hypothesis, withId_append]
    by_cases here : assignment.1.id = id
    · rw [if_pos here.symm, withId_cons, if_pos here, withId_nil, lasting_concat]
    · rw [if_neg (Ne.symm here), withId_cons, if_neg here, withId_nil, List.append_nil]

/-- **What a catalog holds**: under each number, the first block and the last value. -/
theorem mem_ofList {assignments : List (Block × α)} :
    (block, value) ∈ ofList assignments ↔
      (withId Prod.fst block.id assignments).head?.map Prod.fst = some block ∧
        (withId Prod.fst block.id assignments).getLast?.map Prod.snd = some value := by
  rw [← lasting_eq_some, ← lookup?_ofList, lookup?_eq_some (increasing_ofList assignments),
    and_iff_left rfl]

/-- A number is in a catalog exactly if a value was assigned under it. -/
theorem exists_mem_ofList {assignments : List (Block × α)} :
    (∃ entry ∈ ofList assignments, entry.1.id = id) ↔
      ∃ assignment ∈ assignments, assignment.1.id = id := by
  rw [← lookup?_ne_none_iff, lookup?_ofList, ne_eq, lasting_eq_none]
  exact withId_ne_nil_iff

end Catalog

namespace Block

variable {block : Block} {blocks held : List Block} {id : Int64}

/-! ### The first of each number -/

theorem any_beq_iff :
    held.any (· == block) = true ↔ withId (fun known => known) block.id held ≠ [] := by
  simp only [withId_ne_nil_iff, List.any_eq_true, beq_iff]

theorem distinct_concat (blocks : List Block) (block : Block) :
    distinct (blocks ++ [block]) =
      if (distinct blocks).any (· == block) then distinct blocks
      else distinct blocks ++ [block] := by
  simp [distinct]

/-- **Of the blocks of one number, the first is kept.** -/
theorem withId_distinct (blocks : List Block) :
    withId (fun block => block) id (distinct blocks) =
      (withId (fun block => block) id blocks).take 1 := by
  induction blocks using List.reverseRecOn with
  | nil => rfl
  | append_singleton blocks block hypothesis =>
    rw [distinct_concat, withId_append]
    -- Only for the number of the new block something may change, namely if it is the first.
    by_cases here : block.id = id
    · subst here
      cases earlier : withId (fun block => block) block.id blocks with
      | nil =>
        rw [earlier, List.take_nil] at hypothesis
        rw [if_neg fun known => any_beq_iff.mp known hypothesis, withId_append, hypothesis,
          withId_cons, if_pos rfl]
        rfl
      | cons first rest =>
        rw [earlier, List.take_succ_cons, List.take_zero] at hypothesis
        have known : withId (fun block => block) block.id (distinct blocks) ≠ [] :=
          hypothesis ▸ List.cons_ne_nil first []
        rw [if_pos (any_beq_iff.mpr known), hypothesis]
        rfl
    · have other : withId (fun block => block) id [block] = [] := by
        rw [withId_cons, if_neg here, withId_nil]
      rw [other, List.append_nil, ← hypothesis]
      split
      next => rfl
      next => rw [withId_append, other, List.append_nil]

/-- No number is kept twice. -/
theorem apart_distinct (blocks : List Block) :
    (distinct blocks).Pairwise fun first second => first.id ≠ second.id := by
  induction blocks using List.reverseRecOn with
  | nil => exact List.Pairwise.nil
  | append_singleton blocks block hypothesis =>
    rw [distinct_concat]
    split
    next => exact hypothesis
    next new =>
      refine List.pairwise_append.mpr ⟨hypothesis, List.pairwise_singleton _ _, ?_⟩
      intro known member other last same
      rw [List.mem_singleton.mp last] at same
      exact new (any_beq_iff.mpr (withId_ne_nil_iff.mpr ⟨known, member, same⟩))

/-- **The first description of each number is kept**, and no other. -/
theorem mem_distinct (blocks : List Block) :
    block ∈ distinct blocks ↔ (withId (fun block => block) block.id blocks).head? = some block := by
  have own : block ∈ distinct blocks ↔
      block ∈ withId (fun block => block) block.id (distinct blocks) := by
    rw [mem_withId, and_iff_left rfl]
  rw [own, withId_distinct, List.take_one, Option.mem_toList]

/-! ### Counting -/

/-- The numbers of blocks. -/
def numbers (blocks : List Block) : Finset Int64 := (blocks.map Block.id).toFinset

@[simp] theorem mem_numbers : id ∈ numbers blocks ↔ ∃ block ∈ blocks, block.id = id := by
  simp [numbers]

/-- **With one element for each number**, a collection has as many elements as there are
numbers. -/
theorem length_eq_card (apart : held.Pairwise fun first second => first.id ≠ second.id)
    (same : ∀ id, (∃ block ∈ held, block.id = id) ↔ ∃ block ∈ blocks, block.id = id) :
    held.length = (numbers blocks).card := by
  have equal : numbers held = numbers blocks := by
    ext id
    rw [mem_numbers, mem_numbers, same]
  have nodup : (held.map Block.id).Nodup := List.pairwise_map.mpr apart
  rw [← equal, numbers, List.toFinset_card_of_nodup nodup, List.length_map]

/-- A catalog has one entry for each number under which a value was assigned. -/
theorem length_ofList (assignments : List (Block × α)) :
    (Catalog.ofList assignments).length = (numbers (assignments.map Prod.fst)).card := by
  rw [← List.length_map Prod.fst]
  apply length_eq_card
  · exact List.pairwise_map.mpr ((Catalog.increasing_ofList assignments).imp Int64.ne_of_lt)
  · intro id
    simpa using Catalog.exists_mem_ofList

theorem length_distinct (blocks : List Block) :
    (distinct blocks).length = (numbers blocks).card := by
  apply length_eq_card (apart_distinct blocks)
  intro id
  rw [← withId_ne_nil_iff, ← withId_ne_nil_iff, withId_distinct]
  simp

/-- **A set that finds its elements by their hash values** has as many elements as there are
numbers. -/
theorem size_hashSet (blocks : List Block) :
    (Std.HashSet.ofList blocks).size = (numbers blocks).card := by
  rw [← Std.HashSet.length_toList]
  apply length_eq_card
  · refine Std.HashSet.distinct_toList.imp fun differ same => ?_
    rw [beq_iff.mpr same] at differ
    cases differ
  · intro id
    have same := Std.HashSet.contains_ofList (l := blocks) (k := ofId id)
    rw [← Std.HashSet.contains_toList, Bool.eq_iff_iff, List.contains_iff_exists_mem_beq,
      List.contains_iff_exists_mem_beq] at same
    simp only [beq_iff, eq_comm (a := (ofId id).id)] at same
    exact same

/-! ### One list of blocks in every collection -/

/-- What a catalog holds after a value has been assigned to the block of each thing: one entry for
each number, in the order of the numbers, with the block of the first thing that has the number and
the value of the last. -/
structure Collects (block : α → Block) (value : α → β) (items : List α) (catalog : Catalog β) :
    Prop where
  increasing : catalog.Increasing
  size : catalog.length = (numbers (items.map block)).card
  number_iff : ∀ id, (∃ entry ∈ catalog, entry.1.id = id) ↔ ∃ item ∈ items, (block item).id = id
  entry_iff : ∀ key last, (key, last) ∈ catalog ↔
    (withId block key.id items).head?.map block = some key ∧
      (withId block key.id items).getLast?.map value = some last

variable (block : α → Block) (value : α → β) (items : List α)

theorem collects_ofList :
    Collects block value items
      (Catalog.ofList (items.map fun item => (block item, value item))) where
  increasing := Catalog.increasing_ofList _
  size := by
    rw [length_ofList, List.map_map]
    rfl
  number_iff id := by
    rw [Catalog.exists_mem_ofList]
    simp
  entry_iff key last := by
    rw [Catalog.mem_ofList, withId_map, List.head?_map, List.getLast?_map, Option.map_map,
      Option.map_map]
    rfl

/-- **Every collection goes by the numbers alone**, and comparison, order, equality and hash values
fit together in it. For things with a block and a value each: the comparisons of two blocks agree
with each other and with their numbers; sorting keeps the order of things of one number, and nothing
else is a stable order; a catalog has one entry for each number, in the order of the numbers, with
the block that came first and the value that came last; and sets of the blocks have one element for
each number, whether they look at all their elements or only at those of one hash value. -/
theorem collected_by_number :
    (∀ first second : Block, Agree first second) ∧
      (∀ sorted, StablySorted block items sorted ↔ sorted = sortBy block items) ∧
      Collects block value items
        (Catalog.ofList (items.map fun item => (block item, value item))) ∧
      (∀ key, key ∈ distinct (items.map block) ↔
        (withId block key.id items).head?.map block = some key) ∧
      (distinct (items.map block)).length = (numbers (items.map block)).card ∧
      (Std.HashSet.ofList (items.map block)).size = (numbers (items.map block)).card := by
  refine ⟨agree, fun sorted => stablySorted_iff, collects_ofList block value items, fun key => ?_,
    length_distinct _, size_hashSet _⟩
  rw [mem_distinct, withId_map, List.head?_map]

end Block

end StorageBlock
