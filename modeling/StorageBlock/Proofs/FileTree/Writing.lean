/-
**What writing a file does to a tree.**

A file is written at one location, where there is no directory. Nothing else changes, and in
particular no directory does, so that every path leads where it led before.

* `FileTree.write?_eq_some`: when a file can be written, and the tree afterwards;
* `FileTree.SameDirectories`: two trees in which every path leads to the same location
  (`SameDirectories.locate?`);
* `FileTree.sameDirectories_put`: writing a file gives such a tree.
-/

import StorageBlock.FileTree

namespace StorageBlock.FileTree

variable {tree first second third : FileTree} {location : Location}

/-! ### The tree after a file has been written -/

theorem ne_nil_of_not_isDirectory (free : tree.isDirectory location = false) : location ≠ [] := by
  rintro rfl
  cases free

theorem lookup?_put_file (free : tree.isDirectory location = false) (content : Bytes)
    (other : Location) : (tree.put location (.file content)).lookup? other =
      if other = location then some (.file content) else tree.lookup? other :=
  lookup?_put (ne_nil_of_not_isDirectory free) _ other

/-- **A file can be written where a path leads and no directory stands.** -/
theorem write?_eq_some {path content : Bytes} {after : FileTree} :
    tree.write? path content = some after ↔
      ∃ location, tree.locate? path = some location ∧ tree.isDirectory location = false ∧
        after = tree.put location (.file content) := by
  rw [write?]
  constructor
  · intro written
    split at written
    next => cases written
    next location leads =>
      split at written
      next => cases written
      next free =>
        exact ⟨location, leads, eq_false_of_ne_true free, (Option.some.inj written).symm⟩
  · rintro ⟨location, leads, free, rfl⟩
    simp only [leads, free, Bool.false_eq_true, if_false]

/-- A file cannot be written where a path leads nowhere or to a directory. -/
theorem write?_eq_none {path content : Bytes} :
    tree.write? path content = none ↔
      ∀ location, tree.locate? path = some location → tree.isDirectory location = true := by
  rw [Option.eq_none_iff_forall_ne_some]
  simp only [ne_eq, write?_eq_some, not_exists, not_and]
  constructor
  · intro closed location leads
    exact eq_true_of_ne_false fun free => closed _ location leads free rfl
  · intro blocked after location leads free
    rw [blocked location leads] at free
    cases free

theorem read_of_lookup? {path content : Bytes} (leads : tree.locate? path = some location)
    (holds : tree.lookup? location = some (.file content)) : tree.read path = .content content := by
  simp only [read, leads, holds]

/-! ### Trees with the same directories -/

/-- Two trees with one working directory and the same directories; their files may differ. -/
structure SameDirectories (first second : FileTree) : Prop where
  workingDirectory : first.workingDirectory = second.workingDirectory
  isDirectory (location : Location) : first.isDirectory location = second.isDirectory location

namespace SameDirectories

theorem refl (tree : FileTree) : SameDirectories tree tree := ⟨rfl, fun _ => rfl⟩

theorem trans (one : SameDirectories first second) (two : SameDirectories second third) :
    SameDirectories first third :=
  ⟨one.workingDirectory.trans two.workingDirectory, fun location =>
    (one.isDirectory location).trans (two.isDirectory location)⟩

theorem walk (same : SameDirectories first second) (here : Location) (names : List Bytes) :
    first.walk here names = second.walk here names := by
  induction names generalizing here with
  | nil => rfl
  | cons name names hypothesis => simp only [FileTree.walk, same.isDirectory, hypothesis]

/-- **Paths lead to the same locations**: on its way, a path meets directories only. -/
theorem locate? (same : SameDirectories first second) (path : Bytes) :
    first.locate? path = second.locate? path := by
  simp only [FileTree.locate?, same.workingDirectory, same.walk]

end SameDirectories

theorem sameDirectories_put (free : tree.isDirectory location = false) (content : Bytes) :
    SameDirectories (tree.put location (.file content)) tree := by
  refine ⟨rfl, fun other => ?_⟩
  rw [isDirectory, lookup?_put_file free]
  by_cases here : other = location
  · rw [if_pos here, here, free]
  · rw [if_neg here, isDirectory]

end StorageBlock.FileTree
