/-
**Paths as texts.**

A path is a byte string whose components are separated by slashes. The final component of a path is
what follows its last slash: `baseName_append` finds it again after any directory.
-/

import StorageBlock.Bytes

namespace StorageBlock.Path

/-- The byte between two components. -/
def slash : UInt8 := 47

/-- The final component of a path. -/
def baseName (path : Bytes) : Bytes :=
  match Bytes.cutLast slash path with
  | some (_, name) => name
  | none => path

/-- The components of a path; two slashes in a row, and one at either end, leave an empty one. -/
def components : Bytes → List Bytes
  | [] => [[]]
  | byte :: path =>
    if byte = slash then [] :: components path
    else match components path with
      | first :: others => (byte :: first) :: others
      | [] => [[byte]]

/-- A path below a directory; an absolute path stands for itself. -/
def below (directory path : Bytes) : Bytes :=
  if path.head? = some slash then path else directory ++ slash :: path

theorem baseName_append {name : Bytes} (plain : slash ∉ name) (directory : Bytes) :
    baseName (directory ++ slash :: name) = name := by
  rw [baseName, Bytes.cutLast_eq_some.mpr ⟨rfl, plain⟩]

theorem baseName_of_not_mem {name : Bytes} (plain : slash ∉ name) : baseName name = name := by
  rw [baseName, Bytes.cutLast_eq_none.mpr plain]

end StorageBlock.Path
