/-
**A tree of files and directories.**

A tree says what stands at each location, a list of names from the root. A path is followed from the
root or from the working directory, component by component: an empty component and a dot stay where
they are, two dots go one level up, and every component but the last must be a directory. What
follows a zero byte in a path does not count.

* `FileTree.read` looks at what a path leads to;
* `FileTree.write?` replaces or makes a file, in a directory that exists;
* `lookup?_put`: a change at one location is no change anywhere else.
-/

import StorageBlock.Path

namespace StorageBlock

/-- The names from the root to a file or directory. -/
abbrev Location := List Bytes

/-- What stands at a location. -/
inductive Entry where
  | file (content : Bytes)
  | directory

/-- Files and directories, and the directory where relative paths begin. -/
structure FileTree where
  /-- The entries below the root. -/
  entries : List (Location × Entry)
  /-- Where relative paths begin. -/
  workingDirectory : Location

/-- What is found under a path. -/
inductive Found where
  /-- Nothing that can be opened. -/
  | missing
  /-- A directory, which can be opened but not read. -/
  | directory
  /-- A file with this content. -/
  | content (bytes : Bytes)

namespace FileTree

/-- The greatest length of a name. -/
def nameLimit : Nat := 255

/-- The greatest length of a path. -/
def pathLimit : Nat := 4095

/-! ### Entries -/

/-- What stands at a location; the root is a directory. -/
def lookup? (tree : FileTree) (location : Location) : Option Entry :=
  if location = [] then some .directory else tree.entries.lookup location

/-- Is there a directory at this location? -/
def isDirectory (tree : FileTree) (location : Location) : Bool :=
  tree.lookup? location matches some .directory

/-- The content of the file at a location. -/
def file? (tree : FileTree) (location : Location) : Option Bytes :=
  match tree.lookup? location with
  | some (.file content) => some content
  | _ => none

/-- The tree with a new entry at a location. -/
def put (tree : FileTree) (location : Location) (entry : Entry) : FileTree :=
  { tree with entries := (location, entry) :: tree.entries.filter (·.1 != location) }

theorem lookup?_put {tree : FileTree} {location : Location} (below : location ≠ []) (entry : Entry)
    (other : Location) : (tree.put location entry).lookup? other =
      if other = location then some entry else tree.lookup? other := by
  simp only [lookup?, put]
  by_cases same : other = location
  · simp [same, below]
  · have differs : (other == location) = false := by simp [same]
    have lookup : (tree.entries.filter (·.1 != location)).lookup other =
        tree.entries.lookup other := by
      induction tree.entries with
      | nil => rfl
      | cons first rest hypothesis =>
        obtain ⟨here, entry⟩ := first
        by_cases removed : here = location
        · simp [removed, ← hypothesis, List.lookup_cons, differs]
        · simp [removed, List.lookup_cons, hypothesis]
    simp [same, List.lookup_cons, differs, lookup]

/-! ### Paths -/

/-- The location that components lead to from a location. -/
def walk (tree : FileTree) (here : Location) : List Bytes → Option Location
  | [] => some here
  | name :: rest =>
    if tree.isDirectory here = false then none
    else if name = [] ∨ name = ascii "." then walk tree here rest
    else if name = ascii ".." then walk tree here.dropLast rest
    else walk tree (here ++ [name]) rest

/-- The location that a path leads to, which need not exist. -/
def locate? (tree : FileTree) (path : Bytes) : Option Location :=
  let path := path.untilZero
  let names := Path.components path
  if path = [] ∨ pathLimit < path.length ∨ names.any (nameLimit < ·.length) then none
  else tree.walk (if path.head? = some Path.slash then [] else tree.workingDirectory) names

/-- What a path leads to. -/
def read (tree : FileTree) (path : Bytes) : Found :=
  match tree.locate? path with
  | none => .missing
  | some location =>
    match tree.lookup? location with
    | none => .missing
    | some .directory => .directory
    | some (.file content) => .content content

/-- The tree after a file has been written, unless the path leads nowhere or to a directory. -/
def write? (tree : FileTree) (path content : Bytes) : Option FileTree :=
  match tree.locate? path with
  | none => none
  | some location =>
    if tree.isDirectory location then none else some (tree.put location (.file content))

/-! ### Making and comparing trees -/

/-- A tree of nothing but the working directory and the directories above it. -/
def empty (workingDirectory : Location) : FileTree :=
  ⟨(List.range workingDirectory.length).map fun depth =>
    (workingDirectory.take (depth + 1), .directory), workingDirectory⟩

/-- The tree with an entry at a location, and with the directories above it. -/
def plant (tree : FileTree) (location : Location) (entry : Entry) : FileTree :=
  let above := (List.range (location.length - 1)).map fun depth => location.take (depth + 1)
  (above.foldl (fun tree directory =>
    if (tree.lookup? directory).isNone then tree.put directory .directory else tree) tree).put
    location entry

/-- The files below the working directory that another tree does not hold with the same content. -/
def newer (tree earlier : FileTree) : List (Location × Bytes) :=
  tree.entries.filterMap fun (location, entry) =>
    match entry with
    | .directory => none
    | .file content =>
      if tree.workingDirectory.isPrefixOf location ∧ earlier.file? location ≠ some content then
        some (location.drop tree.workingDirectory.length, content)
      else none

end FileTree

end StorageBlock
