/-
**Checksums of files.**

The checksum of a file is the SHA-256 digest of its content. An open file is read in parts of one
size until a read fails: the first part that is cut short is the last one, and the file has then
come to its end, while a directory breaks at the first read.

* `OpenFile` holds what is still to be read and how the reads went; `OpenFile.readPart` reads;
* `Checksum.drain` hashes the parts until a read fails (`drain_content`, `drain_directory`);
* `digest?_content`: the parts leave no trace in the digest.
-/

import StorageBlock.Block.Text
import StorageBlock.FileTree
import StorageBlock.Sha256.Stream

namespace StorageBlock

/-! ### Reading a file -/

/-- A file that has been opened for reading. -/
structure OpenFile where
  /-- The bytes that no read has taken yet; those of a directory cannot be read. -/
  unread : Option Bytes
  /-- Has a read met the end of the file? -/
  ended : Bool
  /-- Has a read found fewer bytes than it asked for? -/
  short : Bool
  /-- Has a read gone wrong? -/
  broken : Bool

namespace OpenFile

/-- A file before the first read. -/
def opened (unread : Option Bytes) : OpenFile := ⟨unread, false, false, false⟩

/-- What opening gives, if it succeeds. -/
def ofFound? : Found → Option OpenFile
  | .missing => none
  | .directory => some (opened none)
  | .content bytes => some (opened (some bytes))

/-- Has a read failed? -/
def failed (file : OpenFile) : Bool := file.short || file.broken

/-- The next bytes of a file, at most `count` of them. -/
def readPart (file : OpenFile) (count : Nat) : Bytes × OpenFile :=
  match file.unread with
  | none => ([], { file with broken := true })
  | some bytes =>
    let cut := decide (bytes.length < count)
    (bytes.take count,
      ⟨some (bytes.drop count), file.ended || cut, file.short || cut, file.broken⟩)

/-- The bytes that are left to reads. -/
def remaining (file : OpenFile) : Nat :=
  if file.failed then 0 else (file.unread.getD []).length + 1

theorem remaining_readPart {file : OpenFile} {count : Nat} (positive : 0 < count)
    (going : file.failed = false) : (file.readPart count).2.remaining < file.remaining := by
  rw [remaining, remaining, going]
  split
  · exact Nat.succ_pos _
  · rename_i goes
    refine Nat.succ_lt_succ ?_
    cases unread : file.unread with
    | none => simp [readPart, unread, failed] at goes
    | some bytes =>
      simp only [readPart, unread, failed, Bool.not_eq_true, Bool.or_eq_false_iff,
        decide_eq_false_iff_not] at goes
      simp only [readPart, unread, Option.getD_some, List.length_drop]
      omega

/-- A read that finds all it asks for leaves the file open for the next. -/
theorem readPart_of_le {bytes : Bytes} {count : Nat} (enough : count ≤ bytes.length) :
    (opened (some bytes)).readPart count =
      (bytes.take count, opened (some (bytes.drop count))) := by
  simp [opened, readPart, Nat.not_lt.mpr enough]

/-- A read that finds less takes the rest, and the file has ended. -/
theorem readPart_of_lt {bytes : Bytes} {count : Nat} (cut : bytes.length < count) :
    (opened (some bytes)).readPart count = (bytes, ⟨some [], true, true, false⟩) := by
  simp [opened, readPart, cut, List.take_of_length_le (Nat.le_of_lt cut), Nat.le_of_lt cut]

end OpenFile

/-! ### The digest of a file -/

namespace Checksum

/-- The number of bytes that are read at a time. -/
def partLength : Nat := 8192

/-- The hash of what reads give until one fails, and the file after them. -/
def drain (stream : Sha256.Stream) (file : OpenFile) : Sha256.Stream × OpenFile :=
  if file.failed then (stream, file)
  else
    let part := (file.readPart partLength).1
    drain (if part = [] then stream else stream.update part) (file.readPart partLength).2
termination_by file.remaining
decreasing_by
  rename_i going
  exact OpenFile.remaining_readPart (by decide) (Bool.not_eq_true _ ▸ going)

/-- The digest of what is found under a path, if it can be read. -/
def digest? (found : Found) : Option Bytes :=
  match OpenFile.ofFound? found with
  | none => none
  | some file =>
    let (stream, file) := drain .empty file
    if file.broken || !file.ended then none else some stream.finish

theorem drain_failed (stream : Sha256.Stream) {file : OpenFile} (failed : file.failed = true) :
    drain stream file = (stream, file) := by
  rw [drain, if_pos failed]

theorem drain_opened (stream : Sha256.Stream) (unread : Option Bytes) :
    drain stream (.opened unread) =
      let (part, rest) := (OpenFile.opened unread).readPart partLength
      drain (if part = [] then stream else stream.update part) rest := by
  have going : ¬(OpenFile.opened unread).failed = true := Bool.false_ne_true
  rw [drain, if_neg going]

/-- **A file is read part by part to its end**, and a read that finds nothing adds nothing. -/
theorem drain_content (stream : Sha256.Stream) (bytes : Bytes) :
    drain stream (.opened (some bytes)) =
      ((Bytes.chunks partLength (by decide) bytes).foldl Sha256.Stream.update stream,
        ⟨some [], true, true, false⟩) := by
  fun_induction Bytes.chunks partLength (by decide) bytes generalizing stream with
  | case1 =>
    rw [drain_opened]
    exact drain_failed _ rfl
  | case2 bytes nonempty hypothesis =>
    rw [drain_opened, List.foldl_cons]
    by_cases cut : bytes.length < partLength
    · have short := Nat.le_of_lt cut
      rw [OpenFile.readPart_of_lt cut, List.drop_of_length_le short, List.take_of_length_le short,
        Bytes.chunks_nil]
      simp only [nonempty, if_false]
      exact drain_failed _ rfl
    · have part : bytes.take partLength ≠ [] := by simp [nonempty, partLength]
      rw [OpenFile.readPart_of_le (Nat.le_of_not_lt cut)]
      simp only [part, if_false]
      exact hypothesis _

/-- **A directory** can be opened, but the first read goes wrong. -/
theorem drain_directory (stream : Sha256.Stream) :
    drain stream (.opened none) = (stream, ⟨none, false, false, true⟩) := by
  rw [drain_opened]
  exact drain_failed _ rfl

/-- **The digest of a file is the digest of its whole content.** -/
theorem digest?_content (bytes : Bytes) : digest? (.content bytes) = some (Sha256.hash bytes) := by
  simp only [digest?, OpenFile.ofFound?, drain_content, Sha256.finish_foldl_update,
    Bytes.chunks_flatten]
  rfl

theorem digest?_directory : digest? .directory = none := by
  simp only [digest?, OpenFile.ofFound?, drain_directory]
  rfl

end Checksum

namespace Block

/-- The block of a data file: its number stands in the name, its checksum is that of the content. -/
def ofFile (path : Bytes) (found : Found) (length generation : Int64) : Block :=
  ⟨FileName.dataBlockId (Path.baseName path), length, generation, Checksum.digest? found⟩

/-- The block with the checksum of a file, and without one if the file cannot be read. -/
def setChecksumFrom (block : Block) (found : Found) : Block :=
  { block with checksum := Checksum.digest? found }

end Block

end StorageBlock
