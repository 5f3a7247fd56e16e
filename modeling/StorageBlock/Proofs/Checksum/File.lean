/-
**The checksum of a file is that of its whole content.**

Whatever the length of a file, the parts in which it is read make up its content, so the digest is
the one that the standard gives for these bytes, and hashing them in one piece gives it too. What
is no file has no digest.

* `Checksum.digest?_standard`: the digest of a content;
* `Checksum.digest?_eq_none`: the paths that have no digest;
* `Block.checksum_of_file`: what a block takes over from a file.
-/

import StorageBlock.Checksum.File
import StorageBlock.Proofs.Sha256.Standard

namespace StorageBlock

open Base64 (byteBits)

/-- **The digest of a content** is that of the standard, and that of the content in one piece. -/
theorem Checksum.digest?_standard (bytes : Bytes) :
    ∃ digest, digest? (.content bytes) = some digest ∧ digest.length = 32 ∧
      byteBits digest = Sha256.Standard.digest (byteBits bytes) ∧
      digest = (Sha256.Stream.empty.update bytes).finish := by
  have onePiece := Sha256.finish_foldl_update [bytes]
  rw [List.flatten_singleton] at onePiece
  exact ⟨Sha256.hash bytes, digest?_content bytes, Sha256.hash_length bytes,
    Sha256.byteBits_hash bytes, onePiece.symm⟩

theorem Checksum.digest?_eq_none {found : Found} :
    digest? found = none ↔ found = .missing ∨ found = .directory := by
  cases found with
  | missing => exact iff_of_true rfl (.inl rfl)
  | directory => exact iff_of_true digest?_directory (.inr rfl)
  | content bytes => simp [digest?_content]

/-- **A block takes over the digest of a file**, and loses its own where there is none. -/
theorem Block.checksum_of_file (files : FileTree) (path : Bytes) (block : Block)
    (length generation : Int64) :
    (∀ bytes, files.read path = .content bytes →
      ∃ digest, Checksum.digest? (files.read path) = some digest ∧ digest.length = 32 ∧
        byteBits digest = Sha256.Standard.digest (byteBits bytes) ∧
        digest = (Sha256.Stream.empty.update bytes).finish ∧
        block.setChecksumFrom (files.read path) =
          ⟨block.id, block.length, block.generation, some digest⟩ ∧
        Block.ofFile path (files.read path) length generation =
          ⟨FileName.dataBlockId (Path.baseName path), length, generation, some digest⟩) ∧
    (Checksum.digest? (files.read path) = none ↔
      files.read path = .missing ∨ files.read path = .directory) ∧
    (files.read path = .missing ∨ files.read path = .directory →
      block.setChecksumFrom (files.read path) =
          ⟨block.id, block.length, block.generation, none⟩ ∧
        Block.ofFile path (files.read path) length generation =
          ⟨FileName.dataBlockId (Path.baseName path), length, generation, none⟩) := by
  refine ⟨fun bytes found => ?_, Checksum.digest?_eq_none, fun unread => ?_⟩
  · obtain ⟨digest, computed, size, standard, onePiece⟩ := Checksum.digest?_standard bytes
    rw [← found] at computed
    refine ⟨digest, computed, size, standard, onePiece, ?_, ?_⟩
    · rw [setChecksumFrom, computed]
    · rw [ofFile, computed]
  · have absent := Checksum.digest?_eq_none.mpr unread
    refine ⟨?_, ?_⟩
    · rw [setChecksumFrom, absent]
    · rw [ofFile, absent]

/-- The file is exactly as long as a part, so a second read finds nothing. -/
theorem Block.checksum_of_file_one_part :
    let files := (FileTree.empty []).plant [ascii "blk_7"] (.file (List.replicate 8192 97))
    let block : Block := ⟨7, 8192, 1, some [0]⟩
    (∃ digest, digest.length = 32 ∧
      byteBits digest = Sha256.Standard.digest (byteBits (List.replicate 8192 97)) ∧
      block.setChecksumFrom (files.read (ascii "blk_7")) = ⟨7, 8192, 1, some digest⟩) ∧
    block.setChecksumFrom (files.read (ascii "blk_8")) = ⟨7, 8192, 1, none⟩ := by
  intro files block
  obtain ⟨present, -, -⟩ := checksum_of_file files (ascii "blk_7") block 8192 1
  obtain ⟨digest, -, size, standard, -, stored, -⟩ := present (List.replicate 8192 97) rfl
  obtain ⟨-, -, absent⟩ := checksum_of_file files (ascii "blk_8") block 8192 1
  exact ⟨⟨digest, size, standard, stored⟩, (absent (.inl rfl)).1⟩

end StorageBlock
