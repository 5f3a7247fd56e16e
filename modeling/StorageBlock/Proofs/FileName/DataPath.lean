/-
**From the path of a metadata file to that of the data file.**

The path of the data file is cut out of the other one, at the last underscore of its final
component. The underscores of the directory do not count, and a path without one in its final
component stays as it is.

* `Path.directory`: a path up to its last slash, so that a path is its directory and its final
  component (`Path.directory_append_baseName`);
* `FileName.dataPath_eq`: the directory is kept, and the final component is cut as if it stood
  alone;
* `FileName.dataPath_beside`: the result for any path, and for the path of a metadata file.
-/

import StorageBlock.Proofs.FileName.RoundTrip

namespace StorageBlock

/-- A text is without a mark, or it has a last one. -/
theorem Bytes.cut_cases (mark : UInt8) (text : Bytes) :
    mark ∉ text ∨ ∃ front back, mark ∉ back ∧ text = front ++ mark :: back := by
  cases cut : cutLast mark text with
  | none => exact .inl (cutLast_eq_none.mp cut)
  | some parts =>
    obtain ⟨whole, last⟩ := cutLast_eq_some.mp cut
    exact .inr ⟨parts.1, parts.2, last, whole⟩

/-! ### The two parts of a path -/

namespace Path

/-- A path up to its last slash, which is included; nothing if there is none. -/
def directory (path : Bytes) : Bytes :=
  match Bytes.cutLast slash path with
  | some (front, _) => front ++ [slash]
  | none => []

theorem directory_of_not_mem {name : Bytes} (plain : slash ∉ name) : directory name = [] := by
  rw [directory, Bytes.cutLast_eq_none.mpr plain]

theorem directory_append {name : Bytes} (plain : slash ∉ name) (front : Bytes) :
    directory (front ++ slash :: name) = front ++ [slash] := by
  rw [directory, Bytes.cutLast_eq_some.mpr ⟨rfl, plain⟩]

theorem slash_not_mem_baseName (path : Bytes) : slash ∉ baseName path := by
  obtain plain | ⟨front, name, plain, rfl⟩ := Bytes.cut_cases slash path
  · rw [baseName_of_not_mem plain]
    exact plain
  · rw [baseName_append plain]
    exact plain

/-- **A path is its directory and its final component.** -/
theorem directory_append_baseName (path : Bytes) : directory path ++ baseName path = path := by
  obtain plain | ⟨front, name, plain, rfl⟩ := Bytes.cut_cases slash path
  · rw [directory_of_not_mem plain, baseName_of_not_mem plain, List.nil_append]
  · rw [directory_append plain, baseName_append plain, List.append_assoc, List.singleton_append]

/-- A name in the directory of a path has this directory. -/
theorem directory_beside (path : Bytes) {name : Bytes} (plain : slash ∉ name) :
    directory (directory path ++ name) = directory path := by
  obtain bare | ⟨front, last, clean, rfl⟩ := Bytes.cut_cases slash path
  · rw [directory_of_not_mem bare, List.nil_append, directory_of_not_mem plain]
  · rw [directory_append clean, List.append_assoc, List.singleton_append, directory_append plain]

theorem baseName_beside (path : Bytes) {name : Bytes} (plain : slash ∉ name) :
    baseName (directory path ++ name) = name := by
  obtain bare | ⟨front, last, clean, rfl⟩ := Bytes.cut_cases slash path
  · rw [directory_of_not_mem bare, List.nil_append, baseName_of_not_mem plain]
  · rw [directory_append clean, List.append_assoc, List.singleton_append, baseName_append plain]

end Path

namespace FileName

/-! ### Where a path is cut -/

theorem dataPath_of_not_mem {path : Bytes} (absent : underscore ∉ path) : dataPath path = path := by
  rw [dataPath, Bytes.cutLast_eq_none.mpr absent]

/-- A path whose last underscore stands in front of a slash stays as it is. -/
theorem dataPath_append_of_slash {back : Bytes} (last : underscore ∉ back)
    (beyond : Path.slash ∈ back) (front : Bytes) :
    dataPath (front ++ underscore :: back) = front ++ underscore :: back := by
  rw [dataPath, Bytes.cutLast_eq_some.mpr ⟨rfl, last⟩]
  exact if_pos beyond

theorem dataPath_isPrefix (path : Bytes) : dataPath path <+: path := by
  unfold dataPath
  split
  · next front back cut =>
    obtain ⟨rfl, _⟩ := Bytes.cutLast_eq_some.mp cut
    split
    · exact List.prefix_rfl
    · exact List.prefix_append _ _
  · exact List.prefix_rfl

/-- A name changes exactly if it has an underscore. -/
theorem dataPath_eq_self_iff {name : Bytes} (plain : Path.slash ∉ name) :
    dataPath name = name ↔ underscore ∉ name := by
  obtain absent | ⟨front, back, last, rfl⟩ := Bytes.cut_cases underscore name
  · exact iff_of_true (dataPath_of_not_mem absent) absent
  · rw [List.mem_append, List.mem_cons, not_or, not_or] at plain
    rw [dataPath_append last plain.2.2]
    refine iff_of_false (fun same => ?_) (fun absent => absent ?_)
    · have size := congrArg List.length same
      rw [List.length_append, List.length_cons] at size
      omega
    · exact List.mem_append_right front List.mem_cons_self

/-- **The cut is made within the final component**, whatever underscores stand in front of it. -/
theorem dataPath_below {name : Bytes} (plain : Path.slash ∉ name) (front : Bytes) :
    dataPath (front ++ Path.slash :: name) = front ++ Path.slash :: dataPath name := by
  obtain absent | ⟨before, back, last, rfl⟩ := Bytes.cut_cases underscore name
  · rw [dataPath_of_not_mem absent]
    have other : underscore ≠ Path.slash := by decide
    -- The last underscore of the path is one of the directory, if there is one at all.
    obtain none | ⟨first, rest, last, rfl⟩ := Bytes.cut_cases underscore front
    · refine dataPath_of_not_mem ?_
      simp only [List.mem_append, List.mem_cons, not_or]
      exact ⟨none, other, absent⟩
    · have behind : underscore ∉ rest ++ Path.slash :: name := by
        simp only [List.mem_append, List.mem_cons, not_or]
        exact ⟨last, other, absent⟩
      rw [List.append_assoc, List.cons_append]
      exact dataPath_append_of_slash behind (List.mem_append_right rest List.mem_cons_self) first
  · rw [List.mem_append, List.mem_cons, not_or, not_or] at plain
    rw [dataPath_append last plain.2.2, ← List.cons_append, ← List.append_assoc]
    exact dataPath_append last plain.2.2 _

/-- **The directory is kept, and the final component is cut as if it stood alone.** -/
theorem dataPath_eq (path : Bytes) :
    dataPath path = Path.directory path ++ dataPath (Path.baseName path) := by
  obtain plain | ⟨front, name, plain, rfl⟩ := Bytes.cut_cases Path.slash path
  · rw [Path.directory_of_not_mem plain, Path.baseName_of_not_mem plain, List.nil_append]
  · rw [dataPath_below plain, Path.directory_append plain, Path.baseName_append plain,
      List.append_assoc, List.singleton_append]

theorem dataPath_eq_self_iff_baseName (path : Bytes) :
    dataPath path = path ↔ underscore ∉ Path.baseName path := by
  rw [← dataPath_eq_self_iff (Path.slash_not_mem_baseName path), dataPath_eq]
  nth_rewrite 3 [← Path.directory_append_baseName path]
  exact List.append_right_inj _

/-! ### Metadata files -/

/-- The name in the directory of a metadata file is the one without the generation. -/
theorem dataPath_of_isMetadata {path : Bytes}
    (metadata : isMetadata (Path.baseName path) = true) :
    ∃ id digits, Path.baseName path = (FileName.metadata id digits).text ∧
      dataPath path = Path.directory path ++ (block id).text := by
  obtain ⟨_, _, known⟩ := isMetadata_iff.mp metadata
  obtain ⟨id, digits, parsed, _⟩ := metadataName_iff.mp known
  have named := parse?_eq_some.mp parsed
  have cut : dataPath (FileName.metadata id digits).text = (block id).text :=
    dataPath_metadata [] id digits
  refine ⟨id, digits, named, ?_⟩
  rw [dataPath_eq, named, cut]

/-- A file of a block is without a number exactly if the number does not fit a word. -/
theorem blockId?_eq_none_iff {name : Bytes} {id : Int} (known : BelongsTo name id) :
    blockId? name = none ↔ ¬ FitsWord id := by
  obtain ⟨read, parsed, rfl⟩ := belongsTo_iff.mp known
  rw [blockId?, parsed]
  exact Decimal.int64?_eq_none

/-- **Beside the data file**, for any path: the result is the path up to some byte behind its
directory, and all of it exactly if the final component has no underscore; in front of a plain name,
a directory and a slash do not matter. If the final component is the name of a metadata file, with
numbers of any size, the result is the path of a data file in the same directory, with the same
number, and neither name has one that does not fit a word. -/
theorem dataPath_beside (path : Bytes) :
    dataPath path <+: path ∧ Path.directory path <+: dataPath path ∧
      (dataPath path = path ↔ underscore ∉ Path.baseName path) ∧
      (∀ front name, Path.slash ∉ name →
        dataPath (front ++ Path.slash :: name) = front ++ Path.slash :: dataPath name) ∧
      (isMetadata (Path.baseName path) = true →
        isBlock (Path.baseName (dataPath path)) = true ∧
        Path.directory (dataPath path) = Path.directory path ∧
        dataBlockId? (Path.baseName (dataPath path)) = blockId? (Path.baseName path) ∧
        ∀ id generation, MetadataName (Path.baseName path) id generation →
          (blockId? (Path.baseName path) = none ↔ ¬ FitsWord id)) := by
  refine ⟨dataPath_isPrefix path, ?_, dataPath_eq_self_iff_baseName path,
    fun front name plain => dataPath_below plain front, fun metadata => ?_⟩
  · rw [dataPath_eq]
    exact List.prefix_append _ _
  · obtain ⟨id, digits, named, beside⟩ := dataPath_of_isMetadata metadata
    have plain := slash_not_mem_text (block id)
    rw [beside, Path.directory_beside path plain, Path.baseName_beside path plain]
    refine ⟨isBlock_block id, rfl, ?_, fun number generation known =>
      blockId?_eq_none_iff (.inr ⟨generation, known⟩)⟩
    rw [named, dataBlockId?_block, blockId?_text]
    rfl

/-- A directory with underscores, a number with zeros in front of it, and a number that does not
fit a word. -/
theorem dataPath_beside_underscores :
    let path := ascii "/data_dir/sub_1/blk_-007_1001.meta"
    let beyond := ascii "data_dir/blk_9223372036854775808_1.meta"
    let name := ascii "blk_-007_1001.meta"
    (isMetadata (Path.baseName path) = true ∧ isMetadata (Path.baseName beyond) = true ∧
      Path.slash ∉ name) ∧
      isBlock (Path.baseName (dataPath path)) = true ∧
      Path.directory (dataPath path) = ascii "/data_dir/sub_1/" ∧
      dataPath path = ascii "/data_dir/sub_1" ++ Path.slash :: dataPath name ∧
      dataBlockId? (Path.baseName (dataPath path)) = some (-7) ∧
      dataBlockId? (Path.baseName (dataPath beyond)) = none := by
  intro path beyond name
  have known : isMetadata (Path.baseName path) = true := by decide +kernel
  have far : isMetadata (Path.baseName beyond) = true := by decide +kernel
  have plain : Path.slash ∉ name := by decide +kernel
  obtain ⟨_, _, _, below, metadata⟩ := dataPath_beside path
  obtain ⟨isData, directory, number, _⟩ := metadata known
  obtain ⟨_, _, _, _, large⟩ := dataPath_beside beyond
  obtain ⟨_, _, none, _⟩ := large far
  have place : Path.directory path = ascii "/data_dir/sub_1/" := by decide +kernel
  have value : blockId? (Path.baseName path) = some (-7) := by decide +kernel
  have missing : blockId? (Path.baseName beyond) = Option.none := by decide +kernel
  exact ⟨⟨known, far, plain⟩, isData, directory.trans place,
    below (ascii "/data_dir/sub_1") name plain, number.trans value, none.trans missing⟩

end FileName
end StorageBlock
