/-
**The names of block files.**

The data of a block stands in a file `blk_<id>`, what is known about it in a metadata file
`blk_<id>_<generation>.meta`. `FileName` is the grammar of both, `FileName.text` spells a name and
`FileName.parse?` reads it; reading accepts exactly what spelling produces (`parse?_eq_some`).

The numbers in a name may have any number of digits. A number that does not fit a signed 64-bit word
leaves the name well formed but gives no value.
-/

import StorageBlock.Decimal
import StorageBlock.Path
import StorageBlock.Block.Basic

namespace StorageBlock

/-- A name of a file that belongs to a block. -/
inductive FileName where
  /-- The file of the block's data. -/
  | block (id : Numeral)
  /-- The file of what is known about one generation of the data. -/
  | metadata (id : Numeral) (generation : Digits)

namespace FileName

/-- How every name begins. -/
def opening : Bytes := ascii "blk_"

/-- How the name of a metadata file ends. -/
def metadataExtension : Bytes := ascii ".meta"

/-- The byte between the number of a block and its generation. -/
def underscore : UInt8 := 95

/-- The spelling of a name. -/
def text : FileName → Bytes
  | block id => opening ++ id.text
  | metadata id generation =>
    opening ++ (id.text ++ (underscore :: (generation.text ++ metadataExtension)))

/-- The number of the block that a file belongs to, as spelled in its name. -/
def id : FileName → Numeral
  | block id => id
  | metadata id _ => id

/-- The part of a metadata file's name after the number. -/
def parseGeneration? (text : Bytes) : Option Digits :=
  match Bytes.after? [underscore] text with
  | none => none
  | some text =>
    match Digits.read? text with
    | none => none
    | some (generation, ending) => if ending = metadataExtension then some generation else none

/-- The name that a text spells from its first byte to its last. -/
def parse? (text : Bytes) : Option FileName :=
  match Bytes.after? opening text with
  | none => none
  | some text =>
    match Numeral.read? text with
    | none => none
    | some (id, []) => some (block id)
    | some (id, rest) => (parseGeneration? rest).map (metadata id)

/-! ### What a name tells -/

/-- Is this the name of a data file? -/
def isBlock (name : Bytes) : Bool := parse? name matches some (block _)

/-- Is this the name of a metadata file? -/
def isMetadata (name : Bytes) : Bool := parse? name matches some (metadata _ _)

/-- The number of the block whose data file has this name. -/
def dataBlockId? (name : Bytes) : Option Int64 :=
  match parse? name with
  | some (block id) => id.int64?
  | _ => none

/-- The number of the block whose data or metadata file has this name. -/
def blockId? (name : Bytes) : Option Int64 :=
  match parse? name with
  | some parsed => parsed.id.int64?
  | none => none

/-- The same as `dataBlockId?`, with zero where there is no number. -/
def dataBlockId (name : Bytes) : Int64 := (dataBlockId? name).getD 0

/-- The same as `blockId?`, with zero where there is no number. -/
def blockId (name : Bytes) : Int64 := (blockId? name).getD 0

/-- The generation in the name of a metadata file, and the oldest one for every other name. -/
def generation (name : Bytes) : Int64 :=
  match parse? name with
  | some (metadata _ generation) => (Decimal.int64? generation.value).getD Block.oldestGeneration
  | _ => Block.oldestGeneration

/-- The path of the data file beside a metadata file: the final component loses its last underscore
and what follows it. -/
def dataPath (path : Bytes) : Bytes :=
  match Bytes.cutLast underscore path with
  | some (front, back) => if Path.slash ∈ back then path else front
  | none => path

/-! ### The grammar -/

theorem parseGeneration?_eq_some {text : Bytes} {generation : Digits} :
    parseGeneration? text = some generation ↔
      text = underscore :: (generation.text ++ metadataExtension) := by
  rw [parseGeneration?]
  split
  next missing =>
    simp only [reduceCtorEq, false_iff]
    rintro rfl
    simp [Bytes.after?] at missing
  next rest found =>
    rw [Bytes.after?_eq_some] at found
    subst found
    have ends : EndsNumber metadataExtension := by
      intro byte first
      obtain rfl : 46 = byte := Option.some.inj first
      decide
    split
    next missing =>
      simp only [reduceCtorEq, List.singleton_append, List.cons.injEq, true_and, false_iff]
      rintro rfl
      rw [Digits.read?_eq_some.mpr ⟨rfl, ends⟩] at missing
      cases missing
    next read ending found =>
      obtain ⟨rfl, _⟩ := Digits.read?_eq_some.mp found
      simp only [List.singleton_append, List.cons.injEq, true_and]
      constructor
      · intro same
        split at same
        next complete =>
          obtain rfl : read = generation := by simpa using same
          rw [complete]
        next => cases same
      · intro same
        rw [same, Digits.read?_eq_some.mpr ⟨rfl, ends⟩] at found
        obtain ⟨rfl, rfl⟩ : generation = read ∧ metadataExtension = ending := by simpa using found
        rw [if_pos rfl]

/-- **Reading a name accepts exactly what spelling one produces.** -/
theorem parse?_eq_some {name : Bytes} {parsed : FileName} :
    parse? name = some parsed ↔ name = parsed.text := by
  have ends (rest : Bytes) : EndsNumber (underscore :: rest) := by
    intro byte first
    obtain rfl : underscore = byte := by simpa using first
    decide
  have endsEmpty : EndsNumber [] := by simp [EndsNumber]
  rw [parse?]
  split
  next missing =>
    simp only [reduceCtorEq, false_iff]
    rintro rfl
    cases parsed <;> rw [text, Bytes.after?_eq_some.mpr rfl] at missing <;> cases missing
  next body found =>
    rw [Bytes.after?_eq_some] at found
    subst found
    split
    next missing =>
      simp only [reduceCtorEq, false_iff]
      intro same
      cases parsed with
      | block id =>
        obtain rfl : body = id.text := by simpa [text] using same
        rw [Numeral.read?_eq_some.mpr ⟨(List.append_nil _).symm, endsEmpty⟩] at missing
        cases missing
      | metadata id generation =>
        obtain rfl := List.append_cancel_left same
        rw [Numeral.read?_eq_some.mpr ⟨rfl, ends _⟩] at missing
        cases missing
    next read found =>
      obtain ⟨rfl, _⟩ := Numeral.read?_eq_some.mp found
      rw [List.append_nil] at found ⊢
      cases parsed with
      | block id =>
        simp only [Option.some.injEq, block.injEq, text]
        constructor
        · rintro rfl
          rfl
        · intro same
          rw [List.append_cancel_left same,
            Numeral.read?_eq_some.mpr ⟨(List.append_nil _).symm, endsEmpty⟩] at found
          simpa using found.symm
      | metadata id generation =>
        simp only [Option.some.injEq, reduceCtorEq, text, false_iff]
        intro same
        rw [List.append_cancel_left same, Numeral.read?_eq_some.mpr ⟨rfl, ends _⟩] at found
        simp at found
    next read rest nonempty found =>
      obtain ⟨rfl, _⟩ := Numeral.read?_eq_some.mp found
      simp only [Option.map_eq_some_iff, parseGeneration?_eq_some]
      constructor
      · rintro ⟨generation, rfl, rfl⟩
        rfl
      · intro same
        cases parsed with
        | block id =>
          rw [List.append_cancel_left same,
            Numeral.read?_eq_some.mpr ⟨(List.append_nil _).symm, endsEmpty⟩] at found
          obtain ⟨_, rfl⟩ : id = read ∧ [] = rest := by simpa using found
          exact absurd rfl nonempty
        | metadata id generation =>
          rw [List.append_cancel_left same, Numeral.read?_eq_some.mpr ⟨rfl, ends _⟩] at found
          obtain ⟨rfl, rfl⟩ : id = read ∧ _ = rest := by simpa using found
          exact ⟨generation, rfl, rfl⟩

end FileName

end StorageBlock
