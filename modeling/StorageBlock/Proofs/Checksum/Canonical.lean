/-
**The one text that is written for a checksum.**

Several texts are read as one checksum, because blanks and the last bits of the last symbol may not
show. One of them is written.

* `decode_encode_via_padded`: the text is the padded standard text, without its signs and with two
  symbols exchanged; the reader restores the padded text and reads the checksum back;
* `Canonical` says that a text has symbols only, and zeros where its bits belong to no byte;
* `encode_eq_iff_canonical`: of the texts that are read as a checksum, the canonical one is written,
  unless it is too long (`overlong_not_written`).
-/

import StorageBlock.Proofs.Checksum.Language

namespace StorageBlock.Checksum

open Base64

/-! ### From padded text and back -/

/-- **A checksum survives its text.** The text is the padded standard text without the signs at its
end and in the other alphabet. From its length the reader restores exactly the padding that was
dropped, and from the restored text it reads the checksum. -/
theorem decode_encode_via_padded {checksum : Bytes} (fits : Fits checksum) :
    ∃ text, encode checksum = .ok text ∧
      text = (Padded.unpad (Padded.encode checksum)).map fromStandard ∧
      padded text = Padded.encode checksum ∧ decode text = .ok checksum :=
  ⟨spelling checksum, encode_of_fits fits, spelling_eq_exchanged checksum,
    padded_spelling checksum, decode_spelling fits⟩

/-- The text of three bytes whose standard text has both exchanged symbols. -/
theorem decode_encode_via_padded_exchanged :
    Fits [251, 255, 254] ∧ encode [251, 255, 254] = .ok (ascii "-__-") ∧
      decode (ascii "-__-") = .ok [251, 255, 254] := by
  have fits : Fits [251, 255, 254] := by decide
  obtain ⟨text, written, exchanged, _, read⟩ := decode_encode_via_padded fits
  have known : (Padded.unpad (Padded.encode [251, 255, 254])).map fromStandard = ascii "-__-" := rfl
  rw [exchanged, known] at written read
  exact ⟨fits, written, read⟩

/-! ### Bits that belong to no byte -/

/-- How many bits of the last symbol of a text belong to no byte. -/
def unusedBits (length : Nat) : Nat :=
  if length % 4 = 2 then 4 else if length % 4 = 3 then 2 else 0

theorem unusedBits_le (length : Nat) : unusedBits length ≤ 6 := by
  unfold unusedBits
  split
  · decide
  · split
    · decide
    · decide

/-- The bytes of symbols and the unused bits are all the bits of the symbols. -/
theorem unusedBits_eq {length : Nat} (possible : length % 4 ≠ 1) :
    8 * (3 * length / 4) + unusedBits length = 6 * length := by
  unfold unusedBits
  split
  · omega
  · split
    · omega
    · omega

/-- **Behind the last whole byte** stand the last bits of the last symbol. -/
theorem unused_zero_iff {front : List Sextet} {last : Sextet}
    (possible : (front ++ [last]).length % 4 ≠ 1) :
    (∀ bit ∈ (sextetBits (front ++ [last])).drop (8 * (3 * (front ++ [last]).length / 4)),
      bit = false) ↔ last.val % 2 ^ unusedBits (front ++ [last]).length = 0 := by
  have count := unusedBits_eq possible
  have used := unusedBits_le (front ++ [last]).length
  rw [← bits_all_false]
  generalize unusedBits (front ++ [last]).length = unused at count used ⊢
  -- Of the six bits of the last symbol, those in front of the unused ones belong to a byte.
  have position : 8 * (3 * (front ++ [last]).length / 4) =
      (sextetBits front).length + (6 - unused) := by
    rw [sextetBits_length]
    rw [List.length_append, List.length_singleton] at count ⊢
    omega
  have six : sextetBits [last] = bits (6 - unused + unused) last.val := by
    rw [Nat.sub_add_cancel used]
    exact List.append_nil _
  rw [position, sextetBits_append, List.drop_append, List.drop_of_length_le (Nat.le_add_right _ _),
    Nat.add_sub_cancel_left, List.nil_append, six, bits_drop]

/-! ### Canonical texts -/

/-- A text of symbols only, in which the bits that belong to no byte are zero. -/
structure Canonical (text : Bytes) : Prop where
  symbol : ∀ byte ∈ text, Alphabet.urlSafe.IsSymbol byte
  unused : ∀ last ∈ text.getLast?, ∀ value ∈ Alphabet.urlSafe.sextet? last,
    value.val % 2 ^ unusedBits text.length = 0

/-- Symbols are what is written for their bytes exactly if their unused bits are zero. -/
theorem spelling_unpadded_iff {values : List Sextet} (possible : values.length % 4 ≠ 1) :
    spelling (unpadded values) = values.map Alphabet.urlSafe.symbol ↔
      Canonical (values.map Alphabet.urlSafe.symbol) := by
  have symbols : ∀ byte ∈ values.map Alphabet.urlSafe.symbol, Alphabet.urlSafe.IsSymbol byte :=
    Alphabet.exists_map_symbol.mp ⟨values, rfl⟩
  have written : spelling (unpadded values) = values.map Alphabet.urlSafe.symbol ↔
      sextets (unpadded values) = values :=
    List.map_inj_right fun _ _ => Alphabet.symbol_injective
  rw [written, sextets_unpadded_iff possible]
  rcases List.eq_nil_or_concat' values with rfl | ⟨front, last, rfl⟩
  · refine ⟨fun _ => ⟨symbols, ?_⟩, fun _ bit member => ?_⟩
    · exact fun last member => absurd member (Option.not_mem_none last)
    · exact absurd member List.not_mem_nil
  · rw [unused_zero_iff possible]
    have ending : ((front ++ [last]).map Alphabet.urlSafe.symbol).getLast? =
        some (Alphabet.urlSafe.symbol last) := by
      rw [List.map_append]
      exact List.getLast?_concat
    constructor
    · intro zero
      refine ⟨symbols, ?_⟩
      intro byte atEnd value found
      rw [ending, Option.mem_some_iff] at atEnd
      rw [← atEnd, (Alphabet.sextet?_symbol last).2, Option.mem_some_iff] at found
      rw [← found, List.length_map]
      exact zero
    · intro canonical
      have zero := canonical.unused _ ending last (Alphabet.sextet?_symbol last).2
      rw [List.length_map] at zero
      exact zero

theorem canonical_spelling (checksum : Bytes) : Canonical (spelling checksum) := by
  have possible : (sextets checksum).length % 4 ≠ 1 := by
    rw [sextets_length]
    omega
  have same : spelling (unpadded (sextets checksum)) =
      (sextets checksum).map Alphabet.urlSafe.symbol := by
    rw [unpadded_sextets]
    rfl
  exact (spelling_unpadded_iff possible).mp same

/-- **Of the texts that are read as a checksum, the canonical one is written for it**, unless it is
too long. -/
theorem encode_eq_iff_canonical {text checksum : Bytes} (accepted : decode text = .ok checksum) :
    encode checksum = .ok text ↔ Canonical text ∧ (padded text).length < 2 ^ 31 := by
  constructor
  · intro same
    obtain ⟨fits, rfl⟩ := eq_spelling_of_encode same
    refine ⟨canonical_spelling _, ?_⟩
    rw [padded_spelling]
    exact fits
  · rintro ⟨canonical, short⟩
    rw [decode_eq_ok_iff short] at accepted
    obtain ⟨possible, _⟩ := core_of_parse accepted
    obtain ⟨values, rfl⟩ := Alphabet.exists_map_symbol.mpr canonical.symbol
    rw [List.length_map] at possible
    rw [parse_symbols possible] at accepted
    obtain rfl := Except.ok.inj accepted
    have same := (spelling_unpadded_iff possible).mpr canonical
    have fits : Fits (unpadded values) := by
      rw [Fits, ← padded_spelling, same]
      exact short
    rw [encode_of_fits fits, same]

/-- Two texts are read as the byte one, and the one without a bit too many is written for it. -/
theorem encode_eq_iff_canonical_one :
    (decode (ascii "AQ") = .ok [1] ∧ encode [1] = .ok (ascii "AQ")) ∧
      decode (ascii "AR") = .ok [1] ∧ encode [1] ≠ .ok (ascii "AR") := by
  have written : decode (ascii "AQ") = .ok [1] := (decode_eq_ok_iff (by decide)).mpr rfl
  have spare : decode (ascii "AR") = .ok [1] := (decode_eq_ok_iff (by decide)).mpr rfl
  have symbols : ∀ byte ∈ ascii "AQ", Alphabet.urlSafe.IsSymbol byte :=
    Alphabet.exists_map_symbol.mp ⟨[0, 16], rfl⟩
  refine ⟨⟨written, (encode_eq_iff_canonical written).mpr ⟨⟨symbols, ?_⟩, by decide⟩⟩, spare,
    fun same => ?_⟩
  · intro last atEnd value found
    obtain rfl : 81 = last := Option.some.inj atEnd
    obtain rfl : 16 = value := Option.some.inj found
    rfl
  · have zero : 17 % 16 = 0 := ((encode_eq_iff_canonical spare).mp same).1.unused 82 rfl 17 rfl
    exact absurd zero (by decide)

/-- **The shortest canonical text that is too long** is read as an empty checksum, for which it is
not written. -/
theorem overlong_not_written :
    let text : Bytes := List.replicate 2147483648 65
    decode text = .ok [] ∧ encode [] = .ok [] ∧ Canonical text ∧
      ¬ (encode [] = .ok text ↔ Canonical text) := by
  intro text
  have size : text.length = 2147483648 := List.length_replicate
  have letter : ∀ byte ∈ text, byte = 65 := fun byte member => List.eq_of_mem_replicate member
  -- From here on only the length of the text and its one letter count.
  clear_value text
  have whole : padding text.length = 0 := by rw [size]; rfl
  have width : (padded text).length = 2147483648 := by
    rw [padded, List.length_append, List.length_map, whole, size]
    rfl
  have own : text.any isForeign = false := by
    rw [List.any_eq_false]
    intro byte member
    rw [letter byte member]
    decide
  have read : decode text = .ok [] := by
    rw [decode_of_long (by omega) own (by omega) (by omega), if_pos whole]
  have canonical : Canonical text := by
    refine ⟨fun byte member => ?_, fun last _ value _ => ?_⟩
    · rw [letter byte member]
      decide
    · have none : unusedBits text.length = 0 := by rw [size]; rfl
      rw [none, Nat.pow_zero, Nat.mod_one]
  refine ⟨read, rfl, canonical, fun same => ?_⟩
  have empty : [] = text := Except.ok.inj (same.mpr canonical)
  rw [← empty] at size
  cases size

end StorageBlock.Checksum
