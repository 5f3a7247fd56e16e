/-
**Which texts the reader of checksums accepts.**

The reader appends padding by the length of the whole text and leaves blanks to the reader of padded
Base64. Behind a text that is completed with padding no blank is dropped; in front of one, and on
both sides of a text that needs none, blanks are dropped. What is left are the symbols.

* `Framed` says of which parts an accepted text consists: blanks, symbols, blanks, with lengths
  that fit;
* `decode_iff_framed`: exactly the framed texts are accepted, as the whole bytes at the front of the
  bits of their symbols, and all others are refused for their wording;
* `decode_iff_symbols`: a text without blanks is accepted exactly if it consists of symbols and its
  length leaves no remainder of one; blanks alone are accepted as well (`decode_four_spaces`).
-/

import StorageBlock.Proofs.Base64.Bits
import StorageBlock.Proofs.Base64.Blanks
import StorageBlock.Proofs.Base64.Symbols
import StorageBlock.Proofs.Checksum.Text

namespace StorageBlock.Checksum

open Base64

/-! ### The exchange of two symbols -/

theorem toStandard_cases (byte : UInt8) :
    byte = Alphabet.urlSafe.sixtyTwo ∨ byte = Alphabet.urlSafe.sixtyThree ∨
      (byte ≠ Alphabet.urlSafe.sixtyTwo ∧ byte ≠ Alphabet.urlSafe.sixtyThree ∧
        toStandard byte = byte) := by
  by_cases hyphen : byte = Alphabet.urlSafe.sixtyTwo
  · exact .inl hyphen
  by_cases underscore : byte = Alphabet.urlSafe.sixtyThree
  · exact .inr (.inl underscore)
  · refine .inr (.inr ⟨hyphen, underscore, ?_⟩)
    rw [toStandard, if_neg hyphen, if_neg underscore]

/-- A class of bytes with none or both of the exchanged symbols is kept by the exchange. -/
theorem class_toStandard {holds : UInt8 → Bool}
    (hyphen : holds Alphabet.standard.sixtyTwo = holds Alphabet.urlSafe.sixtyTwo)
    (underscore : holds Alphabet.standard.sixtyThree = holds Alphabet.urlSafe.sixtyThree)
    (byte : UInt8) : holds (toStandard byte) = holds byte := by
  rcases toStandard_cases byte with rfl | rfl | ⟨_, _, same⟩
  · exact hyphen
  · exact underscore
  · rw [same]

theorem isLeadingBlank_toStandard (byte : UInt8) :
    Padded.isLeadingBlank (toStandard byte) = Padded.isLeadingBlank byte :=
  class_toStandard rfl rfl byte

theorem isTrailingBlank_toStandard (byte : UInt8) :
    Padded.isTrailingBlank (toStandard byte) = Padded.isTrailingBlank byte :=
  class_toStandard rfl rfl byte

/-- A byte that is not refused has the same value before and behind the exchange. -/
theorem sextet?_toStandard {byte : UInt8} (own : isForeign byte = false) :
    Padded.sextet? (toStandard byte) = Alphabet.urlSafe.sextet? byte := by
  rcases toStandard_cases byte with rfl | rfl | ⟨notHyphen, notUnderscore, same⟩
  · rfl
  · rfl
  · unfold isForeign at own
    rw [Bool.or_eq_false_iff, Bool.or_eq_false_iff, beq_eq_false_iff_ne, beq_eq_false_iff_ne,
      beq_eq_false_iff_ne] at own
    obtain ⟨⟨notPlus, notSlash⟩, notSign⟩ := own
    rw [same, Padded.sextet?, if_neg notSign, Alphabet.sextet?, Alphabet.sextet?, if_neg notPlus,
      if_neg notSlash, if_neg notHyphen, if_neg notUnderscore]

theorem symbol_not_blank (value : Sextet) :
    Padded.isLeadingBlank (Alphabet.urlSafe.symbol value) = false ∧
      Padded.isTrailingBlank (Alphabet.urlSafe.symbol value) = false := by
  rw [← isLeadingBlank_toStandard, ← isTrailingBlank_toStandard, toStandard_symbol]
  exact Padded.symbol_not_blank value

theorem blank_not_foreign {byte : UInt8} (blank : Padded.isTrailingBlank byte) :
    isForeign byte = false := by
  simp only [Padded.isTrailingBlank, Bool.or_eq_true, beq_iff_eq] at blank
  rcases blank with ((rfl | rfl) | rfl) | rfl
  all_goals rfl

theorem isTrailingBlank_of_leading {byte : UInt8} (blank : Padded.isLeadingBlank byte) :
    Padded.isTrailingBlank byte := by
  simp only [Padded.isLeadingBlank, Bool.or_eq_true, beq_iff_eq] at blank
  rcases blank with rfl | rfl
  all_goals rfl

/-! ### The core of a text -/

/-- The part of a text that is read as symbols. -/
def core (text : Bytes) : Bytes :=
  if padding text.length = 0 then Padded.body text else text.dropWhile Padded.isLeadingBlank

/-- **What the reader of padded Base64 makes of the completed text**: the core, completed. -/
theorem body_padded (text : Bytes) :
    Padded.body (padded text) =
      (core text).map toStandard ++ List.replicate (padding text.length) Padded.sign := by
  have sameLeading : Padded.isLeadingBlank ∘ toStandard = Padded.isLeadingBlank :=
    funext isLeadingBlank_toStandard
  unfold padded core
  cases padding text.length with
  | zero =>
    rw [if_pos rfl, List.replicate_zero, List.append_nil, List.append_nil]
    exact Padded.body_map isLeadingBlank_toStandard isTrailingBlank_toStandard text
  | succ count =>
    -- Blanks behind the symbols now stand in front of the signs, where nothing is dropped.
    rw [if_neg (Nat.succ_ne_zero count), Padded.body_append_signs, List.dropWhile_map, sameLeading]

/-- **What surrounds the core are blanks**, and none of them stand behind it if the text is
completed with padding or the core is empty. -/
theorem exists_around_core (text : Bytes) :
    ∃ leading trailing, text = leading ++ core text ++ trailing ∧
      (∀ byte ∈ leading, Padded.isLeadingBlank byte) ∧
      (∀ byte ∈ trailing, Padded.isTrailingBlank byte) ∧
      (core text = [] → trailing = []) ∧ (padding text.length ≠ 0 → trailing = []) := by
  by_cases whole : padding text.length = 0
  · rw [core, if_pos whole]
    obtain ⟨leading, trailing, parts, leadingBlank, trailingBlank, none⟩ :=
      Padded.exists_around_body text
    exact ⟨leading, trailing, parts, leadingBlank, trailingBlank, none,
      fun completed => absurd whole completed⟩
  · rw [core, if_neg whole]
    refine ⟨text.takeWhile Padded.isLeadingBlank, [], ?_, ?_, ?_, fun _ => rfl, fun _ => rfl⟩
    · rw [List.append_nil, List.takeWhile_append_dropWhile]
    · exact fun byte member => List.mem_takeWhile_imp member
    · exact fun byte member => absurd member List.not_mem_nil

theorem mem_of_core {text : Bytes} {byte : UInt8} (inside : byte ∈ core text) : byte ∈ text := by
  obtain ⟨leading, trailing, parts, _⟩ := exists_around_core text
  rw [parts]
  exact List.mem_append_left _ (List.mem_append_right _ inside)

/-- A text without blanks is its own core. -/
theorem core_of_clean {text : Bytes} (clean : ∀ byte ∈ text, Padded.isTrailingBlank byte = false) :
    core text = text := by
  have leading : ∀ byte ∈ text, Padded.isLeadingBlank byte = false := by
    intro byte member
    refine Bool.eq_false_iff.mpr fun blank => ?_
    exact Bool.eq_false_iff.mp (clean byte member) (isTrailingBlank_of_leading blank)
  unfold core
  split
  · exact Padded.body_of_clean leading clean
  · exact Padded.dropWhile_of_clean leading

theorem own_of_core {text : Bytes} (symbols : ∀ byte ∈ core text, Alphabet.urlSafe.IsSymbol byte) :
    text.any isForeign = false := by
  obtain ⟨leading, trailing, parts, leadingBlank, trailingBlank, _⟩ := exists_around_core text
  rw [List.any_eq_false]
  intro byte member
  rw [parts, List.mem_append, List.mem_append] at member
  rw [Bool.not_eq_true]
  rcases member with (before | inside) | behind
  · exact blank_not_foreign (isTrailingBlank_of_leading (leadingBlank byte before))
  · obtain ⟨value, rfl⟩ := Alphabet.isSymbol_iff.mp (symbols byte inside)
    exact symbol_not_foreign value
  · exact blank_not_foreign (trailingBlank byte behind)

/-! ### Reading the core -/

/-- **A text whose core consists of symbols in whole groups is accepted.** -/
theorem parse_of_core {text : Bytes} {values : List Sextet} (possible : text.length % 4 ≠ 1)
    (symbols : core text = values.map Alphabet.urlSafe.symbol)
    (fits : (values.length + padding text.length) % 4 = 0) :
    parse text = .ok (unpadded values) := by
  have same : padding text.length = padding values.length := by
    unfold padding at fits ⊢
    omega
  have own : text.any isForeign = false := by
    apply own_of_core
    rw [symbols]
    exact Alphabet.exists_map_symbol.mp ⟨values, rfl⟩
  have body : Padded.body (padded text) = values.map Alphabet.standard.symbol ++
      List.replicate (padding values.length) Padded.sign := by
    rw [body_padded, symbols, map_toStandard, same]
  have width : (Padded.body (padded text)).length % 4 = 0 := by
    rw [body, List.length_append, List.length_map, List.length_replicate, ← same]
    exact fits
  have read : Padded.decode (padded text) = some (octets (complete values)) := by
    rw [Padded.decode, if_pos width, body, Padded.mapM_sextet?]
    rfl
  by_cases nothing : text = []
  · subst nothing
    obtain rfl : values = [] := List.map_eq_nil_iff.mp symbols.symm
    rfl
  · rw [parse, if_neg nothing, if_neg possible, own, read]
    show Except.ok _ = _
    rw [same, octets_complete_length, unpadded]

/-- What is read symbol by symbol has a value at each byte. -/
theorem exists_sextet?_of_mapM {text : Bytes} {values : List Sextet}
    (read : text.mapM Padded.sextet? = some values) :
    ∀ byte ∈ text, ∃ value, Padded.sextet? byte = some value := by
  induction text generalizing values with
  | nil => exact fun byte member => absurd member List.not_mem_nil
  | cons first text hypothesis =>
    obtain ⟨value, rest, head, tail, _⟩ := Padded.mapM_cons_eq_some.mp read
    exact List.forall_mem_cons.mpr ⟨⟨value, head⟩, hypothesis tail⟩

/-- **What acceptance means step by step**: a possible length, no refused byte, and a completed text
that the reader of padded Base64 accepts. -/
theorem parse_cases {text checksum : Bytes} (accepted : parse text = .ok checksum) :
    text = [] ∨ text.length % 4 ≠ 1 ∧ (∀ byte ∈ text, isForeign byte = false) ∧
      ∃ bytes, Padded.decode (padded text) = some bytes := by
  unfold parse at accepted
  split at accepted
  · next nothing => exact .inl nothing
  split at accepted
  · cases accepted
  next possible =>
  split at accepted
  · cases accepted
  next own =>
  split at accepted
  · cases accepted
  next bytes read =>
    rw [List.any_eq_true, not_exists] at own
    refine .inr ⟨possible, fun byte member => Bool.eq_false_iff.mpr fun foreign => ?_, bytes, read⟩
    exact own byte ⟨member, foreign⟩

/-- **The core of an accepted text consists of symbols in whole groups.** -/
theorem core_of_parse {text checksum : Bytes} (accepted : parse text = .ok checksum) :
    text.length % 4 ≠ 1 ∧ ((core text).length + padding text.length) % 4 = 0 ∧
      ∀ byte ∈ core text, Alphabet.urlSafe.IsSymbol byte := by
  rcases parse_cases accepted with rfl | ⟨possible, own, bytes, read⟩
  · exact ⟨by decide, rfl, fun byte member => absurd member List.not_mem_nil⟩
  rw [Padded.decode, body_padded] at read
  split at read
  · next width =>
    refine ⟨possible, ?_, fun byte inside => ?_⟩
    · rw [List.length_append, List.length_map, List.length_replicate] at width
      exact width
    · -- The byte has a value behind the exchange; it is not refused, so it had the value before.
      obtain ⟨values, each, _⟩ := Option.map_eq_some_iff.mp read
      obtain ⟨value, found⟩ := exists_sextet?_of_mapM each (toStandard byte)
        (List.mem_append_left _ (List.mem_map_of_mem inside))
      rw [sextet?_toStandard (own byte (mem_of_core inside))] at found
      exact Alphabet.exists_sextet?.mp ⟨value, found⟩
  · cases read

/-! ### Framed texts -/

/-- The parts of an accepted text: blanks, symbols and blanks, where the length of the text decides
how many symbols there may be and where blanks may stand. -/
structure Framed (text leading symbols trailing : Bytes) : Prop where
  parts : text = leading ++ symbols ++ trailing
  leading_blank : ∀ byte ∈ leading, Padded.isLeadingBlank byte
  symbol : ∀ byte ∈ symbols, Alphabet.urlSafe.IsSymbol byte
  trailing_blank : ∀ byte ∈ trailing, Padded.isTrailingBlank byte
  trailing_nil : symbols = [] → trailing = []
  fits : text.length % 4 = 0 ∧ symbols.length % 4 = 0 ∨
    (text.length % 4 = 2 ∨ text.length % 4 = 3) ∧ trailing = [] ∧ leading.length % 4 = 0

/-- **The symbols of a framed text are its core.** -/
theorem Framed.core_eq {text leading symbols trailing : Bytes}
    (framed : Framed text leading symbols trailing) : core text = symbols := by
  have clean : ∀ byte ∈ symbols, Padded.isLeadingBlank byte = false ∧
      Padded.isTrailingBlank byte = false := by
    intro byte member
    obtain ⟨value, rfl⟩ := Alphabet.isSymbol_iff.mp (framed.symbol byte member)
    exact symbol_not_blank value
  rcases framed.fits with ⟨whole, groups⟩ | ⟨cut, none, before⟩
  · -- Whole groups are at least four symbols, so that all the blanks behind them are dropped.
    have behind : trailing = [] ∨ 3 ≤ symbols.length := by
      by_cases nothing : symbols = []
      · exact .inl (framed.trailing_nil nothing)
      · have := List.length_pos_iff.mpr nothing
        exact .inr (by omega)
    rw [core, if_pos (by unfold padding; omega), framed.parts]
    exact Padded.body_around framed.leading_blank clean framed.trailing_blank behind
  · rw [core, if_neg (by unfold padding; omega), framed.parts, none, List.append_nil,
      List.dropWhile_append, List.dropWhile_eq_nil_iff.mpr framed.leading_blank]
    exact Padded.dropWhile_of_clean fun byte member => (clean byte member).1

/-- A text whose core consists of symbols in whole groups is framed. -/
theorem exists_framed {text : Bytes} (possible : text.length % 4 ≠ 1)
    (groups : ((core text).length + padding text.length) % 4 = 0)
    (symbols : ∀ byte ∈ core text, Alphabet.urlSafe.IsSymbol byte) :
    ∃ leading trailing, Framed text leading (core text) trailing := by
  obtain ⟨leading, trailing, parts, leadingBlank, trailingBlank, none, completed⟩ :=
    exists_around_core text
  refine ⟨leading, trailing, parts, leadingBlank, symbols, trailingBlank, none, ?_⟩
  by_cases whole : padding text.length = 0
  · rw [whole] at groups
    unfold padding at whole
    exact .inl ⟨by omega, groups⟩
  · -- Nothing stands behind the core, and both it and the text lack the same to whole groups.
    have nothing := completed whole
    have size := congrArg List.length parts
    rw [nothing, List.append_nil, List.length_append] at size
    unfold padding at whole groups
    exact .inr ⟨by omega, nothing, by omega⟩

/-- The bytes that symbols stand for: as many as fit into the bits of the symbols, with these bits
from the first one on. -/
def Denotes (symbols checksum : Bytes) : Prop :=
  ∃ values, symbols.mapM Alphabet.urlSafe.sextet? = some values ∧
    checksum.length = 3 * symbols.length / 4 ∧ byteBits checksum <+: sextetBits values

theorem denotes_symbols {values : List Sextet} {checksum : Bytes} :
    Denotes (values.map Alphabet.urlSafe.symbol) checksum ↔ checksum = unpadded values := by
  constructor
  · rintro ⟨read, each, size, front⟩
    rw [Alphabet.mapM_sextet?_symbols, Option.some.injEq] at each
    subst each
    rw [List.length_map] at size
    rw [List.prefix_iff_eq_take, byteBits_length, size, ← byteBits_unpadded] at front
    exact byteBits_injective front
  · rintro rfl
    refine ⟨values, Alphabet.mapM_sextet?_symbols values, ?_, ?_⟩
    · rw [unpadded_length, List.length_map]
    · rw [byteBits_unpadded]
      exact List.take_prefix _ _

theorem parse_of_framed {text leading symbols trailing checksum : Bytes}
    (framed : Framed text leading symbols trailing) (denotes : Denotes symbols checksum) :
    parse text = .ok checksum := by
  obtain ⟨values, rfl⟩ := Alphabet.exists_map_symbol.mpr framed.symbol
  obtain rfl := denotes_symbols.mp denotes
  refine parse_of_core ?_ framed.core_eq ?_
  · rcases framed.fits with whole | cut
    · omega
    · omega
  · have size := congrArg List.length framed.parts
    rw [List.length_append, List.length_append, List.length_map] at size
    unfold padding
    rcases framed.fits with ⟨whole, groups⟩ | ⟨cut, none, before⟩
    · rw [List.length_map] at groups
      omega
    · rw [none, List.length_nil] at size
      omega

theorem framed_of_parse {text checksum : Bytes} (accepted : parse text = .ok checksum) :
    ∃ leading trailing,
      Framed text leading (core text) trailing ∧ Denotes (core text) checksum := by
  obtain ⟨possible, groups, symbols⟩ := core_of_parse accepted
  obtain ⟨leading, trailing, framed⟩ := exists_framed possible groups symbols
  obtain ⟨values, spelt⟩ := Alphabet.exists_map_symbol.mpr symbols
  refine ⟨leading, trailing, framed, ?_⟩
  rw [spelt, List.length_map] at groups
  rw [parse_of_core possible spelt groups] at accepted
  rw [spelt, denotes_symbols]
  exact (Except.ok.inj accepted).symm

/-- Framed symbols always stand for some bytes. -/
theorem Framed.exists_parse {text leading symbols trailing : Bytes}
    (framed : Framed text leading symbols trailing) : ∃ checksum, parse text = .ok checksum := by
  obtain ⟨values, rfl⟩ := Alphabet.exists_map_symbol.mpr framed.symbol
  exact ⟨unpadded values, parse_of_framed framed (denotes_symbols.mpr rfl)⟩

/-! ### The accepted texts -/

/-- **Exactly the framed texts are accepted**, as the bytes that their symbols stand for, and every
other text is refused for its wording. -/
theorem decode_iff_framed {text : Bytes} (short : (padded text).length < 2 ^ 31) :
    (∀ checksum, decode text = .ok checksum ↔
      ∃ leading symbols trailing, Framed text leading symbols trailing ∧
        Denotes symbols checksum) ∧
      ((∃ error : FormatError, decode text = .error (.cause error)) ↔
        ¬ ∃ leading symbols trailing, Framed text leading symbols trailing) := by
  simp only [decode_eq_ok_iff short, decode_eq_cause_iff short]
  refine ⟨fun checksum => ⟨fun accepted => ?_, ?_⟩, ?_, fun unframed => ?_⟩
  · obtain ⟨leading, trailing, framed, denotes⟩ := framed_of_parse accepted
    exact ⟨leading, core text, trailing, framed, denotes⟩
  · rintro ⟨leading, symbols, trailing, framed, denotes⟩
    exact parse_of_framed framed denotes
  · rintro ⟨error, refused⟩ ⟨leading, symbols, trailing, framed⟩
    obtain ⟨checksum, accepted⟩ := framed.exists_parse
    rw [refused] at accepted
    cases accepted
  · cases outcome : parse text with
    | error error => exact ⟨error, rfl⟩
    | ok checksum =>
      obtain ⟨leading, trailing, framed, _⟩ := framed_of_parse outcome
      exact absurd ⟨leading, core text, trailing, framed⟩ unframed

/-- Blanks in front of two symbols are dropped, and a star is no symbol. -/
theorem decode_iff_framed_blanks :
    let text := ascii "    AQ"
    let starred := ascii "AB*D"
    ((padded text).length < 2 ^ 31 ∧
      ∃ leading symbols trailing, Framed text leading symbols trailing ∧ Denotes symbols [1]) ∧
      (padded starred).length < 2 ^ 31 ∧
        ¬ ∃ leading symbols trailing, Framed starred leading symbols trailing := by
  intro text starred
  have short : (padded text).length < 2 ^ 31 := by decide
  have starredShort : (padded starred).length < 2 ^ 31 := by decide
  have known : parse (ascii "    AQ") = .ok [1] := rfl
  have accepted : decode text = .ok [1] := (decode_eq_ok_iff short).mpr known
  have unread : parse (ascii "AB*D") = .error (.encoding (ascii "AB*D")) := rfl
  have refused : decode starred = .error (.cause (.encoding starred)) :=
    (decode_eq_cause_iff starredShort).mpr unread
  exact ⟨⟨short, ((decode_iff_framed short).1 [1]).mp accepted⟩, starredShort,
    (decode_iff_framed starredShort).2.mp ⟨_, refused⟩⟩

/-- **A text without blanks** is accepted exactly if it consists of symbols and its length leaves no
remainder of one. -/
theorem decode_iff_symbols {text : Bytes} (short : (padded text).length < 2 ^ 31) :
    (∃ checksum, decode text = .ok checksum) ∧
        (∀ byte ∈ text, Padded.isTrailingBlank byte = false) ↔
      text.length % 4 ≠ 1 ∧ ∀ byte ∈ text, Alphabet.urlSafe.IsSymbol byte := by
  simp only [decode_eq_ok_iff short]
  constructor
  · rintro ⟨⟨checksum, accepted⟩, clean⟩
    obtain ⟨possible, _, symbols⟩ := core_of_parse accepted
    rw [core_of_clean clean] at symbols
    exact ⟨possible, symbols⟩
  · rintro ⟨possible, symbols⟩
    obtain ⟨values, rfl⟩ := Alphabet.exists_map_symbol.mpr symbols
    rw [List.length_map] at possible
    refine ⟨⟨unpadded values, parse_symbols possible⟩, ?_⟩
    intro byte member
    obtain ⟨value, _, rfl⟩ := List.mem_map.mp member
    exact (symbol_not_blank value).2

/-- Six symbols are a text, since the last two leave a remainder of two. -/
theorem decode_iff_symbols_six :
    let text := ascii "-_AZ09"
    (padded text).length < 2 ^ 31 ∧ ∃ checksum, decode text = .ok checksum := by
  intro text
  have short : (padded text).length < 2 ^ 31 := by decide
  have symbols : ∀ byte ∈ text, Alphabet.urlSafe.IsSymbol byte :=
    Alphabet.exists_map_symbol.mp ⟨[62, 63, 0, 25, 52, 61], rfl⟩
  exact ⟨short, ((decode_iff_symbols short).mpr ⟨by decide, symbols⟩).1⟩

/-- Four spaces are the text of an empty checksum for the reader, although they are no symbols. -/
theorem decode_four_spaces :
    decode (ascii "    ") = .ok [] ∧
      ¬ ((∃ checksum, decode (ascii "    ") = .ok checksum) ↔
        (ascii "    ").length % 4 ≠ 1 ∧ ∀ byte ∈ ascii "    ", Alphabet.urlSafe.IsSymbol byte) := by
  have accepted : decode (ascii "    ") = .ok [] := (decode_eq_ok_iff (by decide)).mpr rfl
  refine ⟨accepted, fun same => ?_⟩
  have symbols := (same.mp ⟨[], accepted⟩).2
  exact absurd symbols (by decide)

end StorageBlock.Checksum
