/-
**The symbols of an alphabet.**

* `Alphabet.IsSymbol` lists the bytes that are symbols: letters, digits and two more;
* `Alphabet.exists_sextet?`: they are the bytes that have a value;
* `Alphabet.isSymbol_iff`, `Alphabet.exists_map_symbol`: in the alphabet for file names, they are
  the bytes that values are written with, and a text of them is the text of some values.
-/

import StorageBlock.Base64.Basic

namespace StorageBlock.Base64.Alphabet

/-- The bytes that are symbols: `A` to `Z`, `a` to `z`, `0` to `9` and the two special ones. -/
def IsSymbol (alphabet : Alphabet) (byte : UInt8) : Prop :=
  (65 ≤ byte ∧ byte ≤ 90) ∨ (97 ≤ byte ∧ byte ≤ 122) ∨ (48 ≤ byte ∧ byte ≤ 57) ∨
    byte = alphabet.sixtyTwo ∨ byte = alphabet.sixtyThree

instance (alphabet : Alphabet) (byte : UInt8) : Decidable (alphabet.IsSymbol byte) :=
  inferInstanceAs (Decidable (_ ∨ _))

theorem exists_sextet? {alphabet : Alphabet} {byte : UInt8} :
    (∃ value, alphabet.sextet? byte = some value) ↔ alphabet.IsSymbol byte := by
  unfold sextet? IsSymbol
  split
  · next upper => exact iff_of_true ⟨_, rfl⟩ (.inl upper)
  next notUpper =>
  split
  · next lower => exact iff_of_true ⟨_, rfl⟩ (.inr (.inl lower))
  next notLower =>
  split
  · next digit => exact iff_of_true ⟨_, rfl⟩ (.inr (.inr (.inl digit)))
  next notDigit =>
  split
  · next two => exact iff_of_true ⟨_, rfl⟩ (.inr (.inr (.inr (.inl two))))
  next notTwo =>
  split
  · next three => exact iff_of_true ⟨_, rfl⟩ (.inr (.inr (.inr (.inr three))))
  next notThree =>
  refine iff_of_false ?_ ?_
  · rintro ⟨value, found⟩
    cases found
  · rintro (upper | lower | digit | two | three)
    · exact notUpper upper
    · exact notLower lower
    · exact notDigit digit
    · exact notTwo two
    · exact notThree three

/-- A byte with a value is the symbol of its value. -/
theorem symbol_of_sextet? {alphabet : Alphabet} {byte : UInt8} {value : Sextet}
    (found : alphabet.sextet? byte = some value) : alphabet.symbol value = byte := by
  unfold sextet? at found
  simp only [UInt8.le_iff_toNat_le, UInt8.reduceToNat] at found
  split at found
  · next upper =>
    obtain rfl := Option.some.inj found
    rw [symbol, Sextet.val_ofNat, if_pos (by omega), ← UInt8.toNat_inj, UInt8.toNat_ofNat']
    omega
  split at found
  · next lower =>
    obtain rfl := Option.some.inj found
    rw [symbol, Sextet.val_ofNat, if_neg (by omega), if_pos (by omega), ← UInt8.toNat_inj,
      UInt8.toNat_ofNat']
    omega
  split at found
  · next digit =>
    obtain rfl := Option.some.inj found
    rw [symbol, Sextet.val_ofNat, if_neg (by omega), if_neg (by omega), if_pos (by omega),
      ← UInt8.toNat_inj, UInt8.toNat_ofNat']
    omega
  split at found
  · next two =>
    obtain rfl := Option.some.inj found
    exact two.symm
  split at found
  · next three =>
    obtain rfl := Option.some.inj found
    exact three.symm
  · cases found

/-- **The symbols of the alphabet for file names are those that its values are written with.** -/
theorem isSymbol_iff {byte : UInt8} :
    urlSafe.IsSymbol byte ↔ ∃ value, urlSafe.symbol value = byte := by
  rw [← exists_sextet?]
  constructor
  · rintro ⟨value, found⟩
    exact ⟨value, symbol_of_sextet? found⟩
  · rintro ⟨value, rfl⟩
    exact ⟨value, (sextet?_symbol value).2⟩

theorem symbol_injective {first second : Sextet}
    (same : urlSafe.symbol first = urlSafe.symbol second) : first = second := by
  have value := (sextet?_symbol first).2
  rw [same, (sextet?_symbol second).2] at value
  exact (Option.some.inj value).symm

/-- A text of symbols is the text of some values. -/
theorem exists_map_symbol {text : Bytes} :
    (∃ values : List Sextet, text = values.map urlSafe.symbol) ↔
      ∀ byte ∈ text, urlSafe.IsSymbol byte := by
  constructor
  · rintro ⟨values, rfl⟩ byte member
    obtain ⟨value, _, rfl⟩ := List.mem_map.mp member
    exact isSymbol_iff.mpr ⟨value, rfl⟩
  · intro symbols
    induction text with
    | nil => exact ⟨[], rfl⟩
    | cons byte text hypothesis =>
      rw [List.forall_mem_cons] at symbols
      obtain ⟨value, rfl⟩ := isSymbol_iff.mp symbols.1
      obtain ⟨values, rfl⟩ := hypothesis symbols.2
      exact ⟨value :: values, rfl⟩

/-- The values of symbols are read off one by one. -/
theorem mapM_sextet?_symbols (values : List Sextet) :
    (values.map urlSafe.symbol).mapM urlSafe.sextet? = some values := by
  induction values with
  | nil => rfl
  | cons value values hypothesis =>
    rw [List.map_cons, List.mapM_cons, (sextet?_symbol value).2, hypothesis]
    rfl

end StorageBlock.Base64.Alphabet
