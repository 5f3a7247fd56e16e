/-
**Base64 without padding.**

Groups of six bits that do not fill a last group of four are completed with zeros, turned into
bytes, and cut to the bytes that they determine.

* `unpadded_sextets`: bytes survive being cut into groups of six bits and put back together;
* `Padded.decode_symbols`: the lenient reader of padded Base64 gives, for symbols and the padding
  that completes them, the bytes of the completed groups.
-/

import StorageBlock.Checksum.Text

namespace StorageBlock.Base64

open Checksum (padding)

/-! ### Completing groups of four -/

/-- Groups of six bits, completed with zeros. -/
def complete (values : List Sextet) : List Sextet :=
  values ++ List.replicate (padding values.length) (Sextet.ofNat 0)

/-- The bytes that groups of six bits determine. -/
def unpadded (values : List Sextet) : Bytes :=
  (octets (complete values)).take (3 * values.length / 4)

/-- Whole groups of four in front do not change what is lacking. -/
theorem padding_append {front : List Sextet} (whole : front.length % 4 = 0)
    (values : List Sextet) : padding (front ++ values).length = padding values.length := by
  unfold padding
  rw [List.length_append]
  omega

theorem complete_append {front : List Sextet} (whole : front.length % 4 = 0)
    (values : List Sextet) : complete (front ++ values) = front ++ complete values := by
  unfold complete
  rw [padding_append whole, List.append_assoc]

theorem Sextet.ofNat_of_low {value : Nat} (low : value % 64 = 0) :
    Sextet.ofNat value = Sextet.ofNat 0 := Fin.ext low

theorem quartet_length (bits : Nat) : (quartet bits).length = 4 := rfl

/-- **Completed groups give the bytes back**, and zeros for the groups that were added. -/
theorem octets_complete_sextets (bytes : Bytes) :
    octets (complete (sextets bytes)) =
      bytes ++ List.replicate (padding (sextets bytes).length) 0 := by
  fun_induction sextets bytes with
  | case1 first second third rest hypothesis =>
    have whole : (quartet (group first second third)).length % 4 = 0 := by rw [quartet_length]
    rw [complete_append whole, octets_quartet, hypothesis, padding_append whole]
    rfl
  | case2 first second =>
    -- The last six bits of two bytes and a zero are zero.
    have last : Sextet.ofNat (group first second 0) = Sextet.ofNat 0 := by
      refine Sextet.ofNat_of_low ?_
      show (first.toNat * 65536 + second.toNat * 256 + 0) % 64 = 0
      omega
    have whole : complete ((quartet (group first second 0)).take 3) =
        quartet (group first second 0) ++ [] := by
      show [_, _, _, Sextet.ofNat 0] = [_, _, _, Sextet.ofNat (group first second 0)]
      rw [last]
    rw [whole, octets_quartet]
    rfl
  | case3 first =>
    -- The last twelve bits of one byte and two zeros are zero.
    have third : Sextet.ofNat (group first 0 0 / 64) = Sextet.ofNat 0 := by
      refine Sextet.ofNat_of_low ?_
      show (first.toNat * 65536 + 0 * 256 + 0) / 64 % 64 = 0
      omega
    have fourth : Sextet.ofNat (group first 0 0) = Sextet.ofNat 0 := by
      refine Sextet.ofNat_of_low ?_
      show (first.toNat * 65536 + 0 * 256 + 0) % 64 = 0
      omega
    have whole : complete ((quartet (group first 0 0)).take 2) =
        quartet (group first 0 0) ++ [] := by
      show [_, _, Sextet.ofNat 0, Sextet.ofNat 0] =
        [_, _, Sextet.ofNat (group first 0 0 / 64), Sextet.ofNat (group first 0 0)]
      rw [third, fourth]
    rw [whole, octets_quartet]
    rfl
  | case4 => rfl

/-- **Bytes are what their groups of six bits determine.** -/
theorem unpadded_sextets (bytes : Bytes) : unpadded (sextets bytes) = bytes := by
  have size : bytes.length = 3 * (sextets bytes).length / 4 := by
    rw [sextets_length]
    omega
  unfold unpadded
  rw [octets_complete_sextets]
  exact List.take_left' size

/-! ### The lenient reader on symbols -/

namespace Padded

theorem sextet?_symbol (value : Sextet) :
    sextet? (Alphabet.standard.symbol value) = some value := by
  revert value
  decide

theorem symbol_not_blank (value : Sextet) :
    isLeadingBlank (Alphabet.standard.symbol value) = false ∧
      isTrailingBlank (Alphabet.standard.symbol value) = false := by
  revert value
  decide

theorem dropWhile_of_clean {isBlank : UInt8 → Bool} {text : Bytes}
    (clean : ∀ byte ∈ text, isBlank byte = false) : text.dropWhile isBlank = text := by
  cases text with
  | nil => rfl
  | cons byte text => rw [List.dropWhile_cons, clean byte List.mem_cons_self]; rfl

/-- A text without blanks is read as it stands. -/
theorem body_of_clean {text : Bytes} (leading : ∀ byte ∈ text, isLeadingBlank byte = false)
    (trailing : ∀ byte ∈ text, isTrailingBlank byte = false) : body text = text := by
  have behind : ((text.drop 3).reverse.dropWhile isTrailingBlank).reverse = text.drop 3 := by
    rw [dropWhile_of_clean, List.reverse_reverse]
    intro byte member
    exact trailing byte (List.mem_of_mem_drop (List.mem_reverse.mp member))
  rw [body, dropWhile_of_clean leading, trimEnd, behind, List.take_append_drop]

theorem mapM_sextet? (values : List Sextet) (count : Nat) :
    (values.map Alphabet.standard.symbol ++ List.replicate count sign).mapM sextet? =
      some (values ++ List.replicate count (Sextet.ofNat 0)) := by
  induction values with
  | nil =>
    induction count with
    | zero => rfl
    | succ count hypothesis =>
      rw [List.map_nil, List.nil_append] at hypothesis ⊢
      rw [List.replicate_succ, List.mapM_cons, hypothesis]
      rfl
  | cons value values hypothesis =>
    rw [List.map_cons, List.cons_append, List.mapM_cons, sextet?_symbol, hypothesis]
    rfl

/-- **Symbols with the padding that completes them** stand for the completed groups. -/
theorem decode_symbols (values : List Sextet) :
    decode (values.map Alphabet.standard.symbol ++
      List.replicate (padding values.length) sign) = some (octets (complete values)) := by
  have clean : ∀ byte ∈ values.map Alphabet.standard.symbol ++
      List.replicate (padding values.length) sign,
      isLeadingBlank byte = false ∧ isTrailingBlank byte = false := by
    intro byte member
    rcases List.mem_append.mp member with symbol | added
    · obtain ⟨value, _, rfl⟩ := List.mem_map.mp symbol
      exact symbol_not_blank value
    · rw [List.eq_of_mem_replicate added]
      decide
  have width : (values.map Alphabet.standard.symbol ++
      List.replicate (padding values.length) sign).length % 4 = 0 := by
    rw [List.length_append, List.length_map, List.length_replicate, padding]
    omega
  rw [decode, body_of_clean (fun byte member => (clean byte member).1)
    (fun byte member => (clean byte member).2), if_pos width, mapM_sextet?, complete]
  rfl

end Padded
end StorageBlock.Base64
