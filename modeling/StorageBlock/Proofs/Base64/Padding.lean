/-
**Writing padded Base64.**

* `Padded.encode_eq`: the padded text is the text of the groups of six bits, completed with as many
  signs as are lacking to whole groups of four;
* `Padded.unpad_encode`: dropping the signs at the end leaves these symbols, because a sign is no
  symbol.
-/

import StorageBlock.Proofs.Base64.Blanks

namespace StorageBlock.Base64.Padded

open Checksum (padding)

/-- **The padded text consists of the symbols of the groups of six** and the padding they lack. -/
theorem encode_eq (bytes : Bytes) :
    encode bytes = (sextets bytes).map Alphabet.standard.symbol ++
      List.replicate (padding (sextets bytes).length) sign := by
  fun_induction encode bytes with
  | case1 first second third rest hypothesis =>
    have whole : (quartet (group first second third)).length % 4 = 0 := by rw [quartet_length]
    rw [sextets, padding_append whole, List.map_append, List.append_assoc, hypothesis]
  | case2 first second => rfl
  | case3 first => rfl
  | case4 => rfl

theorem symbol_ne_sign (value : Sextet) : (Alphabet.standard.symbol value == sign) = false := by
  revert value
  decide

theorem unpad_eq_rdropWhile (text : Bytes) : unpad text = text.rdropWhile (· == sign) := rfl

/-- **Without its padding, the text consists of the symbols of the groups of six.** -/
theorem unpad_encode (bytes : Bytes) :
    unpad (encode bytes) = (sextets bytes).map Alphabet.standard.symbol := by
  have signs : ∀ byte ∈ List.replicate (padding (sextets bytes).length) sign,
      (byte == sign) = true := by
    intro byte member
    rw [List.eq_of_mem_replicate member, beq_self_eq_true]
  rw [unpad_eq_rdropWhile, encode_eq, rdropWhile_append_of_all signs]
  refine rdropWhile_of_clean fun byte member => ?_
  obtain ⟨value, _, rfl⟩ := List.mem_map.mp member
  exact symbol_ne_sign value

end StorageBlock.Base64.Padded
