/-
**Base64: bytes as groups of six bits.**

Three bytes are one group of twenty-four bits and four groups of six, written with an alphabet of
sixty-four symbols. Alphabets differ in the symbols of the last two values only.

* `sextets` cuts bytes into groups of six bits, the last filled up with zeros, and `octets` puts
  whole groups of four back together (`octets_quartet`);
* `Alphabet.sextet?_symbol`: the value of a symbol is the value it was written for;
* `encode` writes bytes without padding (`encode_length`: four symbols for three bytes, rounded up).
-/

import StorageBlock.Bytes

namespace StorageBlock.Base64

/-- A group of six bits. -/
abbrev Sextet := Fin 64

/-- The last six bits of a number. -/
def Sextet.ofNat (value : Nat) : Sextet := Fin.ofNat 64 value

@[simp] theorem Sextet.val_ofNat (value : Nat) : (Sextet.ofNat value).val = value % 64 := rfl

/-! ### Alphabets -/

/-- The symbols of the values 62 and 63; the others are letters and digits. -/
structure Alphabet where
  sixtyTwo : UInt8
  sixtyThree : UInt8

namespace Alphabet

/-- The alphabet with a plus sign and a slash. -/
def standard : Alphabet := ⟨43, 47⟩

/-- The alphabet with a hyphen and an underscore, for file names and addresses. -/
def urlSafe : Alphabet := ⟨45, 95⟩

/-- The symbol of a value: `A` to `Z`, `a` to `z`, `0` to `9`, then the two special ones. -/
def symbol (alphabet : Alphabet) (sextet : Sextet) : UInt8 :=
  if sextet.val < 26 then UInt8.ofNat (65 + sextet.val)
  else if sextet.val < 52 then UInt8.ofNat (71 + sextet.val)
  else if sextet.val < 62 then UInt8.ofNat (sextet.val - 4)
  else if sextet.val = 62 then alphabet.sixtyTwo
  else alphabet.sixtyThree

/-- The value of a symbol, if the byte is one. -/
def sextet? (alphabet : Alphabet) (byte : UInt8) : Option Sextet :=
  if 65 ≤ byte ∧ byte ≤ 90 then some (Sextet.ofNat (byte.toNat - 65))
  else if 97 ≤ byte ∧ byte ≤ 122 then some (Sextet.ofNat (byte.toNat - 71))
  else if 48 ≤ byte ∧ byte ≤ 57 then some (Sextet.ofNat (byte.toNat + 4))
  else if byte = alphabet.sixtyTwo then some 62
  else if byte = alphabet.sixtyThree then some 63
  else none

end Alphabet

/-! ### Groups -/

/-- Three bytes as one number of twenty-four bits. -/
def group (first second third : UInt8) : Nat :=
  first.toNat * 65536 + second.toNat * 256 + third.toNat

/-- The four groups of six bits in twenty-four bits. -/
def quartet (bits : Nat) : List Sextet :=
  [Sextet.ofNat (bits / 262144), Sextet.ofNat (bits / 4096), Sextet.ofNat (bits / 64),
    Sextet.ofNat bits]

/-- Bytes as groups of six bits; missing bits of the last group are zero. -/
def sextets : Bytes → List Sextet
  | first :: second :: third :: rest => quartet (group first second third) ++ sextets rest
  | [first, second] => (quartet (group first second 0)).take 3
  | [first] => (quartet (group first 0 0)).take 2
  | [] => []

/-- The bytes in groups of six bits, four groups to three bytes. -/
def octets : List Sextet → Bytes
  | first :: second :: third :: fourth :: rest =>
    let bits := first.val * 262144 + second.val * 4096 + third.val * 64 + fourth.val
    UInt8.ofNat (bits / 65536) :: UInt8.ofNat (bits / 256) :: UInt8.ofNat bits :: octets rest
  | _ => []

/-- The text of a byte string, without padding. -/
def encode (alphabet : Alphabet) (bytes : Bytes) : Bytes := (sextets bytes).map alphabet.symbol

/-! ### Laws -/

/-- **Four groups of six bits give their three bytes back.** -/
theorem octets_quartet (first second third : UInt8) (rest : List Sextet) :
    octets (quartet (group first second third) ++ rest) =
      first :: second :: third :: octets rest := by
  have := first.toNat_lt
  have := second.toNat_lt
  have := third.toNat_lt
  simp only [quartet, List.cons_append, List.nil_append, octets, List.cons.injEq, and_true,
    Sextet.val_ofNat, ← UInt8.toNat_inj, UInt8.toNat_ofNat', group]
  omega

theorem octets_length (values : List Sextet) :
    (octets values).length = 3 * (values.length / 4) := by
  fun_induction octets values with
  | case1 first second third fourth rest _ hypothesis =>
    simp only [List.length_cons, hypothesis]
    omega
  | case2 values short =>
    match values, short with
    | [], _ | [_], _ | [_, _], _ | [_, _, _], _ => simp
    | first :: second :: third :: fourth :: rest, short => exact absurd rfl (short _ _ _ _ _)

theorem sextets_length (bytes : Bytes) : (sextets bytes).length = (4 * bytes.length + 2) / 3 := by
  fun_induction sextets bytes with
  | case1 first second third rest hypothesis =>
    simp only [quartet, List.length_append, hypothesis, List.length_cons, List.length_nil]
    omega
  | case2 => simp [quartet]
  | case3 => simp [quartet]
  | case4 => rfl

theorem encode_length (alphabet : Alphabet) (bytes : Bytes) :
    (encode alphabet bytes).length = (4 * bytes.length + 2) / 3 := by
  rw [encode, List.length_map, sextets_length]

namespace Alphabet

theorem sextet?_symbol (sextet : Sextet) : standard.sextet? (standard.symbol sextet) = some sextet ∧
    urlSafe.sextet? (urlSafe.symbol sextet) = some sextet := by
  revert sextet
  decide

end Alphabet

end StorageBlock.Base64
