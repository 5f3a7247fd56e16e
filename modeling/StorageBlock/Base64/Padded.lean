/-
**Padded Base64.**

The padded text is written in the standard alphabet, four symbols for each three bytes; a last group
of one or two bytes is filled up with padding signs.

The text is read leniently, in groups of four symbols. Blanks around the symbols are tolerated, and
the padding sign is one more symbol of value zero, wherever it stands: the reader gives three bytes
for every four symbols, so whoever appended padding has to drop as many bytes.

* `encode` writes the text, and `unpad` takes the signs at its end away;
* `body` is a text without the blanks around it; behind the symbols they are dropped only while more
  than three bytes remain;
* `decode` reads the body (`decode_length`: three bytes for four symbols);
* `encodeFirst`, `decodeFirst`: the same for as many bytes as a signed word says, with a signed word
  that reports the length of the result.
-/

import StorageBlock.Base64.Basic
import StorageBlock.Memory

namespace StorageBlock.Base64.Padded

/-- The padding sign. -/
def sign : UInt8 := 61

/-! ### Writing -/

/-- The padded text of a byte string. -/
def encode : Bytes → Bytes
  | first :: second :: third :: rest =>
    (quartet (group first second third)).map Alphabet.standard.symbol ++ encode rest
  | [first, second] =>
    ((quartet (group first second 0)).take 3).map Alphabet.standard.symbol ++ [sign]
  | [first] => ((quartet (group first 0 0)).take 2).map Alphabet.standard.symbol ++ [sign, sign]
  | [] => []

/-- A text without the signs at its end. -/
def unpad (text : Bytes) : Bytes := (text.reverse.dropWhile (· == sign)).reverse

/-- The padded text of the first bytes, as many as a word says, and a word for its length. -/
def encodeFirst (count : Int32) (bytes : Bytes) : Bytes × Int32 :=
  let text := encode (bytes.take count.toNatClampNeg)
  (text, Bytes.lengthWord text)

theorem encode_length (bytes : Bytes) : (encode bytes).length = 4 * ((bytes.length + 2) / 3) := by
  fun_induction encode bytes with
  | case1 first second third rest hypothesis =>
    simp only [quartet, List.map_cons, List.map_nil, List.length_append, List.length_cons,
      List.length_nil, hypothesis]
    omega
  | case2 first second => simp [quartet]
  | case3 first => simp [quartet]
  | case4 => rfl

/-! ### Reading -/

/-- The blanks that may stand before the first symbol: space and tab. -/
def isLeadingBlank (byte : UInt8) : Bool := byte == 32 || byte == 9

/-- The blanks that may stand behind the last symbol: space, tab, line feed, carriage return. -/
def isTrailingBlank (byte : UInt8) : Bool := byte == 32 || byte == 9 || byte == 10 || byte == 13

/-- A text without the blanks at its end, except for those among its first three bytes. -/
def trimEnd (text : Bytes) : Bytes :=
  text.take 3 ++ ((text.drop 3).reverse.dropWhile isTrailingBlank).reverse

/-- A text without the blanks around it. -/
def body (text : Bytes) : Bytes := trimEnd (text.dropWhile isLeadingBlank)

/-- The value of a symbol, or of the padding sign. -/
def sextet? (byte : UInt8) : Option Sextet :=
  if byte = sign then some (Sextet.ofNat 0) else Alphabet.standard.sextet? byte

/-- The bytes that a text stands for, three for every four symbols. -/
def decode (text : Bytes) : Option Bytes :=
  if (body text).length % 4 = 0 then ((body text).mapM sextet?).map octets else none

/-- What the first bytes of a text stand for, as many as a word says, and a word for its length; the
word is minus one if they cannot be read. -/
def decodeFirst (count : Int32) (text : Bytes) : Bytes × Int32 :=
  match decode (text.take count.toNatClampNeg) with
  | some bytes => (bytes, Bytes.lengthWord bytes)
  | none => ([], -1)

/-- A text is read byte by byte. -/
theorem mapM_cons_eq_some {byte : UInt8} {text : Bytes} {values : List Sextet} :
    (byte :: text).mapM sextet? = some values ↔
      ∃ value rest, sextet? byte = some value ∧ text.mapM sextet? = some rest ∧
        value :: rest = values := by
  simp [List.mapM_cons, Option.bind_eq_some_iff]

theorem length_of_mapM {text : Bytes} {values : List Sextet}
    (read : text.mapM sextet? = some values) : values.length = text.length := by
  induction text generalizing values with
  | nil =>
    obtain rfl : [] = values := Option.some.inj read
    rfl
  | cons byte text hypothesis =>
    obtain ⟨value, rest, _, others, rfl⟩ := mapM_cons_eq_some.mp read
    rw [List.length_cons, List.length_cons, hypothesis others]

/-- **Three bytes for four symbols**, and the symbols are whole groups of four. -/
theorem decode_length {text bytes : Bytes} (read : decode text = some bytes) :
    (body text).length % 4 = 0 ∧ bytes.length = 3 * ((body text).length / 4) := by
  unfold decode at read
  split at read
  next whole =>
    obtain ⟨values, each, rfl⟩ := Option.map_eq_some_iff.mp read
    rw [octets_length, length_of_mapM each]
    exact ⟨whole, rfl⟩
  next => cases read

end StorageBlock.Base64.Padded
