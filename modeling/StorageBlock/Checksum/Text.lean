/-
**Checksums as text.**

A checksum is written in Base64 with the alphabet for file names and without padding, so that the
text can stand in a file name or in a log line.

* `Checksum.encode` writes the text;
* `Checksum.decode` reads it, and `Checksum.FormatError` tells why a text cannot be read.

The writer of padded Base64 writes the symbols, and its signs are taken away; the reader completes
the text with signs and hands it to the lenient reader of padded Base64, which also accepts some
texts with blanks around the symbols. Both are told lengths in signed words of thirty-two bits, and
what they report is made a size without a question.
-/

import StorageBlock.Base64.Padded

namespace StorageBlock.Checksum

open Base64

/-- What stands in a text for a checksum that is absent. -/
def absentText : Bytes := ascii "nochecksum"

/-- Why a text is not the text of a checksum. -/
inductive FormatError where
  /-- No byte string has a text of this length. -/
  | length (text : Bytes)
  /-- The text holds a symbol of the standard alphabet, or padding, that is not written here. -/
  | character (text : Bytes)
  /-- The text cannot be read as groups of symbols. -/
  | encoding (text : Bytes)

/-- The wording of an error; a message ends at its first zero byte. -/
def FormatError.message : FormatError → Bytes
  | length text => ascii "Invalid checksum length: " ++ text.untilZero
  | character text => ascii "Invalid checksum character in: " ++ text.untilZero
  | encoding text => ascii "Invalid checksum encoding: " ++ text.untilZero

/-- The symbol for file names in place of the standard symbol. -/
def fromStandard (byte : UInt8) : UInt8 :=
  if byte = Alphabet.standard.sixtyTwo then Alphabet.urlSafe.sixtyTwo
  else if byte = Alphabet.standard.sixtyThree then Alphabet.urlSafe.sixtyThree
  else byte

/-- The text of a checksum: the padded text in the other alphabet and without its signs. -/
def encode (checksum : Bytes) : Except SizeError Bytes :=
  if checksum = [] then .ok []
  else
    let (padded, written) := Padded.encodeFirst (Bytes.lengthWord checksum) checksum
    (Bytes.resize padded (Bytes.sizeOfWord written)).map fun padded =>
      (Padded.unpad padded).map fromStandard

/-- The text of a checksum, or the word for an absent one. -/
def text : Option Bytes → Except SizeError Bytes
  | some checksum => encode checksum
  | none => .ok absentText

/-- The bytes of padded Base64 that are never part of a checksum's text. -/
def isForeign (byte : UInt8) : Bool :=
  byte == Alphabet.standard.sixtyTwo || byte == Alphabet.standard.sixtyThree || byte == Padded.sign

/-- The standard symbol in place of the symbol for file names. -/
def toStandard (byte : UInt8) : UInt8 :=
  if byte = Alphabet.urlSafe.sixtyTwo then Alphabet.standard.sixtyTwo
  else if byte = Alphabet.urlSafe.sixtyThree then Alphabet.standard.sixtyThree
  else byte

/-- The number of padding signs that complete a text of the given length. -/
def padding (length : Nat) : Nat := (4 - length % 4) % 4

/-- The padded form of a checksum's text. -/
def padded (text : Bytes) : Bytes :=
  text.map toStandard ++ List.replicate (padding text.length) Padded.sign

/-- A reported length without the signs that were added, in unsigned words. -/
def remaining (reported : Int32) (added : Nat) : UInt64 :=
  Bytes.sizeOfWord reported - UInt64.ofNat added

/-- The checksum that a text stands for. -/
def decode (text : Bytes) : Except (Failure FormatError) Bytes :=
  if text = [] then .ok []
  else if text.length % 4 = 1 then .error (.cause (.length text))
  else if text.any isForeign then .error (.cause (.character text))
  else
    let (bytes, reported) := Padded.decodeFirst (Bytes.lengthWord (padded text)) (padded text)
    if reported < 0 then .error (.cause (.encoding text))
    else (Bytes.resize bytes (remaining reported (padding text.length))).mapError .size

end StorageBlock.Checksum
