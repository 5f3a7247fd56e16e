/-
**The hash function SHA-256.**

The message is completed by a one bit, zeros and its length in bits to a multiple of sixty-four
bytes, and each piece of sixty-four bytes is compressed into a state of eight words in turn.

* `pad` completes a message (`pad_length`: always to whole pieces);
* `schedule` and `round` are the two parts of `compress`;
* `hash` gives the thirty-two bytes of the last state (`hash_length`).
-/

import StorageBlock.BigEndian

namespace StorageBlock.Sha256

/-- The number of bytes in a digest. -/
def digestLength : Nat := 32

/-- The number of bytes that are compressed at a time. -/
def pieceLength : Nat := 64

/-- The eight words that a message is compressed into. -/
structure State where
  a : UInt32
  b : UInt32
  c : UInt32
  d : UInt32
  e : UInt32
  f : UInt32
  g : UInt32
  h : UInt32

/-- The state before the first piece: the fractions of the square roots of eight primes. -/
def State.initial : State where
  a := 0x6a09e667
  b := 0xbb67ae85
  c := 0x3c6ef372
  d := 0xa54ff53a
  e := 0x510e527f
  f := 0x9b05688c
  g := 0x1f83d9ab
  h := 0x5be0cd19

/-- One word for each round: the fractions of the cube roots of sixty-four primes. -/
def roundConstants : List UInt32 := [
  0x428a2f98, 0x71374491, 0xb5c0fbcf, 0xe9b5dba5, 0x3956c25b, 0x59f111f1, 0x923f82a4, 0xab1c5ed5,
  0xd807aa98, 0x12835b01, 0x243185be, 0x550c7dc3, 0x72be5d74, 0x80deb1fe, 0x9bdc06a7, 0xc19bf174,
  0xe49b69c1, 0xefbe4786, 0x0fc19dc6, 0x240ca1cc, 0x2de92c6f, 0x4a7484aa, 0x5cb0a9dc, 0x76f988da,
  0x983e5152, 0xa831c66d, 0xb00327c8, 0xbf597fc7, 0xc6e00bf3, 0xd5a79147, 0x06ca6351, 0x14292967,
  0x27b70a85, 0x2e1b2138, 0x4d2c6dfc, 0x53380d13, 0x650a7354, 0x766a0abb, 0x81c2c92e, 0x92722c85,
  0xa2bfe8a1, 0xa81a664b, 0xc24b8b70, 0xc76c51a3, 0xd192e819, 0xd6990624, 0xf40e3585, 0x106aa070,
  0x19a4c116, 0x1e376c08, 0x2748774c, 0x34b0bcb5, 0x391c0cb3, 0x4ed8aa4a, 0x5b9cca4f, 0x682e6ff3,
  0x748f82ee, 0x78a5636f, 0x84c87814, 0x8cc70208, 0x90befffa, 0xa4506ceb, 0xbef9a3f7, 0xc67178f2]

/-! ### Functions on words -/

/-- A word rotated to the right. -/
def rotateRight (word amount : UInt32) : UInt32 := word >>> amount ||| word <<< (32 - amount)

/-- Each bit of `word` chooses between the bits of `first` and `second`. -/
def choose (word first second : UInt32) : UInt32 := (word &&& first) ^^^ (~~~word &&& second)

/-- The bit that at least two of three words have. -/
def majority (first second third : UInt32) : UInt32 :=
  (first &&& second) ^^^ (first &&& third) ^^^ (second &&& third)

/-- The mixing of the first state word in a round. -/
def mixFirst (word : UInt32) : UInt32 :=
  rotateRight word 2 ^^^ rotateRight word 13 ^^^ rotateRight word 22

/-- The mixing of the fifth state word in a round. -/
def mixFifth (word : UInt32) : UInt32 :=
  rotateRight word 6 ^^^ rotateRight word 11 ^^^ rotateRight word 25

/-- The mixing of the schedule word fifteen places back. -/
def mixEarly (word : UInt32) : UInt32 := rotateRight word 7 ^^^ rotateRight word 18 ^^^ word >>> 3

/-- The mixing of the schedule word two places back. -/
def mixLate (word : UInt32) : UInt32 := rotateRight word 17 ^^^ rotateRight word 19 ^^^ word >>> 10

/-! ### Compression -/

/-- Bytes as words, four bytes each. -/
def words : Bytes → List UInt32
  | first :: second :: third :: fourth :: rest =>
    UInt32.ofNat (BigEndian.decode [first, second, third, fourth]) :: words rest
  | _ => []

/-- The schedule with one more word, made from four earlier ones. -/
def extend (schedule : Array UInt32) (index : Nat) : Array UInt32 :=
  schedule.push (mixLate (schedule.getD (index + 14) 0) + schedule.getD (index + 9) 0 +
    mixEarly (schedule.getD (index + 1) 0) + schedule.getD index 0)

/-- The words of a piece, extended to one word for each round. -/
def schedule (piece : Bytes) : Array UInt32 := (List.range 48).foldl extend (words piece).toArray

/-- One round, with its constant and its word of the schedule. -/
def round (state : State) (given : UInt32 × UInt32) : State :=
  let first := state.h + mixFifth state.e + choose state.e state.f state.g + given.1 + given.2
  let second := mixFirst state.a + majority state.a state.b state.c
  ⟨first + second, state.a, state.b, state.c, state.d + first, state.e, state.f, state.g⟩

/-- The sum of two states, word by word. -/
def State.add (first second : State) : State :=
  ⟨first.a + second.a, first.b + second.b, first.c + second.c, first.d + second.d,
    first.e + second.e, first.f + second.f, first.g + second.g, first.h + second.h⟩

/-- The state after one more piece of a message. -/
def compress (state : State) (piece : Bytes) : State :=
  state.add ((roundConstants.zip (schedule piece).toList).foldl round state)

/-- The state after all whole pieces of a message. -/
def compressAll (state : State) (message : Bytes) : State :=
  (Bytes.chunks pieceLength (by decide) message).foldl compress state

/-! ### Messages -/

/-- What completes a message of a given length: a one bit, zeros, and the length in bits. -/
def ending (length : Nat) : Bytes :=
  0x80 :: List.replicate ((119 - length % 64) % 64) 0 ++ BigEndian.encode 8 (8 * length)

/-- A message, completed to whole pieces. -/
def pad (message : Bytes) : Bytes := message ++ ending message.length

/-- The bytes of a state. -/
def State.digest (state : State) : Bytes :=
  [state.a, state.b, state.c, state.d, state.e, state.f, state.g, state.h].flatMap
    fun word => BigEndian.encode 4 word.toNat

/-- **The digest of a message.** -/
def hash (message : Bytes) : Bytes := (compressAll .initial (pad message)).digest

theorem pad_length (message : Bytes) : (pad message).length % 64 = 0 := by
  simp only [pad, ending, List.length_append, List.length_cons, List.length_replicate,
    BigEndian.encode_length]
  omega

theorem State.digest_length (state : State) : state.digest.length = digestLength := by
  simp [State.digest, digestLength]

theorem hash_length (message : Bytes) : (hash message).length = digestLength :=
  State.digest_length _

end StorageBlock.Sha256
