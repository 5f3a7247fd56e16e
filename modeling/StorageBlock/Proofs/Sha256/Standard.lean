/-
**SHA-256 as its standard defines it.**

The standard speaks of messages as rows of bits and of words as bit vectors, gives the words of the
schedule by a recurrence, and derives its constants from the first primes. It is written down here
in these terms, and the hash function of the library, which works on bytes, agrees with it.

* `Standard.digest`: the definition of the standard;
* `roundConstants_eq_range`: the constants are the fractions of roots of primes;
* `byteBits_pad`: the padding, at every length;
* `toBitVec_schedule`: the schedule of a piece follows the recurrence;
* `toWords_compress`: one piece is compressed as one block;
* `byteBits_hash`: the bits of the digest of any message.
-/

import Mathlib.Data.List.Induction
import Mathlib.Data.Nat.Find
import Mathlib.Data.Nat.NthRoot.Defs
import Mathlib.Data.Nat.Prime.Basic
import Mathlib.Tactic.Ring
import StorageBlock.Proofs.Base64.Bits
import StorageBlock.Sha256.Basic

namespace StorageBlock.Sha256

open Base64 (bits byteBits spell)

namespace Standard

/-! ### Functions and constants -/

/-- Each bit of the first word chooses between the bits of the others. -/
def choice (x y z : BitVec 32) : BitVec 32 := (x &&& y) ^^^ (~~~x &&& z)

/-- The bit that most of the words have. -/
def most (x y z : BitVec 32) : BitVec 32 := (x &&& y) ^^^ (x &&& z) ^^^ (y &&& z)

/-- The exclusive or of a word rotated to the right by three amounts. -/
def rotations (first second third : Nat) (x : BitVec 32) : BitVec 32 :=
  x.rotateRight first ^^^ x.rotateRight second ^^^ x.rotateRight third

/-- The exclusive or of a word rotated to the right by two amounts and shifted by a third. -/
def rotationsShift (first second third : Nat) (x : BitVec 32) : BitVec 32 :=
  x.rotateRight first ^^^ x.rotateRight second ^^^ x >>> third

/-- The first sixty-four primes. -/
def primes : List Nat := (List.range 312).filter fun number => decide number.Prime

/-- The first thirty-two bits of the fraction of a root. -/
def fraction (degree prime : Nat) : BitVec 32 :=
  BitVec.ofNat 32 (Nat.nthRoot degree (prime * 2 ^ (32 * degree)))

/-- The constant of a round: the fraction of the cube root of a prime. -/
def constant (t : Nat) : BitVec 32 := fraction 3 (primes.getD t 0)

/-! ### Messages -/

theorem exists_zeros (length : Nat) : ∃ zeros, (length + 1 + zeros) % 512 = 448 :=
  ⟨(959 - length % 512) % 512, by omega⟩

/-- The number of zeros in the padding is the least that leaves space for the length in the last
block. -/
def zeros (length : Nat) : Nat := Nat.find (exists_zeros length)

/-- A message with its padding: a one, zeros, and the length of the message in sixty-four bits. -/
def padded (message : List Bool) : List Bool :=
  message ++ true :: List.replicate (zeros message.length) false ++ bits 64 message.length

/-- A block of a message. -/
def block (message : List Bool) (i : Nat) : List Bool := (message.drop (512 * i)).take 512

/-- The number that bits spell, most significant first. -/
def number (row : List Bool) : Nat := row.foldl (fun total bit => 2 * total + bit.toNat) 0

/-- A word of a block. -/
def word (block : List Bool) (t : Nat) : BitVec 32 :=
  BitVec.ofNat 32 (number ((block.drop (32 * t)).take 32))

/-- A word of the schedule. -/
def scheduled (block : List Bool) (t : Nat) : BitVec 32 :=
  if t < 16 then word block t
  else rotationsShift 17 19 10 (scheduled block (t - 2)) + scheduled block (t - 7) +
    rotationsShift 7 18 3 (scheduled block (t - 15)) + scheduled block (t - 16)

/-! ### Computation -/

/-- Eight words. -/
structure Words where
  a : BitVec 32
  b : BitVec 32
  c : BitVec 32
  d : BitVec 32
  e : BitVec 32
  f : BitVec 32
  g : BitVec 32
  h : BitVec 32
deriving DecidableEq

/-- The sums of words. -/
def Words.add (first second : Words) : Words :=
  ⟨first.a + second.a, first.b + second.b, first.c + second.c, first.d + second.d,
    first.e + second.e, first.f + second.f, first.g + second.g, first.h + second.h⟩

/-- The words before the first block: the fractions of the square roots of eight primes. -/
def initial : Words :=
  ⟨fraction 2 2, fraction 2 3, fraction 2 5, fraction 2 7, fraction 2 11, fraction 2 13,
    fraction 2 17, fraction 2 19⟩

/-- A round, with its constant and its word of the schedule. -/
def round (words : Words) (given : BitVec 32 × BitVec 32) : Words :=
  let first := words.h + rotations 6 11 25 words.e + choice words.e words.f words.g + given.1 +
    given.2
  let second := rotations 2 13 22 words.a + most words.a words.b words.c
  ⟨first + second, words.a, words.b, words.c, words.d + first, words.e, words.f, words.g⟩

/-- The words after a block: those before it, and what sixty-four rounds make of them. -/
def compress (words : Words) (block : List Bool) : Words :=
  words.add ((List.range 64).foldl
    (fun words t => round words (constant t, scheduled block t)) words)

/-- The digest of a message: the words after its last block. -/
def digest (message : List Bool) : List Bool :=
  let whole := padded message
  let last := (List.range (whole.length / 512)).foldl
    (fun words i => compress words (block whole i)) initial
  [last.a, last.b, last.c, last.d, last.e, last.f, last.g, last.h].flatMap
    fun word => bits 32 word.toNat

end Standard

open Standard

/-! ### Functions -/

theorem toBitVec_rotateRight (word : UInt32) {amount : UInt32} (positive : 0 < amount.toNat)
    (small : amount.toNat < 32) :
    (rotateRight word amount).toBitVec = word.toBitVec.rotateRight amount.toNat := by
  have back : (4294967296 - amount.toNat) % 32 = 32 - amount.toNat := by omega
  simp [rotateRight, BitVec.rotateRight_def, Nat.mod_eq_of_lt small, back]

theorem toBitVec_mixFirst (word : UInt32) :
    (mixFirst word).toBitVec = rotations 2 13 22 word.toBitVec := by
  simp (disch := decide) only [mixFirst, UInt32.toBitVec_xor, toBitVec_rotateRight]
  rfl

theorem toBitVec_mixFifth (word : UInt32) :
    (mixFifth word).toBitVec = rotations 6 11 25 word.toBitVec := by
  simp (disch := decide) only [mixFifth, UInt32.toBitVec_xor, toBitVec_rotateRight]
  rfl

theorem toBitVec_mixEarly (word : UInt32) :
    (mixEarly word).toBitVec = rotationsShift 7 18 3 word.toBitVec := by
  simp (disch := decide) only [mixEarly, UInt32.toBitVec_xor, toBitVec_rotateRight]
  rfl

theorem toBitVec_mixLate (word : UInt32) :
    (mixLate word).toBitVec = rotationsShift 17 19 10 word.toBitVec := by
  simp (disch := decide) only [mixLate, UInt32.toBitVec_xor, toBitVec_rotateRight]
  rfl

theorem toBitVec_choose (word first second : UInt32) :
    (choose word first second).toBitVec =
      choice word.toBitVec first.toBitVec second.toBitVec := rfl

theorem toBitVec_majority (first second third : UInt32) :
    (majority first second third).toBitVec =
      most first.toBitVec second.toBitVec third.toBitVec := rfl

/-! ### Constants -/

/-- A number that no number between two and its root divides, where the root is below eighteen. -/
def undivided (number : Nat) : Bool :=
  decide (2 ≤ number) && (List.range 18).all fun divisor =>
    decide (divisor < 2) || decide (number < divisor * divisor) || decide (number % divisor ≠ 0)

theorem prime_eq_undivided {number : Nat} (small : number < 324) :
    decide number.Prime = undivided number := by
  have root : number.sqrt < 18 := Nat.sqrt_lt.mpr small
  rw [Bool.eq_iff_iff, decide_eq_true_eq, Nat.prime_def_le_sqrt, undivided, Bool.and_eq_true,
    decide_eq_true_eq, List.all_eq_true]
  refine and_congr_right fun _ => ?_
  simp only [List.mem_range, Bool.or_eq_true, decide_eq_true_eq]
  constructor
  · intro free divisor _
    by_cases inside : 2 ≤ divisor ∧ divisor ≤ number.sqrt
    · exact .inr fun divides => free divisor inside.1 inside.2 (Nat.dvd_of_mod_eq_zero divides)
    · left
      rw [Nat.le_sqrt] at inside
      omega
  · intro free divisor least most divides
    have product := Nat.le_sqrt.mp most
    rcases free divisor (Nat.lt_of_le_of_lt most root) with (below | above) | left
    · omega
    · omega
    · exact left (Nat.mod_eq_zero_of_dvd divides)

theorem primes_eq : primes = (List.range 312).filter undivided := by
  refine List.filter_congr fun number member => prime_eq_undivided ?_
  have below := List.mem_range.mp member
  omega

/-- The constants are the fractions of the cube roots of the first sixty-four primes. -/
theorem roundConstants_eq_fractions :
    roundConstants.map UInt32.toBitVec = primes.map (fraction 3) := by
  rw [primes_eq]
  decide +kernel

theorem eq_map_range (list : List Nat) :
    list = (List.range list.length).map fun place => list.getD place 0 := by
  refine List.ext_getElem (by simp) fun place inside _ => ?_
  simp [List.getElem?_eq_getElem inside]

/-- **The constants of the rounds**, one after the other. -/
theorem roundConstants_eq_range :
    roundConstants.map UInt32.toBitVec = (List.range 64).map constant := by
  have length : primes.length = 64 := by
    have lengths := congrArg List.length roundConstants_eq_fractions
    rw [List.length_map, List.length_map] at lengths
    exact lengths.symm
  have each := eq_map_range primes
  rw [length] at each
  rw [roundConstants_eq_fractions]
  refine (congrArg (List.map (fraction 3)) each).trans ?_
  rw [List.map_map]
  rfl

/-! ### Messages -/

theorem byteBits_encode (width value : Nat) :
    byteBits (BigEndian.encode width value) = bits (8 * width) value := by
  induction width generalizing value with
  | zero => rfl
  | succ width hypothesis =>
    have last : byteBits [UInt8.ofNat value] = bits 8 value := by
      show bits 8 (UInt8.ofNat value).toNat ++ [] = _
      rw [List.append_nil, UInt8.toNat_ofNat', Base64.bits_mod]
    rw [BigEndian.encode, Base64.byteBits_append, hypothesis, last, Nat.mul_succ, Base64.bits_add]
    rfl

/-- Behind whole bytes the zeros complete the byte of the one, and fill whole bytes after it. -/
theorem zeros_bytes (length : Nat) :
    zeros (8 * length) = 7 + 8 * ((119 - length % 64) % 64) := by
  refine (Nat.find_eq_iff _).mpr ⟨by omega, fun fewer below => by omega⟩

/-- **The padding**: behind the message stand a one, the least number of zeros, and the length. -/
theorem byteBits_pad (message : Bytes) : byteBits (pad message) = padded (byteBits message) := by
  have mark : byteBits [0x80] = true :: List.replicate 7 false := rfl
  have blank (count : Nat) :
      byteBits (List.replicate count 0) = List.replicate (8 * count) false := by
    rw [byteBits, List.map_replicate]
    exact Base64.spell_zeros 8 count
  rw [pad, ending, padded, Base64.byteBits_length, zeros_bytes, ← List.replicate_append_replicate,
    ← List.singleton_append, Base64.byteBits_append, Base64.byteBits_append, Base64.byteBits_append,
    mark, blank, byteBits_encode, List.append_assoc, List.append_assoc]
  rfl

theorem number_append_bits (row : List Bool) (width value : Nat) :
    number (row ++ bits width value) = number row * 2 ^ width + value % 2 ^ width := by
  induction width generalizing row with
  | zero => rw [bits, List.append_nil, Nat.pow_zero, Nat.mul_one, Nat.mod_one, Nat.add_zero]
  | succ width hypothesis =>
    have next (bit : Bool) : number (row ++ [bit]) = 2 * number row + bit.toNat := by
      rw [number, List.foldl_append]
      rfl
    have top : (value.testBit width).toNat = value / 2 ^ width % 2 := Nat.toNat_testBit _ _
    rw [bits, List.append_cons, hypothesis, next, top, Nat.mod_pow_succ]
    ring

theorem number_byteBits (bytes : Bytes) : number (byteBits bytes) = BigEndian.decode bytes := by
  induction bytes using List.reverseRecOn with
  | nil => rfl
  | append_singleton bytes byte hypothesis =>
    have last : byteBits [byte] = bits 8 byte.toNat := List.append_nil _
    rw [Base64.byteBits_append, last, number_append_bits, hypothesis,
      BigEndian.decode_append_singleton, Nat.mod_eq_of_lt byte.toNat_lt]
    ring

theorem byteBits_drop (bytes : Bytes) (count : Nat) :
    byteBits (bytes.drop count) = (byteBits bytes).drop (8 * count) := by
  have whole : (byteBits bytes).take (8 * count) ++ byteBits (bytes.drop count) =
      (byteBits bytes).take (8 * count) ++ (byteBits bytes).drop (8 * count) := by
    rw [← Base64.byteBits_take, ← Base64.byteBits_append, List.take_append_drop,
      Base64.byteBits_take, List.take_append_drop]
  exact List.append_cancel_left whole

theorem block_byteBits (bytes : Bytes) (i : Nat) :
    block (byteBits bytes) i = byteBits ((bytes.drop (64 * i)).take 64) := by
  rw [Base64.byteBits_take, byteBits_drop, block, ← Nat.mul_assoc]

theorem word_byteBits (bytes : Bytes) (t : Nat) :
    word (byteBits bytes) t =
      BitVec.ofNat 32 (BigEndian.decode ((bytes.drop (4 * t)).take 4)) := by
  rw [← number_byteBits, Base64.byteBits_take, byteBits_drop, word, ← Nat.mul_assoc]

/-! ### Schedule -/

theorem words_eq (count : Nat) {bytes : Bytes} (size : bytes.length = 4 * count) :
    words bytes = (List.range count).map fun t =>
      UInt32.ofNat (BigEndian.decode ((bytes.drop (4 * t)).take 4)) := by
  induction count generalizing bytes with
  | zero =>
    rw [List.eq_nil_of_length_eq_zero size]
    rfl
  | succ count hypothesis =>
    rcases bytes with _ | ⟨first, _ | ⟨second, _ | ⟨third, _ | ⟨fourth, rest⟩⟩⟩⟩
    iterate 4
      simp only [List.length_cons, List.length_nil] at size
      omega
    have shorter : rest.length = 4 * count := by
      simp only [List.length_cons] at size
      omega
    rw [words, hypothesis shorter, List.range_succ_eq_map, List.map_cons, List.map_map]
    rfl

theorem toBitVec_getD {schedule : Array UInt32} {count : Nat} {value : Nat → BitVec 32}
    (entries : schedule.toList.map UInt32.toBitVec = (List.range count).map value) {t : Nat}
    (inside : t < count) : (schedule.getD t 0).toBitVec = value t := by
  have size : t < schedule.size := by
    have lengths := congrArg List.length entries
    rw [List.length_map, Array.length_toList, List.length_map, List.length_range] at lengths
    omega
  have entry := congrArg (fun row => row[t]?) entries
  simp only [List.getElem?_map, Array.getElem?_toList, Array.getElem?_eq_getElem size,
    List.getElem?_range inside, Option.map_some, Option.some.injEq] at entry
  rw [← entry, Array.getD_eq_getD_getElem?, Array.getElem?_eq_getElem size, Option.getD_some]

theorem scheduled_of_later (block : List Bool) (t : Nat) :
    scheduled block (16 + t) = rotationsShift 17 19 10 (scheduled block (t + 14)) +
      scheduled block (t + 9) + rotationsShift 7 18 3 (scheduled block (t + 1)) +
      scheduled block t := by
  rw [scheduled, if_neg (by omega)]
  have second : 16 + t - 2 = t + 14 := by omega
  have seventh : 16 + t - 7 = t + 9 := by omega
  have fifteenth : 16 + t - 15 = t + 1 := by omega
  rw [second, seventh, fifteenth, Nat.add_sub_cancel_left]

/-- After some steps the schedule is as much longer, and all its words are those of the standard. -/
theorem foldl_extend {piece : Bytes} (size : piece.length = 64) (count : Nat) :
    ((List.range count).foldl extend (words piece).toArray).toList.map UInt32.toBitVec =
      (List.range (16 + count)).map (scheduled (byteBits piece)) := by
  induction count with
  | zero =>
    rw [List.range_zero, List.foldl_nil, words_eq 16 size, List.map_map]
    refine List.map_congr_left fun t member => ?_
    rw [scheduled, if_pos (List.mem_range.mp member), word_byteBits]
    rfl
  | succ count hypothesis =>
    -- The four words that a step takes are all among those that are there already.
    have entry (t : Nat) (inside : t < 16 + count) := toBitVec_getD hypothesis inside
    rw [List.range_succ, List.foldl_append, List.foldl_cons, List.foldl_nil, extend,
      Array.toList_push, List.map_append, hypothesis, ← Nat.add_assoc, List.range_succ,
      List.map_append, List.map_singleton, List.map_singleton, UInt32.toBitVec_add,
      UInt32.toBitVec_add, UInt32.toBitVec_add, toBitVec_mixLate, toBitVec_mixEarly,
      entry _ (by omega), entry _ (by omega), entry _ (by omega), entry _ (by omega),
      scheduled_of_later]

/-- **The schedule** of a piece has the words that the recurrence gives. -/
theorem toBitVec_schedule {piece : Bytes} (size : piece.length = 64) :
    (schedule piece).toList.map UInt32.toBitVec =
      (List.range 64).map (scheduled (byteBits piece)) :=
  foldl_extend size 48

/-! ### Computation -/

/-- The words of a state. -/
def State.toWords (state : State) : Words :=
  ⟨state.a.toBitVec, state.b.toBitVec, state.c.toBitVec, state.d.toBitVec, state.e.toBitVec,
    state.f.toBitVec, state.g.toBitVec, state.h.toBitVec⟩

theorem toWords_initial : State.initial.toWords = initial := by
  decide +kernel

theorem toWords_round (state : State) (given : UInt32 × UInt32) :
    (round state given).toWords =
      Standard.round state.toWords (given.map UInt32.toBitVec UInt32.toBitVec) := by
  simp only [round, State.toWords, Standard.round, UInt32.toBitVec_add, toBitVec_mixFirst,
    toBitVec_mixFifth, toBitVec_choose, toBitVec_majority, Prod.map]

theorem toWords_add (first second : State) :
    (first.add second).toWords = first.toWords.add second.toWords := rfl

/-- The rounds on a state are the rounds on its words. -/
theorem toWords_foldl_round (given : List (UInt32 × UInt32)) (state : State) :
    (given.foldl round state).toWords =
      (given.map (Prod.map UInt32.toBitVec UInt32.toBitVec)).foldl Standard.round
        state.toWords := by
  rw [List.foldl_map]
  exact (List.foldl_hom State.toWords fun state given => (toWords_round state given).symm).symm

/-- **One piece** is compressed as the standard compresses a block. -/
theorem toWords_compress {piece : Bytes} (size : piece.length = 64) (state : State) :
    (compress state piece).toWords = Standard.compress state.toWords (byteBits piece) := by
  rw [compress, toWords_add, toWords_foldl_round, ← List.zip_map, roundConstants_eq_range,
    toBitVec_schedule size, List.zip_map', List.foldl_map]
  rfl

/-! ### Pieces -/

theorem chunks_eq {size : Nat} (positive : 0 < size) (count : Nat) {bytes : Bytes}
    (whole : bytes.length = size * count) :
    Bytes.chunks size positive bytes =
      (List.range count).map fun i => (bytes.drop (size * i)).take size := by
  induction count generalizing bytes with
  | zero =>
    rw [List.eq_nil_of_length_eq_zero whole, Bytes.chunks_nil]
    rfl
  | succ count hypothesis =>
    have some : bytes ≠ [] := by
      rintro rfl
      exact absurd whole.symm (Nat.ne_of_gt (Nat.mul_pos positive (Nat.succ_pos count)))
    have rest : (bytes.drop size).length = size * count := by
      rw [List.length_drop, whole, Nat.mul_succ, Nat.add_sub_cancel]
    rw [Bytes.chunks_of_ne_nil positive some, hypothesis rest, List.range_succ_eq_map,
      List.map_cons, List.map_map, Nat.mul_zero, List.drop_zero]
    refine congrArg _ (List.map_congr_left fun i _ => ?_)
    rw [List.drop_drop, Function.comp_apply, Nat.mul_succ, Nat.add_comm]

/-- All pieces in turn are compressed as the standard compresses the blocks. -/
theorem toWords_foldl_compress {pieces : List Bytes}
    (sizes : ∀ piece ∈ pieces, piece.length = 64) (state : State) :
    (pieces.foldl compress state).toWords =
      (pieces.map byteBits).foldl Standard.compress state.toWords := by
  induction pieces generalizing state with
  | nil => rfl
  | cons piece pieces hypothesis =>
    obtain ⟨size, sizes⟩ := List.forall_mem_cons.mp sizes
    rw [List.foldl_cons, hypothesis sizes, toWords_compress size]
    rfl

theorem toWords_compressAll {whole : Bytes} (size : whole.length % 64 = 0) (state : State) :
    (compressAll state whole).toWords =
      (List.range ((byteBits whole).length / 512)).foldl
        (fun words i => Standard.compress words (block (byteBits whole) i)) state.toWords := by
  have pieces : whole.length = pieceLength * (whole.length / 64) := by
    rw [pieceLength]
    omega
  have blocks : (byteBits whole).length / 512 = whole.length / 64 := by
    rw [Base64.byteBits_length]
    omega
  have sizes : ∀ piece ∈ (List.range (whole.length / 64)).map fun i =>
      (whole.drop (pieceLength * i)).take pieceLength, piece.length = 64 := by
    intro piece member
    obtain ⟨i, inside, rfl⟩ := List.mem_map.mp member
    have inside := List.mem_range.mp inside
    rw [List.length_take, List.length_drop, pieceLength]
    omega
  rw [compressAll, chunks_eq (by decide) _ pieces, toWords_foldl_compress sizes, blocks,
    List.map_map, List.foldl_map]
  simp only [block_byteBits]
  rfl

/-- The bits of the digest of a state. -/
theorem byteBits_digest (state : State) :
    byteBits state.digest =
      [state.a, state.b, state.c, state.d, state.e, state.f, state.g, state.h].flatMap
        fun word => bits 32 word.toNat := by
  simp only [State.digest, List.flatMap_cons, List.flatMap_nil, Base64.byteBits_append,
    byteBits_encode]
  rfl

/-- **The digest of a message** is the one that the standard gives, at every length. -/
theorem byteBits_hash (message : Bytes) :
    byteBits (hash message) = Standard.digest (byteBits message) := by
  have last := toWords_compressAll (pad_length message) .initial
  rw [byteBits_pad, toWords_initial] at last
  rw [hash, byteBits_digest, digest, ← last]
  rfl

end StorageBlock.Sha256
