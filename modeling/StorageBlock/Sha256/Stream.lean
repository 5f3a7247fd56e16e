/-
**SHA-256 of a message that arrives in parts.**

A `Stream` holds the state after all whole pieces so far, and the bytes that do not fill a piece
yet.

* `Stream.update` takes one more part, of any length;
* `Stream.finish` completes the message;
* `finish_foldl_update`: the digest depends on the whole message only, not on its parts.
-/

import StorageBlock.Sha256.Basic

namespace StorageBlock.Sha256

/-- A message of which a first part has been hashed. -/
structure Stream where
  /-- The state after the whole pieces. -/
  state : State
  /-- The bytes after the last whole piece. -/
  pending : Bytes
  /-- The length of the message so far. -/
  length : Nat

/-- Compresses the whole pieces at the front of a text and leaves the rest. -/
def absorb (state : State) (bytes : Bytes) : State × Bytes :=
  if bytes.length < pieceLength then (state, bytes)
  else absorb (compress state (bytes.take pieceLength)) (bytes.drop pieceLength)
termination_by bytes.length
decreasing_by
  simp only [pieceLength, List.length_drop] at *
  omega

namespace Stream

/-- The stream before the first byte. -/
def empty : Stream := ⟨.initial, [], 0⟩

/-- The stream after one more part of the message. -/
def update (stream : Stream) (part : Bytes) : Stream :=
  let (state, pending) := absorb stream.state (stream.pending ++ part)
  ⟨state, pending, stream.length + part.length⟩

/-- The digest of the message. -/
def finish (stream : Stream) : Bytes :=
  (compressAll stream.state (stream.pending ++ ending stream.length)).digest

end Stream

/-! ### The parts do not matter -/

/-- Compressing the front first does not change the outcome. -/
theorem compressAll_absorb (state : State) (bytes rest : Bytes) :
    compressAll (absorb state bytes).1 ((absorb state bytes).2 ++ rest) =
      compressAll state (bytes ++ rest) := by
  fun_induction absorb state bytes with
  | case1 => rfl
  | case2 state bytes long hypothesis =>
    have long : pieceLength ≤ bytes.length := Nat.le_of_not_lt long
    have nonempty : bytes ++ rest ≠ [] := by
      intro empty
      simp [List.append_eq_nil_iff.mp empty, pieceLength] at long
    rw [hypothesis, compressAll, compressAll, Bytes.chunks_of_ne_nil _ nonempty, List.foldl_cons,
      List.take_append_of_le_length long, List.drop_append_of_le_length long]

/-- **The digest of a message in parts is the digest of the message.** -/
theorem finish_foldl_update (parts : List Bytes) :
    (parts.foldl Stream.update .empty).finish = hash parts.flatten := by
  have general (stream : Stream) : (parts.foldl Stream.update stream).finish =
      (compressAll stream.state (stream.pending ++ parts.flatten ++
        ending (stream.length + parts.flatten.length))).digest := by
    induction parts generalizing stream with
    | nil => simp [Stream.finish]
    | cons part parts hypothesis =>
      rw [List.foldl_cons, hypothesis]
      simp only [Stream.update, List.append_assoc, compressAll_absorb, List.flatten_cons,
        List.length_append, Nat.add_assoc]
  rw [general, hash, pad]
  simp [Stream.empty]

end StorageBlock.Sha256
