/-
**Windows into a buffer.**

A description is written to and read from a stretch of a larger buffer. A `Window` is such a
stretch, with the proof that it lies inside; `Window.clamp` cuts any wish down to one.
-/

import StorageBlock.Bytes

namespace StorageBlock

/-- A stretch of a buffer. -/
structure Window where
  /-- The whole buffer. -/
  buffer : Bytes
  /-- Where the stretch begins. -/
  start : Nat
  /-- The length of the stretch. -/
  limit : Nat
  /-- The stretch lies inside the buffer. -/
  inside : start + limit ≤ buffer.length

namespace Window

/-- The whole buffer. -/
def whole (buffer : Bytes) : Window := ⟨buffer, 0, buffer.length, by omega⟩

/-- The stretch from `start` on, of at most `limit` bytes if a limit is given, as far as the buffer
reaches. -/
def clamp (buffer : Bytes) (start : Nat) (limit : Option Nat) : Window where
  buffer := buffer
  start := min start buffer.length
  limit := min (limit.getD buffer.length) (buffer.length - min start buffer.length)
  inside := by omega

/-- The bytes of the stretch. -/
def bytes (window : Window) : Bytes := (window.buffer.drop window.start).take window.limit

end Window

end StorageBlock
