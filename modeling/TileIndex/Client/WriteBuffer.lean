import TileIndex.Failure

/-!
# Write buffers

Updates that wait to be sent as one batch. A push tells when the buffer has reached its threshold;
its owner then drains it, so that fewer updates than the threshold are left waiting.

A buffer is made with room for as many updates as its threshold. No room takes more bytes than a
signed word of the machine can count, so there is a greatest threshold, and to ask for more is a
panic. What can be counted is taken to be there: memory does not run out.
-/

namespace TileIndex

/-- Updates that wait to be sent, and the number of them at which they must be. -/
structure WriteBuffer where
  pending : List Update
  threshold : Nat
  threshold_pos : 0 < threshold
  deriving DecidableEq

namespace WriteBuffer

/-- The bytes that an update takes in memory. -/
def bytesPerUpdate : Nat := 72

/-- The number of updates for which there can be room: all of them take at most `2 ^ 63 - 1` bytes. -/
def greatestRoom : Nat := 9223372036854775807 / bytesPerUpdate

/-- A buffer without updates. A threshold of zero acts as one. -/
def empty (threshold : Nat) : WriteBuffer := ⟨[], max threshold 1, by omega⟩

/-- An empty buffer, with room for as many updates as the threshold. -/
def new (threshold : Nat) : Except Panic WriteBuffer :=
  if threshold ≤ greatestRoom then .ok (empty threshold) else .error .capacityOverflow

/-- Add an update; whether the buffer must now be drained. -/
def push (b : WriteBuffer) (u : Update) : Bool × WriteBuffer :=
  let pending := b.pending ++ [u]
  (b.threshold ≤ pending.length, { b with pending := pending })

/-- Take every update out, unless there is none. -/
def drain (b : WriteBuffer) : Option (List Update) × WriteBuffer :=
  (if b.pending = [] then none else some b.pending, { b with pending := [] })

/-- The number of updates that wait. -/
def size (b : WriteBuffer) : Nat := b.pending.length

/-- Whether no update waits. -/
def isEmpty (b : WriteBuffer) : Bool := b.pending.isEmpty

end WriteBuffer

end TileIndex
