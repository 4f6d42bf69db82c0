import TileIndex.Bus.Message
import TileIndex.Failure

/-!
# Transports

What a bus must be able to do: put a message on a named queue, and wait for the next message of one.
-/

universe u

namespace TileIndex

/-- What a listen comes to. -/
structure Heard where
  found : Except TransportError (Option Message)
  /-- The milliseconds that passed. -/
  elapsed : UInt64
  deriving Repr

/-- What comes of a listen without waiting. -/
def Heard.atOnce (found : Except TransportError (Option Message)) : Heard := ⟨found, 0⟩

/-- A point-to-point transport, acting on a state. -/
structure Transport (τ : Type u) where
  /-- Put a message on a queue. -/
  send : String → Message → τ → Except TransportError Unit × τ
  /-- Wait some milliseconds at most for the next message of a queue. -/
  listen : String → UInt64 → τ → Heard × τ

end TileIndex
