/-!
# Codings

A coding writes values as bytes and reads bytes back. Either can fail, and then the coding says why
in its own words. Nothing more is known of a coding; where it matters that values come back as they
were, `Coding.RoundTrips` says so.
-/

namespace TileIndex

/-- A way to write values as bytes and to read bytes back, with a text for what it cannot write or
    read. -/
structure Coding (α : Type) where
  write : α → Except String (List UInt8)
  read : List UInt8 → Except String α

namespace Coding

variable {α : Type}

/-- Every value can be written, and its bytes read as the value. -/
def RoundTrips (c : Coding α) : Prop := ∀ a, ∃ bytes, c.write a = .ok bytes ∧ c.read bytes = .ok a

/-- What a coding that round-trips has written reads as the value. -/
theorem RoundTrips.read_of_write {c : Coding α} (h : c.RoundTrips) {a : α} {bytes : List UInt8}
    (hwrite : c.write a = .ok bytes) : c.read bytes = .ok a := by
  obtain ⟨bytes', hwrite', hread⟩ := h a
  obtain rfl := Except.ok.inj (hwrite.symm.trans hwrite')
  exact hread

end Coding

end TileIndex
