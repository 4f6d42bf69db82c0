import Mathlib.Algebra.Group.Int.Defs
import Mathlib.Algebra.Group.Nat.Defs

/-!
# Words

A computation on integers that keeps what it finds in words, which hold only some integers, and
comes to nothing as soon as one of its results does not fit. Where it comes to something, words that
wrap around come to the same.

## Main statements

- `Word.hold_signed`, `Word.hold_unsigned`: which integers fit.
- `Word.bmod_of_hold`: an integer that fits does not wrap around.
-/

namespace TileIndex

/-- The integers that the words of a kind can hold. -/
structure Word where
  least : Int
  greatest : Int

namespace Word

/-- Words with a sign. -/
def signed (bits : Nat) : Word := ⟨-2 ^ (bits - 1), 2 ^ (bits - 1) - 1⟩

/-- Words without a sign. -/
def unsigned (bits : Nat) : Word := ⟨0, 2 ^ bits - 1⟩

/-- An integer, if a word can hold it. -/
def hold (w : Word) (n : Int) : Option Int :=
  if w.least ≤ n ∧ n ≤ w.greatest then some n else none

variable {bits : Nat} {n : Int}

theorem hold_signed (hleast : -2 ^ (bits - 1) ≤ n) (hgreatest : n < 2 ^ (bits - 1)) :
    (signed bits).hold n = some n :=
  if_pos ⟨hleast, Int.le_sub_one_of_lt hgreatest⟩

theorem hold_unsigned (hleast : 0 ≤ n) (hgreatest : n < 2 ^ bits) :
    (unsigned bits).hold n = some n :=
  if_pos ⟨hleast, Int.le_sub_one_of_lt hgreatest⟩

theorem bind_of_hold {β : Type} {w : Word} {m : Int} (h : w.hold n = some m)
    (f : Int → Option β) : (w.hold n >>= f) = f m := by
  rw [h]
  rfl

/-- Words that wrap around come to an integer that fits. -/
theorem bmod_of_hold {m : Int} (h : (signed (bits + 1)).hold n = some m) :
    n.bmod (2 ^ (bits + 1)) = m := by
  -- half the modulus is the first integer that is too great
  have hmax : ((2 ^ (bits + 1) : Nat) : Int) = 2 ^ bits * 2 := by
    rw [Int.natCast_pow, Int.pow_succ]
    rfl
  simp only [hold, signed, Nat.add_sub_cancel] at h
  split at h
  · rename_i hfits
    rw [← Option.some.inj h]
    exact Int.bmod_eq_of_le_mul_two (by omega) (by omega)
  · cases h

end Word

end TileIndex
