import TileIndex.Proofs.Words
import TileIndex.Tile

/-!
# Extents of regions

A region is a product of two intervals of unbounded integers: its sums are taken in 64 bits, where
sums of 32-bit numbers are exact. An extent is cut off at the greatest 32-bit number, so a region
between two corners reaches from the first up to the second, or that far.

## Main statements

- `Tile.Region.contains_iff`: a region holds the tiles of two intervals.
- `Tile.Region.contains_ofCorners_iff`: a region between corners ends at the second, or as far away
  from the first as an extent can be.
- `Tile.Region.exact_contains`: regions are exact at the ends of 32 bits, and can be cut in two.
-/

namespace TileIndex.Tile.Region

variable {g : Region} {a b c d k x y : Int32}

/-! ## Sums and differences -/

theorem hold_add (m n : Int32) :
    (Word.signed 64).hold (m.toInt + n.toInt) = some (m.toInt + n.toInt) := by
  have hm := m.le_toInt
  have hm' := m.toInt_lt
  have hn := n.le_toInt
  have hn' := n.toInt_lt
  exact Word.hold_signed (by omega) (by omega)

theorem hold_sub (m n : Int32) :
    (Word.signed 64).hold (m.toInt - n.toInt) = some (m.toInt - n.toInt) := by
  have hm := m.le_toInt
  have hm' := m.toInt_lt
  have hn := n.le_toInt
  have hn' := n.toInt_lt
  exact Word.hold_signed (by omega) (by omega)

theorem toInt_add_toInt64 (m n : Int32) : (m.toInt64 + n.toInt64).toInt = m.toInt + n.toInt := by
  -- the sum of 64-bit numbers wraps around, and here there is nothing to wrap
  rw [Int64.toInt_add, Int32.toInt_toInt64, Int32.toInt_toInt64]
  exact Word.bmod_of_hold (hold_add m n)

theorem toInt_sub_toInt64 (m n : Int32) : (m.toInt64 - n.toInt64).toInt = m.toInt - n.toInt := by
  rw [Int64.toInt_sub, Int32.toInt_toInt64, Int32.toInt_toInt64]
  exact Word.bmod_of_hold (hold_sub m n)

/-- An extent is the distance, but no less than nothing and no more than the greatest number. -/
theorem toInt_extent (lo hi : Int32) :
    (extent lo hi).toInt = min (max 0 (hi.toInt - lo.toInt)) (2 ^ 31 - 1) := by
  have hspan := toInt_sub_toInt64 hi lo
  have hmax : Int32.maxValue.toInt = 2 ^ 31 - 1 := Int32.toInt_maxValue
  have hzero : (0 : Int64).toInt = 0 := rfl
  simp only [extent]
  split
  -- the corners are the same or inverted
  · rename_i hle
    rw [Int64.le_iff_toInt_le] at hle
    have hnone : (0 : Int32).toInt = 0 := rfl
    omega
  · rename_i hpos
    rw [Int64.le_iff_toInt_le] at hpos
    split
    -- the distance is a 32-bit number
    · rename_i hle
      rw [Int64.le_iff_toInt_le, Int32.toInt_toInt64] at hle
      rw [Int64.toInt_toInt32, Int.bmod_eq_of_le_mul_two (by omega) (by omega)]
      omega
    -- the distance is cut off
    · rename_i hgt
      rw [Int64.le_iff_toInt_le, Int32.toInt_toInt64] at hgt
      omega

/-! ## Tiles of a region -/

/-- A region holds the tiles of an interval of columns and one of rows. -/
theorem contains_iff : g.contains x y = true ↔
    (g.col.toInt ≤ x.toInt ∧ x.toInt < g.col.toInt + g.width.toInt) ∧
      (g.row.toInt ≤ y.toInt ∧ y.toInt < g.row.toInt + g.height.toInt) := by
  simp only [contains, Bool.and_eq_true, decide_eq_true_eq, Int64.le_iff_toInt_le,
    Int64.lt_iff_toInt_lt, toInt_add_toInt64, Int32.toInt_toInt64, and_assoc]

/-- A region holds no tile if and only if it has no columns or no rows. -/
theorem forall_contains_eq_false_iff :
    (∀ x y, g.contains x y = false) ↔ g.width ≤ 0 ∨ g.height ≤ 0 := by
  have hzero : (0 : Int32).toInt = 0 := rfl
  simp only [Int32.le_iff_toInt_le, hzero]
  constructor
  · intro h
    -- otherwise the tile at its first column and row would be in it
    have hfirst : ¬ g.contains g.col g.row = true := by simp [h]
    rw [contains_iff] at hfirst
    omega
  · -- an interval without length has no column or row between its ends
    intro h x y
    rw [Bool.eq_false_iff, ne_eq, contains_iff]
    omega

/-- The region between two corners ends at the second, or where its extent is cut off. -/
theorem contains_ofCorners_iff : (ofCorners a b c d).contains x y = true ↔
    (a.toInt ≤ x.toInt ∧ x.toInt < min c.toInt (a.toInt + 2 ^ 31 - 1)) ∧
      (b.toInt ≤ y.toInt ∧ y.toInt < min d.toInt (b.toInt + 2 ^ 31 - 1)) := by
  simp only [contains_iff, ofCorners, toInt_extent]
  -- a first corner and an extent from it are the ends of an interval
  omega

/-! ## Words -/

/-- Whether a column and row lie in a region, with all sums held in words of a kind. -/
def containsIn (w : Word) (g : Region) (col row : Int32) : Option Bool := do
  let right ← w.hold (g.col.toInt + g.width.toInt)
  let bottom ← w.hold (g.row.toInt + g.height.toInt)
  return g.col.toInt ≤ col.toInt && col.toInt < right &&
    g.row.toInt ≤ row.toInt && row.toInt < bottom

/-- The extent from one number to another, with their difference held in words of a kind. -/
def extentIn (w : Word) (lo hi : Int32) : Option Int := do
  let span ← w.hold (hi.toInt - lo.toInt)
  return min (max 0 span) Int32.maxValue.toInt

theorem containsIn_signed (g : Region) (x y : Int32) :
    g.containsIn (.signed 64) x y = some (g.contains x y) := by
  rw [containsIn, Word.bind_of_hold (hold_add _ _), Word.bind_of_hold (hold_add _ _)]
  simp only [Option.pure_def, contains, Int64.le_iff_toInt_le, Int64.lt_iff_toInt_lt,
    toInt_add_toInt64, Int32.toInt_toInt64]

theorem extentIn_signed (lo hi : Int32) :
    extentIn (.signed 64) lo hi = some (extent lo hi).toInt := by
  rw [extentIn, Word.bind_of_hold (hold_sub hi lo), toInt_extent, Int32.toInt_maxValue]
  rfl

/-! ## Cuts -/

theorem countP_pair {α : Type} {p : α → Bool} {whole one other : α}
    (hboth : p whole = true ↔ p one = true ∨ p other = true)
    (hone : ¬ (p one = true ∧ p other = true)) : [one, other].countP p = (p whole).toNat := by
  cases hp : p one <;> cases hq : p other <;> simp_all

/-- A region that is not cut off falls into two at any column of it. -/
theorem countP_cut_col (hspan : c.toInt - a.toInt ≤ 2 ^ 31 - 1) (hak : a ≤ k) (hkc : k ≤ c) :
    [ofCorners a b k d, ofCorners k b c d].countP (·.contains x y) =
      ((ofCorners a b c d).contains x y).toNat := by
  rw [Int32.le_iff_toInt_le] at hak hkc
  -- with bounds on the span no extent is cut off, and the parts are next to each other
  apply countP_pair
  all_goals
    simp only [contains_ofCorners_iff]
    omega

theorem countP_cut_row (hspan : d.toInt - b.toInt ≤ 2 ^ 31 - 1) (hbk : b ≤ k) (hkd : k ≤ d) :
    [ofCorners a b c k, ofCorners a k c d].countP (·.contains x y) =
      ((ofCorners a b c d).contains x y).toNat := by
  rw [Int32.le_iff_toInt_le] at hbk hkd
  apply countP_pair
  all_goals
    simp only [contains_ofCorners_iff]
    omega

/-! ## Exactness -/

/-- What a region is in unbounded integers. -/
structure Measured (g : Region) : Prop where
  /-- The region holds the columns and rows of two intervals. -/
  inside : ∀ x y, g.contains x y = true ↔
    (g.col.toInt ≤ x.toInt ∧ x.toInt < g.col.toInt + g.width.toInt) ∧
      (g.row.toInt ≤ y.toInt ∧ y.toInt < g.row.toInt + g.height.toInt)
  /-- It is empty if and only if its width or its height is not positive. -/
  empty : (∀ x y, g.contains x y = false) ↔ g.width ≤ 0 ∨ g.height ≤ 0
  /-- No sum that is taken for it leaves 64 bits. -/
  words : ∀ x y, g.containsIn (.signed 64) x y = some (g.contains x y)

/-- What the region between two corners is in unbounded integers. -/
structure Spanned (a b c d : Int32) : Prop where
  /-- The region ends at the second corner, or as far from the first as an extent can be. -/
  inside : ∀ x y, (ofCorners a b c d).contains x y = true ↔
    (a.toInt ≤ x.toInt ∧ x.toInt < min c.toInt (a.toInt + 2 ^ 31 - 1)) ∧
      (b.toInt ≤ y.toInt ∧ y.toInt < min d.toInt (b.toInt + 2 ^ 31 - 1))
  /-- No difference that is taken for it leaves 64 bits. -/
  words : extentIn (.signed 64) a c = some (ofCorners a b c d).width.toInt ∧
    extentIn (.signed 64) b d = some (ofCorners a b c d).height.toInt
  /-- Cut at a column, it comes to two regions with each of its tiles in one of them, and no others. -/
  cutCol : c.toInt - a.toInt ≤ 2 ^ 31 - 1 → ∀ k, a ≤ k → k ≤ c → ∀ x y,
    [ofCorners a b k d, ofCorners k b c d].countP (·.contains x y) =
      ((ofCorners a b c d).contains x y).toNat
  /-- So it does when it is cut at a row. -/
  cutRow : d.toInt - b.toInt ≤ 2 ^ 31 - 1 → ∀ k, b ≤ k → k ≤ d → ∀ x y,
    [ofCorners a b c k, ofCorners a k c d].countP (·.contains x y) =
      ((ofCorners a b c d).contains x y).toNat

/-- **Regions are exact at the ends of 32 bits.** A region holds what its numbers say in unbounded
    integers, and the region between two corners what lies between them, up to the greatest extent. -/
theorem exact_contains : (∀ g : Region, Measured g) ∧ ∀ a b c d : Int32, Spanned a b c d := by
  refine ⟨fun g => ?measured, fun a b c d => ?spanned⟩
  case measured =>
    exact ⟨fun _ _ => contains_iff, forall_contains_eq_false_iff, containsIn_signed g⟩
  case spanned =>
    refine ⟨fun x y => contains_ofCorners_iff, ⟨extentIn_signed a c, extentIn_signed b d⟩,
      ?cutCol, ?cutRow⟩
    case cutCol => exact fun hspan k hak hkc x y => countP_cut_col hspan hak hkc
    case cutRow => exact fun hspan k hbk hkd x y => countP_cut_row hspan hbk hkd

/-- A region that reaches past the last column has that column, and one from the first column to the
    last ends before the middle. -/
example :
    (Region.mk (Int32.maxValue - 1) 0 10 1).contains Int32.maxValue 0 = true ∧
      (ofCorners Int32.minValue 0 Int32.maxValue 1).contains (-1) 0 = false :=
  ⟨by decide, by decide⟩

end TileIndex.Tile.Region
