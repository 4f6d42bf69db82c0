import TileIndex.SortedMap

/-!
# Tiles

Where a tile lies in the pyramid, what a writer says about it, and where its bytes are kept.
Coordinates are 32-bit and unchecked: any column, row and level can be indexed.
-/

namespace TileIndex

/-- The identifier a service gives to a plate. -/
abbrev PlateId := Int32

/-- The version stamp of a unit of work; a negative one asks for the read cursor. -/
abbrev TransactionId := Int32

/-- The identifier of a blob in the blob store. -/
abbrev BlobId := Int32

/-- The transaction id that reads at whatever the read cursor is. -/
def cursorTransaction : TransactionId := -1

namespace Tile

/-! ## Coordinates -/

/-- The place of a tile in the pyramid. -/
structure Coordinate where
  col : Int32
  row : Int32
  level : Int32
  deriving DecidableEq, Repr, Inhabited

namespace Coordinate

/-- Columns decide first, then rows, then levels. -/
protected def Less (a b : Coordinate) : Prop :=
  a.col < b.col ∨ a.col = b.col ∧ (a.row < b.row ∨ a.row = b.row ∧ a.level < b.level)

instance : LT Coordinate := ⟨Coordinate.Less⟩

instance : DecidableLT Coordinate := fun a b =>
  inferInstanceAs (Decidable (a.col < b.col ∨
    a.col = b.col ∧ (a.row < b.row ∨ a.row = b.row ∧ a.level < b.level)))

theorem lt_iff {a b : Coordinate} : a < b ↔ a.col < b.col ∨
    a.col = b.col ∧ (a.row < b.row ∨ a.row = b.row ∧ a.level < b.level) := Iff.rfl

instance : KeyOrder Coordinate where
  irrefl a h := by
    -- each key in turn would lie below itself
    simp [lt_iff, KeyOrder.irrefl] at h
  trans {a b c} h₁ h₂ := by
    rw [lt_iff] at *
    -- the first key that decides in either step decides in both together
    rcases h₁ with h₁ | ⟨e₁, h₁⟩
    · rcases h₂ with h₂ | ⟨e₂, _⟩
      · exact Or.inl (KeyOrder.trans h₁ h₂)
      · exact Or.inl (e₂ ▸ h₁)
    · rcases h₂ with h₂ | ⟨e₂, h₂⟩
      · exact Or.inl (e₁ ▸ h₂)
      · refine Or.inr ⟨e₁.trans e₂, ?_⟩
        rcases h₁ with h₁ | ⟨f₁, h₁⟩
        · rcases h₂ with h₂ | ⟨f₂, _⟩
          · exact Or.inl (KeyOrder.trans h₁ h₂)
          · exact Or.inl (f₂ ▸ h₁)
        · rcases h₂ with h₂ | ⟨f₂, h₂⟩
          · exact Or.inl (f₁ ▸ h₂)
          · exact Or.inr ⟨f₁.trans f₂, KeyOrder.trans h₁ h₂⟩
  connected a b := by
    obtain ⟨c, r, l⟩ := a
    obtain ⟨c', r', l'⟩ := b
    -- compare one key after another, and go on where two are equal
    simp only [lt_iff, Coordinate.mk.injEq]
    rcases KeyOrder.connected c c' with h | rfl | h
    · exact Or.inl (Or.inl h)
    · rcases KeyOrder.connected r r' with h | rfl | h
      · exact Or.inl (Or.inr ⟨rfl, Or.inl h⟩)
      · rcases KeyOrder.connected l l' with h | rfl | h
        · exact Or.inl (Or.inr ⟨rfl, Or.inr ⟨rfl, h⟩⟩)
        · exact Or.inr (Or.inl ⟨rfl, rfl, rfl⟩)
        · exact Or.inr (Or.inr (Or.inr ⟨rfl, Or.inr ⟨rfl, h⟩⟩))
      · exact Or.inr (Or.inr (Or.inr ⟨rfl, Or.inl h⟩))
    · exact Or.inr (Or.inr (Or.inl h))

/-- The distinct coordinates of a list, ascending. -/
def sortDistinct (l : List Coordinate) : List Coordinate :=
  (SortedMap.ofList (l.map fun c => (c, ()))).keys

end Coordinate

/-! ## Regions -/

/-- A block of tiles at one level: `width` columns from `col`, `height` rows from `row`. -/
structure Region where
  col : Int32
  row : Int32
  width : Int32
  height : Int32
  deriving DecidableEq, Repr, Inhabited

namespace Region

/-- The number of columns or rows from `lo` up to but not including `hi`; the greatest 32-bit
    number stands for every larger one. -/
def extent (lo hi : Int32) : Int32 :=
  -- no difference of 32-bit numbers leaves 64 bits
  let span := hi.toInt64 - lo.toInt64
  if span ≤ 0 then 0
  else if span ≤ Int32.maxValue.toInt64 then span.toInt32
  else Int32.maxValue

/-- The region from one corner up to but not including the other. -/
def ofCorners (minCol minRow maxCol maxRow : Int32) : Region :=
  ⟨minCol, minRow, extent minCol maxCol, extent minRow maxRow⟩

/-- Whether a column and row lie in the region. The sums are taken in 64 bits, so a region that
    reaches past the last column or row still holds that column or row. -/
def contains (g : Region) (col row : Int32) : Bool :=
  g.col.toInt64 ≤ col.toInt64 && col.toInt64 < g.col.toInt64 + g.width.toInt64 &&
    g.row.toInt64 ≤ row.toInt64 && row.toInt64 < g.row.toInt64 + g.height.toInt64

end Region

/-! ## Records and updates -/

/-- What a writer says about a tile. -/
structure Header where
  col : Int32
  row : Int32
  level : Int32
  transaction : TransactionId
  filetype : String
  deriving DecidableEq, Repr, Inhabited

/-- The place a header speaks of. -/
def Header.coordinate (h : Header) : Coordinate := ⟨h.col, h.row, h.level⟩

end Tile

/-- Whether a record points at usable bytes. -/
inductive RecordStatus
  | valid
  | invalid
  deriving DecidableEq, Repr

instance : Inhabited RecordStatus := ⟨.valid⟩

/-- Where the bytes of a tile are kept. -/
structure Record where
  blob : BlobId
  offset : UInt64
  size : UInt64
  status : RecordStatus
  deriving DecidableEq, Repr

namespace Record

/-- A valid record. -/
def stored (blob : BlobId) (offset size : UInt64) : Record := ⟨blob, offset, size, .valid⟩

instance : Inhabited Record := ⟨stored 0 0 0⟩

/-- Whether the bytes are usable. -/
def isValid (r : Record) : Bool := r.status = .valid

end Record

/-- One index update: what is written about a tile, and to which plate. -/
structure Update where
  plate : PlateId
  header : Tile.Header
  record : Record
  deriving DecidableEq, Repr, Inhabited

end TileIndex
