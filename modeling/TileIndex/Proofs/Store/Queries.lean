import TileIndex.Proofs.Store.Log

/-!
# Queries as ranges of versions

A single read finds the last entry of a range of versions, and the listing of a region has the
newest entry of such a range for every tile. So all queries look at the tiles of a store through the
visible entries of ranges, and stores that agree on these answer every query alike.

## Main statements

- `Store.within_congr`: what reads see of single versions decides what they see of a range.
- `Store.entryAt?_eq_getLast?`: a read finds the last visible entry of a range.
- `Store.mem_listing_iff`: which tiles a listing of a region has, and with which headers.
- `Store.Alike.of_within`: ranges of visible entries decide what all queries answer.
-/

namespace TileIndex.Store

/-! ## Versions -/

/-- What reads see of a tile under a transaction. -/
def seen? (s : Store) (c : Tile.Coordinate) (t : TransactionId) : Option TileEntry :=
  if s.visible t then s.kept? c t else none

theorem seen?_eq_some_iff {s : Store} {c : Tile.Coordinate} {t : TransactionId} {e : TileEntry} :
    s.seen? c t = some e ↔ s.visible t = true ∧ s.kept? c t = some e := by
  rw [seen?, Option.ite_none_right_eq_some]

/-- Stores in which reads see the same of every version in a range show the same range. -/
theorem within_congr {s s' : Store} {c : Tile.Coordinate} {first last : TransactionId}
    (h : ∀ t, first ≤ t → t ≤ last → s.seen? c t = s'.seen? c t) :
    s.within first last (s.history c) = s'.within first last (s'.history c) := by
  -- both ranges ascend, so it is enough that they have the same members
  refine SortedMap.entries_eq_of_mem_iff (s.pairwise_within c first last)
    (s'.pairwise_within c first last) ?_
  rintro ⟨t, e⟩
  rw [mem_within_iff, mem_within_iff, ← seen?_eq_some_iff, ← seen?_eq_some_iff]
  constructor
  · rintro ⟨hfirst, hlast, he⟩
    exact ⟨hfirst, hlast, h t hfirst hlast ▸ he⟩
  · rintro ⟨hfirst, hlast, he⟩
    exact ⟨hfirst, hlast, h t hfirst hlast ▸ he⟩

/-! ## Reads -/

/-- The oldest transaction that a read directed to a transaction can find. -/
def oldest (t : TransactionId) (exact : Bool) : TransactionId := if exact then t else Int32.minValue

theorem target_of_neg {s : Store} {t : TransactionId} (ht : t < 0) : s.target t = s.cursor := if_pos ht

theorem target_of_nonneg {s : Store} {t : TransactionId} (ht : 0 ≤ t) : s.target t = t :=
  if_neg (Int32.not_lt.2 ht)

/-- The first that is found from the end of a list is the last that passes. -/
theorem find?_reverse_eq_getLast?_filter {α : Type} (p : α → Bool) (l : List α) :
    l.reverse.find? p = (l.filter p).getLast? := by
  rw [← List.head?_filter, List.filter_reverse, List.head?_reverse]

/-- **A read finds the last visible entry of a range.** -/
theorem entryAt?_eq_getLast? (s : Store) (c : Tile.Coordinate) (t : TransactionId)
    (exact : Bool) :
    s.entryAt? c t exact = (s.within (oldest t exact) t (s.history c)).getLast? := by
  unfold entryAt? within
  rw [find?_reverse_eq_getLast?_filter]
  -- both tests admit the same entries
  congr 2
  funext e
  congr 1
  cases exact with
  | false => simp [oldest, Int32.minValue_le]
  | true =>
    simp only [oldest, if_true]
    -- a range from a transaction to itself holds that transaction alone
    by_cases h : e.1 = t
    · simp [h]
    · have hne : ¬ (t ≤ e.1 ∧ e.1 ≤ t) := fun ⟨h₁, h₂⟩ => h (Int32.le_antisymm h₂ h₁)
      simpa [h] using hne

/-- Stores in which a read is directed to the same transaction and looks at the same range answer it
    alike. -/
theorem read_congr {s s' : Store} {c : Tile.Coordinate} {t : TransactionId} {exact : Bool}
    (htarget : s.target t = s'.target t)
    (h : s.within (oldest (s.target t) exact) (s.target t) (s.history c) =
      s'.within (oldest (s.target t) exact) (s.target t) (s'.history c)) :
    s.read c t exact = s'.read c t exact := by
  rw [Store.read, Store.read, ← htarget, entryAt?_eq_getLast?, entryAt?_eq_getLast?, h]

/-! ## Listings of a region -/

/-- The tiles that a listing of a region has, with their headers. -/
def listing (s : Store) (level : Int32) (region : Tile.Region) (first last : TransactionId)
    (atLeast : UInt32) : List (Tile.Coordinate × Tile.Header) :=
  s.tiles.entries.filterMap fun (c, h) =>
    if c.level = level && region.contains c.col c.row then
      (newestOf atLeast (s.within first last h.entries)).map (c, ·)
    else none

variable {s s' : Store} {level : Int32} {region : Tile.Region} {first last : TransactionId}
  {atLeast : UInt32}

/-- The headers of a region are those of its listing. -/
theorem validTiles_eq_map_listing : s.validTiles level region first last atLeast =
    (s.listing level region first last atLeast).map (·.2) := by
  simp only [validTiles, SortedMap.entriesWhere, listing, List.filterMap_filter,
    List.map_filterMap]
  congr 1
  funext ⟨c, h⟩
  by_cases hc : (c.level = level && region.contains c.col c.row) = true
  · rw [if_pos hc, if_pos hc, Option.map_map]
    exact Option.map_id'.symm
  · rw [if_neg hc, if_neg hc]
    rfl

theorem newestOf_nil (n : UInt32) : newestOf n [] = none := by
  unfold newestOf
  split <;> rfl

/-- A tile is listed if it lies in the region, and has enough entries in the range for a newest one.
    -/
theorem mem_listing_iff {c : Tile.Coordinate} {header : Tile.Header} :
    (c, header) ∈ s.listing level region first last atLeast ↔
      (c.level = level && region.contains c.col c.row) = true ∧
        newestOf atLeast (s.within first last (s.history c)) = some header := by
  -- a tile that is kept is listed with its own history
  have hhistory : ∀ h, (c, h) ∈ s.tiles.entries → s.history c = h.entries := by
    intro h hmem
    rw [history, SortedMap.find?_eq_some_iff.2 hmem]
  rw [listing, List.mem_filterMap]
  constructor
  · rintro ⟨⟨c', h⟩, hmem, hnewest⟩
    simp only at hnewest
    split at hnewest
    · rename_i hc
      obtain ⟨header', hfound, he⟩ := Option.map_eq_some_iff.1 hnewest
      obtain ⟨rfl, rfl⟩ := Prod.mk.inj he
      exact ⟨hc, hhistory h hmem ▸ hfound⟩
    · simp at hnewest
  · rintro ⟨hc, hnewest⟩
    cases hfind : s.tiles.find? c with
    | none =>
      -- there is no newest entry of a tile that was never written
      have hempty : s.history c = [] := by rw [history, hfind]
      rw [hempty] at hnewest
      exact absurd ((newestOf_nil _).symm.trans hnewest) (Option.some_ne_none _).symm
    | some h =>
      have hmem := SortedMap.find?_eq_some_iff.1 hfind
      refine ⟨(c, h), hmem, ?_⟩
      rw [hhistory h hmem] at hnewest
      simp only [if_pos hc, hnewest, Option.map_some]

/-- A listing ascends by tile. -/
theorem pairwise_listing : (s.listing level region first last atLeast).Pairwise (·.1 < ·.1) := by
  refine s.tiles.sorted.filterMap _ ?_
  -- a tile is listed under its own coordinate, so the order of the tiles carries over
  have hkey : ∀ (e : Tile.Coordinate × TileHistory) (x : Tile.Coordinate × Tile.Header),
      (if e.1.level = level && region.contains e.1.col e.1.row then
        (newestOf atLeast (s.within first last e.2.entries)).map (e.1, ·) else none) = some x →
      x.1 = e.1 := by
    intro e x hx
    split at hx
    · obtain ⟨header, -, rfl⟩ := Option.map_eq_some_iff.1 hx
      rfl
    · simp at hx
  intro e e' hlt x hx x' hx'
  rw [hkey e x hx, hkey e' x' hx']
  exact hlt

/-! ## Stores that look alike -/

/-- Two stores that every query about tiles answers alike, refusals included. -/
structure Alike (s s' : Store) : Prop where
  read : ∀ c t exact, s.read c t exact = s'.read c t exact
  multiRead : ∀ c first last, s.multiRead c first last = s'.multiRead c first last
  validTiles : ∀ level region first last atLeast,
    s.validTiles level region first last atLeast = s'.validTiles level region first last atLeast

/-- **Ranges of visible entries decide what all queries answer.** -/
theorem Alike.of_within (hcursor : s.cursor = s'.cursor)
    (h : ∀ c first last, s.within first last (s.history c) = s'.within first last (s'.history c)) :
    s.Alike s' where
  read c t exact := by
    have htarget : s.target t = s'.target t := by rw [target, target, hcursor]
    exact read_congr htarget (h ..)
  multiRead c first last := by rw [Store.multiRead, Store.multiRead, h]
  validTiles level region first last atLeast := by
    rw [validTiles_eq_map_listing, validTiles_eq_map_listing]
    refine congrArg _ (SortedMap.entries_eq_of_mem_iff pairwise_listing pairwise_listing ?_)
    rintro ⟨c, header⟩
    rw [mem_listing_iff, mem_listing_iff, h]

end TileIndex.Store
