import TileIndex.Proofs.Store.Reads

/-!
# Listings of a region

A listing goes through the tiles of a store and asks for the versions of each within a range. It has
one header for every tile of the region that a range read finds enough records of. The header is
that of the last update about the tile under the newest of these versions, exactly as it was
written, because a store files every entry under the coordinate and the transaction of its own
header.

## Main statements

- `Store.filed_run`: entries are filed under their own headers.
- `Store.Filed.mem_validTiles_iff`: which headers a listing has.
- `Store.Filed.pairwise_coordinate_validTiles`: the tiles of a listing ascend.
- `Store.surveys_run`: a listing of a region is what range reads of its tiles say.
-/

namespace TileIndex.Store

/-! ## Entries and their headers -/

/-- Every entry is filed under the coordinate and the transaction of its own header. -/
def Filed (s : Store) : Prop :=
  ∀ ⦃c : Tile.Coordinate⦄ ⦃t : TransactionId⦄ ⦃e : TileEntry⦄, s.kept? c t = some e →
    e.header.coordinate = c ∧ e.header.transaction = t

/-- **Entries are filed under their own headers.** -/
theorem filed_run (header : Plate.Header) (shortName fullName : String) (cs : List Command) :
    ((Store.new header shortName fullName).run cs).Filed := by
  intro c t e he
  rw [kept?_run] at he
  obtain ⟨u, hu, rfl⟩ := Option.map_eq_some_iff.1 he
  -- what is kept is the last update about the two, and that is about them
  exact (mem_of_latest? hu).2

/-! ## Tiles of a listing -/

/-- The newest of some entries is the last of them, if there are enough. -/
theorem newestOf_eq_some_iff {n : UInt32} {es : List (TransactionId × TileEntry)}
    {header : Tile.Header} : newestOf n es = some header ↔
      n.toNat ≤ es.length ∧ ∃ e, es.getLast? = some e ∧ e.2.header = header := by
  unfold newestOf
  split
  · rename_i hn
    simp [hn]
  · rename_i hn
    simp [hn]

/-- Whether a listing of a region has a tile: it lies in the region at the level that is asked for,
    and there are enough records of it in the range of versions, and at least one. -/
structure Listed (s : Store) (level : Int32) (region : Tile.Region) (first last : TransactionId)
    (atLeast : UInt32) (c : Tile.Coordinate) : Prop where
  atLevel : c.level = level
  inside : region.contains c.col c.row = true
  seen : s.multiRead c first last ≠ []
  enough : atLeast.toNat ≤ (s.multiRead c first last).length

variable {s : Store} {level : Int32} {region : Tile.Region} {first last : TransactionId}
  {atLeast : UInt32} {c : Tile.Coordinate} {header : Tile.Header}

theorem length_multiRead (s : Store) (c : Tile.Coordinate) (first last : TransactionId) :
    (s.multiRead c first last).length = (s.within first last (s.history c)).length :=
  List.length_map _

theorem multiRead_eq_nil_iff :
    s.multiRead c first last = [] ↔ s.within first last (s.history c) = [] :=
  List.map_eq_nil_iff

/-- A tile is listed if it belongs to the listing, under the last entry of its range. -/
theorem mem_listing_iff_listed : (c, header) ∈ s.listing level region first last atLeast ↔
    s.Listed level region first last atLeast c ∧
      ∃ e, (s.within first last (s.history c)).getLast? = some e ∧ e.2.header = header := by
  rw [mem_listing_iff, newestOf_eq_some_iff, Bool.and_eq_true, decide_eq_true_eq]
  constructor
  · rintro ⟨⟨hlevel, hinside⟩, henough, e, hlast, hheader⟩
    refine ⟨⟨hlevel, hinside, fun hnil => ?_, ?_⟩, e, hlast, hheader⟩
    · -- an empty range would have no last entry
      rw [multiRead_eq_nil_iff.1 hnil] at hlast
      simp at hlast
    · rw [length_multiRead]
      exact henough
  · rintro ⟨h, e, hlast, hheader⟩
    have henough := h.enough
    rw [length_multiRead] at henough
    exact ⟨⟨h.atLevel, h.inside⟩, henough, e, hlast, hheader⟩

theorem exists_mem_listing (h : s.Listed level region first last atLeast c) :
    ∃ header, (c, header) ∈ s.listing level region first last atLeast := by
  have hne : s.within first last (s.history c) ≠ [] := fun hnil =>
    h.seen (multiRead_eq_nil_iff.2 hnil)
  exact ⟨_, mem_listing_iff_listed.2 ⟨h, _, List.getLast?_eq_some_getLast hne, rfl⟩⟩

/-! ## Headers of a listing -/

/-- The tile that a header is listed for is the one that the header speaks of. -/
theorem Filed.coordinate_of_mem_listing (hs : s.Filed)
    (h : (c, header) ∈ s.listing level region first last atLeast) : header.coordinate = c := by
  obtain ⟨-, ⟨t, e⟩, hlast, rfl⟩ := mem_listing_iff_listed.1 h
  exact (hs (mem_within_iff.1 (List.mem_of_getLast? hlast)).2.2.2).1

/-- The headers speak of the tiles that are listed, in their order. -/
theorem Filed.map_coordinate_validTiles (hs : s.Filed) :
    (s.validTiles level region first last atLeast).map Tile.Header.coordinate =
      (s.listing level region first last atLeast).map (·.1) := by
  rw [validTiles_eq_map_listing, List.map_map]
  exact List.map_congr_left fun _ h => hs.coordinate_of_mem_listing h

/-- **The tiles of a listing ascend.** -/
theorem Filed.pairwise_coordinate_validTiles (hs : s.Filed) :
    ((s.validTiles level region first last atLeast).map Tile.Header.coordinate).Pairwise (· < ·) := by
  rw [hs.map_coordinate_validTiles, List.pairwise_map]
  exact pairwise_listing

/-- **A header is listed** if its tile belongs to the listing and it is that of the newest record.
    -/
theorem Filed.mem_validTiles_iff (hs : s.Filed) :
    header ∈ s.validTiles level region first last atLeast ↔
      s.Listed level region first last atLeast header.coordinate ∧
        ∃ e, s.kept? header.coordinate header.transaction = some e ∧ e.header = header ∧
          (s.multiRead header.coordinate first last).getLast? = some (header.transaction, e.record) := by
  rw [validTiles_eq_map_listing, List.mem_map]
  constructor
  · rintro ⟨⟨c, header⟩, hmem, rfl⟩
    obtain rfl := hs.coordinate_of_mem_listing hmem
    obtain ⟨hlisted, ⟨t, e⟩, hlast, rfl⟩ := mem_listing_iff_listed.1 hmem
    have he := (mem_within_iff.1 (List.mem_of_getLast? hlast)).2.2.2
    obtain rfl := (hs he).2
    exact ⟨hlisted, e, he, rfl, by rw [getLast?_multiRead, hlast]; rfl⟩
  · rintro ⟨hlisted, e, he, hheader, hlast⟩
    rw [getLast?_multiRead] at hlast
    obtain ⟨⟨t, e'⟩, hlast, heq⟩ := Option.map_eq_some_iff.1 hlast
    obtain ⟨rfl, -⟩ := Prod.mk.inj heq
    -- only one entry is kept for a tile under a transaction
    have he' := (mem_within_iff.1 (List.mem_of_getLast? hlast)).2.2.2
    obtain rfl : e = e' := Option.some.inj (he.symm.trans he')
    exact ⟨(header.coordinate, header), mem_listing_iff_listed.2 ⟨hlisted, _, hlast, hheader⟩, rfl⟩

/-- Coordinates of one level are in order by column and then by row. -/
theorem col_row_lt_of_lt {a b : Tile.Coordinate} (h : a < b) (hlevel : a.level = b.level) :
    a.col < b.col ∨ a.col = b.col ∧ a.row < b.row := by
  rcases Tile.Coordinate.lt_iff.1 h with hcol | ⟨hcol, hrow | ⟨-, hlt⟩⟩
  · exact .inl hcol
  · exact .inr ⟨hcol, hrow⟩
  · rw [hlevel] at hlt
    exact absurd hlt Int32.lt_irrefl

/-! ## Surveys -/

/-- What can be said of the listings of regions when `log` holds all updates that a store was given. -/
structure Surveys (log : List Update) (s : Store) (level : Int32) (region : Tile.Region)
    (first last : TransactionId) (atLeast : UInt32) : Prop where
  /-- A tile that belongs to a listing has one header there. -/
  once : ∀ c, s.Listed level region first last atLeast c →
    ((s.validTiles level region first last atLeast).map Tile.Header.coordinate).count c = 1
  /-- A listing has headers of such tiles only. -/
  only : ∀ header ∈ s.validTiles level region first last atLeast,
    s.Listed level region first last atLeast header.coordinate
  /-- Headers are in strictly ascending order, by column and then by row. -/
  ascending : (s.validTiles level region first last atLeast).Pairwise fun a b =>
    a.col < b.col ∨ a.col = b.col ∧ a.row < b.row
  /-- The transaction of a header is the newest version of its tile within the range, and the header
      is that of the last update about the two. -/
  newest : ∀ header ∈ s.validTiles level region first last atLeast, ∃ u,
    (s.multiRead header.coordinate first last).getLast? = some (header.transaction, u.record) ∧
      latest? log header.coordinate header.transaction = some u ∧ u.header = header
  /-- The transaction of a header lies in the range. -/
  dated : ∀ header ∈ s.validTiles level region first last atLeast,
    first ≤ header.transaction ∧ header.transaction ≤ last

/-- **A listing of a region is what range reads of its tiles say.** After any run of a new plate,
    for every level, region and range of versions and any number of records that is asked for. -/
theorem surveys_run (plate : Plate.Header) (shortName fullName : String) (cs : List Command)
    (level : Int32) (region : Tile.Region) (first last : TransactionId) (atLeast : UInt32) :
    Surveys (writes cs) ((Store.new plate shortName fullName).run cs) level region first last
      atLeast := by
  have hs := filed_run plate shortName fullName cs
  generalize hrun : (Store.new plate shortName fullName).run cs = s at hs
  have hascending : ((s.validTiles level region first last atLeast).map
      Tile.Header.coordinate).Pairwise (· < ·) := hs.pairwise_coordinate_validTiles
  constructor
  case once =>
    intro c hc
    obtain ⟨header, hmem⟩ := exists_mem_listing hc
    -- the tiles ascend strictly, so none comes twice
    have hnodup := hascending.imp KeyOrder.ne_of_lt
    refine Nat.le_antisymm (List.nodup_iff_count.1 hnodup c) (List.count_pos_iff.2 ?_)
    rw [hs.map_coordinate_validTiles]
    exact List.mem_map_of_mem hmem
  case only => exact fun header h => (hs.mem_validTiles_iff.1 h).1
  case ascending =>
    refine (List.pairwise_map.1 hascending).imp_of_mem fun {a b} ha hb hlt => ?_
    -- both tiles are at the level that was asked for, so columns and rows decide
    have hlevel := (hs.mem_validTiles_iff.1 ha).1.atLevel.trans
      (hs.mem_validTiles_iff.1 hb).1.atLevel.symm
    exact col_row_lt_of_lt hlt hlevel
  case newest =>
    intro header h
    obtain ⟨-, e, he, hheader, hlast⟩ := hs.mem_validTiles_iff.1 h
    rw [← hrun, kept?_run] at he
    obtain ⟨u, hu, rfl⟩ := Option.map_eq_some_iff.1 he
    exact ⟨u, hlast, hu, hheader⟩
  case dated =>
    intro header h
    obtain ⟨-, e, -, -, hlast⟩ := hs.mem_validTiles_iff.1 h
    obtain ⟨hfirst, hlast, -⟩ := mem_multiRead_iff.1 (List.mem_of_getLast? hlast)
    exact ⟨hfirst, hlast⟩

end TileIndex.Store
