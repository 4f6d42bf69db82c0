import Mathlib.Data.Int.LeastGreatest
import TileIndex.Proofs.Store.Log

/-!
# The number of levels

A store counts levels down to the deepest one that a tile was written at. It looks at the tiles that
have a history and not at the transactions that wrote them, so a level at which every record is
hidden counts as well. What reads can see never needs more levels than are counted, and it can need
fewer.

## Main statements

- `Store.counts_iff`: a number of levels as the greatest of zero and what each level counts for.
- `Store.counts_reaches`: levels are counted down to the deepest one with a tile.
- `Store.not_forall_counts_shows`: levels are not counted down to the deepest one that reads can
  see.
- `Store.numLevels_run`: how the number of levels relates to what reads can see.
-/

namespace TileIndex.Store

/-! ## What a level counts for -/

/-- What a level counts for, in unbounded integers: one more, but no less than zero and no more than
    there is. -/
theorem toInt_levelsDownTo (l : Int32) :
    (levelsDownTo l).toInt = min (max 0 (1 + l.toInt)) Int32.maxValue.toInt := by
  have hlo := l.le_toInt
  have hhi := l.toInt_lt
  have hmax : Int32.maxValue.toInt = 2 ^ 31 - 1 := Int32.toInt_maxValue
  have hzero : (0 : Int32).toInt = 0 := rfl
  unfold levelsDownTo
  split
  · rename_i hneg
    rw [Int32.lt_iff_toInt_lt] at hneg
    omega
  · rename_i hneg
    rw [Int32.lt_iff_toInt_lt] at hneg
    split
    · -- the greatest number stands for itself and for what would be one more
      rename_i heq
      rw [heq]
      omega
    · rename_i hne
      have hlt : l.toInt ≠ Int32.maxValue.toInt := fun e => hne (Int32.toInt_inj.1 e)
      have hnext : successor? l = some (l + 1) := if_neg hne
      rw [toInt_of_successor? hnext]
      omega

/-- A deeper level counts for no less. -/
theorem levelsDownTo_le {l k : Int32} (h : l ≤ k) : levelsDownTo l ≤ levelsDownTo k := by
  rw [Int32.le_iff_toInt_le] at h
  rw [Int32.le_iff_toInt_le, toInt_levelsDownTo, toInt_levelsDownTo]
  omega

theorem levelsDownTo_of_neg {l : Int32} (h : l < 0) : levelsDownTo l = 0 := if_pos h

theorem zero_le_levelsDownTo (l : Int32) : 0 ≤ levelsDownTo l := by
  have hzero : (0 : Int32).toInt = 0 := rfl
  have hmax : Int32.maxValue.toInt = 2 ^ 31 - 1 := Int32.toInt_maxValue
  rw [Int32.le_iff_toInt_le, toInt_levelsDownTo]
  omega

/-- A level that is not negative counts for something. -/
theorem levelsDownTo_pos {l : Int32} (h : 0 ≤ l) : 0 < levelsDownTo l := by
  have hzero : (0 : Int32).toInt = 0 := rfl
  have hmax : Int32.maxValue.toInt = 2 ^ 31 - 1 := Int32.toInt_maxValue
  rw [Int32.le_iff_toInt_le] at h
  rw [Int32.lt_iff_toInt_lt, toInt_levelsDownTo]
  omega

/-! ## Counting levels -/

/-- A number of levels is that of a pyramid with the given levels: one more than the deepest in
    unbounded integers, but no less than zero and no more than the greatest 32-bit number, and zero
    if there are no levels. -/
structure Counts (levels : Int32 → Prop) (n : Int32) : Prop where
  empty : (∀ l, ¬ levels l) → n = 0
  deepest : ∀ l, levels l → (∀ k, levels k → k ≤ l) →
    n.toInt = min (max 0 (1 + l.toInt)) Int32.maxValue.toInt

variable {levels : Int32 → Prop} {n : Int32}

/-- Levels have a deepest one, as they are bounded. -/
theorem exists_deepest {l : Int32} (h : levels l) : ∃ d, levels d ∧ ∀ k, levels k → k ≤ d := by
  -- as integers the levels are bounded, so there is a greatest
  obtain ⟨z, ⟨d, hd, rfl⟩, hz⟩ := Int.exists_greatest_of_bdd
    (P := fun z => ∃ k, levels k ∧ k.toInt = z)
    ⟨Int32.maxValue.toInt, fun z ⟨k, _, hk⟩ => hk ▸ Int32.le_iff_toInt_le.1 k.le_maxValue⟩
    ⟨l.toInt, l, h, rfl⟩
  exact ⟨d, hd, fun k hk => Int32.le_iff_toInt_le.2 (hz k.toInt ⟨k, hk, rfl⟩)⟩

/-- A number of levels is the greatest of zero and what each level counts for. -/
theorem counts_iff : Counts levels n ↔
    0 ≤ n ∧ (∀ l, levels l → levelsDownTo l ≤ n) ∧ (n = 0 ∨ ∃ l, levels l ∧ n = levelsDownTo l) := by
  constructor
  · intro h
    by_cases hsome : ∃ l, levels l
    · obtain ⟨l, hl⟩ := hsome
      obtain ⟨d, hd, hdeepest⟩ := exists_deepest hl
      obtain rfl : n = levelsDownTo d :=
        Int32.toInt_inj.1 ((h.deepest d hd hdeepest).trans (toInt_levelsDownTo d).symm)
      exact ⟨zero_le_levelsDownTo d, fun k hk => levelsDownTo_le (hdeepest k hk), .inr ⟨d, hd, rfl⟩⟩
    · -- there are no levels
      obtain rfl := h.empty fun l hl => hsome ⟨l, hl⟩
      exact ⟨Int32.le_refl 0, fun l hl => absurd ⟨l, hl⟩ hsome, .inl rfl⟩
  · rintro ⟨hpos, habove, hattained⟩
    constructor
    case empty =>
      intro hnone
      exact hattained.resolve_right fun ⟨l, hl, _⟩ => hnone l hl
    case deepest =>
      intro d hd hdeepest
      rw [← toInt_levelsDownTo, Int32.toInt_inj]
      refine Int32.le_antisymm ?_ (habove d hd)
      -- what is attained is no more than what the deepest level counts for
      rcases hattained with rfl | ⟨l, hl, rfl⟩
      · exact zero_le_levelsDownTo d
      · exact levelsDownTo_le (hdeepest l hl)

/-! ## Levels with tiles -/

/-- A maximum over a list is what it started from, or the value of an element. -/
theorem foldl_max_cases {α : Type} (f : α → Int32) (l : List α) (a : Int32) :
    l.foldl (fun n x => max n (f x)) a = a ∨ ∃ x ∈ l, l.foldl (fun n x => max n (f x)) a = f x := by
  -- by induction on the list, with the greatest value so far
  induction l generalizing a with
  | nil => exact .inl rfl
  | cons y l ih =>
    rw [List.foldl_cons]
    rcases ih (max a (f y)) with hinit | ⟨x, hx, hfold⟩
    · rcases max_cases a (f y) with ⟨e, -⟩ | ⟨e, -⟩
      · exact .inl (hinit.trans e)
      · exact .inr ⟨y, List.mem_cons_self .., hinit.trans e⟩
    · exact .inr ⟨x, List.mem_cons_of_mem _ hx, hfold⟩

/-- It is no less than either. -/
theorem le_foldl_max {α : Type} (f : α → Int32) (l : List α) (a : Int32) :
    a ≤ l.foldl (fun n x => max n (f x)) a ∧ ∀ x ∈ l, f x ≤ l.foldl (fun n x => max n (f x)) a := by
  induction l generalizing a with
  | nil => exact ⟨Int32.le_refl a, by simp⟩
  | cons y l ih =>
    rw [List.foldl_cons]
    obtain ⟨hinit, hmem⟩ := ih (max a (f y))
    refine ⟨Int32.le_trans (le_max_left ..) hinit, fun x hx => ?_⟩
    rcases List.mem_cons.1 hx with rfl | hx
    · exact Int32.le_trans (le_max_right ..) hinit
    · exact hmem x hx

variable {s : Store}

/-- Whether a tile has a history at a level. -/
def Reaches (s : Store) (l : Int32) : Prop := ∃ c ∈ s.tiles.keys, c.level = l

/-- Levels are counted down to the deepest one with a tile. -/
theorem counts_reaches (s : Store) : Counts s.Reaches s.numLevels := by
  rw [counts_iff, numLevels]
  obtain ⟨hpos, habove⟩ := le_foldl_max (fun c : Tile.Coordinate => levelsDownTo c.level) s.tiles.keys 0
  refine ⟨hpos, ?_, ?_⟩
  · rintro l ⟨c, hc, rfl⟩
    exact habove c hc
  · rcases foldl_max_cases (fun c : Tile.Coordinate => levelsDownTo c.level) s.tiles.keys 0 with
      hzero | ⟨c, hc, hn⟩
    · exact .inl hzero
    · exact .inr ⟨c.level, ⟨c, hc, rfl⟩, hn⟩

/-! ## What reads can see -/

/-- Whether reads can see a record at a level. -/
def Shows (s : Store) (l : Int32) : Prop :=
  ∃ c : Tile.Coordinate, c.level = l ∧ s.multiRead c Int32.minValue Int32.maxValue ≠ []

/-- What reads can see was written. -/
theorem Shows.reaches {l : Int32} (h : s.Shows l) : s.Reaches l := by
  obtain ⟨c, rfl, hne⟩ := h
  obtain ⟨⟨t, r⟩, hmem⟩ := List.exists_mem_of_ne_nil _ hne
  obtain ⟨-, -, -, e, he, -⟩ := mem_multiRead_iff.1 hmem
  -- what is kept is kept in the history of its tile
  obtain ⟨m, hm, -⟩ := Option.bind_eq_some_iff.1 he
  exact ⟨c, SortedMap.contains_iff_mem_keys.1 (Option.isSome_iff_exists.2 ⟨m, hm⟩), rfl⟩

theorem le_numLevels_of_counts_shows (h : Counts s.Shows n) : n ≤ s.numLevels := by
  obtain ⟨hpos, habove, -⟩ := counts_iff.1 s.counts_reaches
  obtain ⟨-, -, rfl | ⟨l, hl, rfl⟩⟩ := counts_iff.1 h
  · exact hpos
  · exact habove l hl.reaches

/-- Levels are counted down to the deepest one that reads can see exactly if none with a tile counts
    for more than all of these. -/
theorem counts_shows_iff : Counts s.Shows s.numLevels ↔
    ∀ l, s.Reaches l → 0 ≤ l → ∃ k, s.Shows k ∧ levelsDownTo l ≤ levelsDownTo k := by
  obtain ⟨hpos, habove, hattained⟩ := counts_iff.1 s.counts_reaches
  constructor
  · intro h l hl hlevel
    have hle := habove l hl
    obtain ⟨-, -, hzero | ⟨k, hk, hn⟩⟩ := counts_iff.1 h
    · -- the level itself counts for more than nothing
      rw [hzero] at hle
      exact absurd (Int32.lt_of_lt_of_le (levelsDownTo_pos hlevel) hle) Int32.lt_irrefl
    · exact ⟨k, hk, hn ▸ hle⟩
  · intro h
    refine counts_iff.2 ⟨hpos, fun k hk => habove k hk.reaches, ?_⟩
    -- the number that is counted is attained at a written level
    rcases hattained with hzero | ⟨l, hl, hn⟩
    · exact .inl hzero
    · by_cases hlevel : 0 ≤ l
      · obtain ⟨k, hk, hle⟩ := h l hl hlevel
        exact .inr ⟨k, hk, Int32.le_antisymm (hn ▸ hle) (habove k hk.reaches)⟩
      · exact .inl (hn.trans (levelsDownTo_of_neg (Int32.not_le.1 hlevel)))

/-! ## Runs -/

/-- After a run there are tiles at the levels that were written. -/
theorem reaches_run (header : Plate.Header) (shortName fullName : String) (cs : List Command)
    (l : Int32) : ((Store.new header shortName fullName).run cs).Reaches l ↔
      ∃ u ∈ writes cs, u.header.level = l := by
  -- a tile has a history exactly if it was written
  have hkeys : ∀ c, c ∈ ((Store.new header shortName fullName).run cs).tiles.keys ↔
      ∃ u ∈ writes cs, u.header.coordinate = c := by
    intro c
    rw [← SortedMap.contains_iff_mem_keys, tiles_run, contains_foldl_apply]
    simp [Store.new, SortedMap.contains]
  constructor
  · rintro ⟨c, hc, rfl⟩
    obtain ⟨u, hu, rfl⟩ := (hkeys c).1 hc
    exact ⟨u, hu, rfl⟩
  · rintro ⟨u, hu, rfl⟩
    exact ⟨u.header.coordinate, (hkeys _).2 ⟨u, hu, rfl⟩, rfl⟩

/-- A transaction writes one tile at the sixth level and fails. -/
def abandoned : List Command :=
  [.begin "draft" none, .apply ⟨1, ⟨0, 0, 5, 1, "png"⟩, .stored 0 0 9⟩, .fail 1]

/-- Reads see nothing of the run. -/
theorem not_shows_abandoned (l : Int32) :
    ¬ ((Store.new (.unassigned 256 "png" .rgba .uint8) "mars" "/plates/mars").run abandoned).Shows l := by
  rintro ⟨c, rfl, hne⟩
  obtain ⟨⟨t, r⟩, hmem⟩ := List.exists_mem_of_ne_nil _ hne
  obtain ⟨-, -, hv, e, he, -⟩ := mem_multiRead_iff.1 hmem
  rw [kept?_run] at he
  obtain ⟨u, hu, -⟩ := Option.map_eq_some_iff.1 he
  -- the one update of the run is under the transaction that has failed
  obtain ⟨hwritten, -, rfl⟩ := mem_of_latest? hu
  obtain rfl := List.mem_singleton.1 hwritten
  exact absurd hv (by decide)

/-- Levels are not counted down to the deepest one that reads can see: a level that only a failed
    transaction has written counts as well. -/
theorem not_forall_counts_shows :
    let start := Store.new (.unassigned 256 "png" .rgba .uint8) "mars" "/plates/mars"
    ¬ ∀ cs, Counts (start.run cs).Shows (start.run cs).numLevels := by
  intro start h
  have hzero : (start.run abandoned).numLevels = 0 := (h abandoned).empty not_shows_abandoned
  have hsix : (start.run abandoned).numLevels = 6 := rfl
  exact absurd (hsix.symm.trans hzero) (by decide)

/-- **Levels are counted down to the deepest one that was written.** After any run of a new plate,
    whatever became of the transactions that wrote. This is never less than what reads can see would
    need, and it is just that exactly if no written level counts for more than all levels that reads
    can see. -/
theorem numLevels_run (header : Plate.Header) (shortName fullName : String) (cs : List Command) :
    let s := (Store.new header shortName fullName).run cs
    Counts (fun l => ∃ u ∈ writes cs, u.header.level = l) s.numLevels ∧
      (∀ n, Counts s.Shows n → n ≤ s.numLevels) ∧
      (Counts s.Shows s.numLevels ↔ ∀ u ∈ writes cs, 0 ≤ u.header.level →
        ∃ k, s.Shows k ∧ levelsDownTo u.header.level ≤ levelsDownTo k) := by
  intro s
  have hreaches : s.Reaches = fun l => ∃ u ∈ writes cs, u.header.level = l :=
    funext fun l => propext (reaches_run header shortName fullName cs l)
  refine ⟨hreaches ▸ s.counts_reaches, fun n h => le_numLevels_of_counts_shows h, ?_⟩
  rw [counts_shows_iff, hreaches]
  constructor
  · intro h u hu
    exact h _ ⟨u, hu, rfl⟩
  · rintro h l ⟨u, hu, rfl⟩
    exact h u hu

end TileIndex.Store
