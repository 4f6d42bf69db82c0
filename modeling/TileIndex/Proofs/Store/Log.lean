import TileIndex.Proofs.Store.Commands

/-!
# The log behind a store

A store keeps, for every tile and every transaction, what the last update about the two has written.
Nothing else that is done to a store changes this, so the updates of a run, in the order in which
they were written, say what every range of versions holds.

## Main statements

- `Store.tiles_run`: the tiles after a run are those after its updates alone.
- `Store.kept?_run`: what is kept for a tile under a transaction is the last update about them.
- `Store.multiRead_run`: a range read lists the last updates of the transactions that have not
  failed.
-/

namespace TileIndex

/-! ## Updates about a tile -/

/-- Whether an update is about a tile under a transaction. -/
def Update.isAbout (u : Update) (c : Tile.Coordinate) (t : TransactionId) : Bool :=
  u.header.coordinate = c && u.header.transaction = t

/-- The last update about a tile under a transaction. -/
def latest? (us : List Update) (c : Tile.Coordinate) (t : TransactionId) : Option Update :=
  (us.filter (·.isAbout c t)).getLast?

/-- What a store keeps of an update. -/
def Update.entry (u : Update) : TileEntry := ⟨u.header, u.record⟩

/-- The last update of two batches is that of the second, if it has one. -/
theorem latest?_append (us ws : List Update) (c : Tile.Coordinate) (t : TransactionId) :
    latest? (us ++ ws) c t = (latest? ws c t).or (latest? us c t) := by
  rw [latest?, List.filter_append, List.getLast?_append]
  rfl

/-- A single update is the last one about what it is about. -/
theorem latest?_singleton (u : Update) (c : Tile.Coordinate) (t : TransactionId) :
    latest? [u] c t = if u.isAbout c t then some u else none := by
  unfold latest?
  by_cases h : u.isAbout c t = true
  · simp [h]
  · simp [h]

theorem mem_of_latest? {us : List Update} {u : Update} {c : Tile.Coordinate} {t : TransactionId}
    (h : latest? us c t = some u) : u ∈ us ∧ u.header.coordinate = c ∧ u.header.transaction = t := by
  obtain ⟨hu, habout⟩ := List.mem_filter.1 (List.mem_of_getLast? h)
  exact ⟨hu, by simpa [Update.isAbout] using habout⟩

namespace Store

/-! ## What is kept -/

/-- What is kept for a tile under a transaction. -/
def kept? (s : Store) (c : Tile.Coordinate) (t : TransactionId) : Option TileEntry :=
  (s.tiles.find? c).bind (·.find? t)

theorem kept?_congr {s s' : Store} (h : s.tiles = s'.tiles) (c : Tile.Coordinate)
    (t : TransactionId) : s.kept? c t = s'.kept? c t := by
  rw [kept?, kept?, h]

/-- An update is kept, in place of what was kept for its tile under its transaction. -/
theorem kept?_apply (s : Store) (u : Update) (c : Tile.Coordinate) (t : TransactionId) :
    (s.apply u).kept? c t = if u.isAbout c t then some u.entry else s.kept? c t := by
  unfold kept? apply Update.isAbout
  simp only [SortedMap.find?_insert, Bool.and_eq_true, decide_eq_true_eq]
  -- the tile of the update, or another
  by_cases hc : c = u.header.coordinate
  · subst hc
    -- the history of the tile is a new one, or one that was kept before
    simp only [if_true, Option.bind_some, true_and, SortedMap.find?_insert]
    by_cases ht : t = u.header.transaction
    · simp [ht, Update.entry]
    · rw [if_neg ht, if_neg (Ne.symm ht)]
      cases s.tiles.find? u.header.coordinate <;> rfl
  · simp [hc, Ne.symm hc]

/-- A batch changes tiles and nothing else. -/
theorem foldl_apply_eq (s : Store) (us : List Update) :
    us.foldl apply s = { s with tiles := (us.foldl apply s).tiles } := by
  induction us generalizing s with
  | nil => rfl
  | cons u us ih => exact ih (s.apply u)

/-- After a batch the last update is kept, or what was kept before if there is none. -/
theorem kept?_foldl_apply (s : Store) (us : List Update) (c : Tile.Coordinate)
    (t : TransactionId) :
    (us.foldl apply s).kept? c t = ((latest? us c t).map Update.entry).or (s.kept? c t) := by
  -- by induction on the batch: its first update is older than all the others
  induction us generalizing s with
  | nil => simp [latest?]
  | cons u us ih =>
    rw [List.foldl_cons, ih, kept?_apply, ← List.singleton_append, latest?_append,
      latest?_singleton]
    -- a later update about the two hides this one
    cases latest? us c t with
    | some w => rfl
    | none => by_cases hu : u.isAbout c t = true <;> simp [hu]

/-- A tile has a history after a batch if it had one before or if an update of the batch is about
    it. -/
theorem contains_foldl_apply {s : Store} {us : List Update} {c : Tile.Coordinate} :
    (us.foldl apply s).tiles.contains c = true ↔
      s.tiles.contains c = true ∨ ∃ u ∈ us, u.header.coordinate = c := by
  induction us generalizing s with
  | nil => simp
  | cons u us ih =>
    -- the first update gives its tile a history
    have htile : (s.apply u).tiles.contains c = true ↔
        u.header.coordinate = c ∨ s.tiles.contains c = true := by
      rw [apply, SortedMap.contains_insert, Bool.or_eq_true, decide_eq_true_eq]
      exact or_congr_left eq_comm
    rw [List.foldl_cons, ih, htile, or_assoc, or_left_comm]
    simp

/-- A history has exactly what is kept for its tile. -/
theorem mem_history_iff {s : Store} {c : Tile.Coordinate} {t : TransactionId} {e : TileEntry} :
    (t, e) ∈ s.history c ↔ s.kept? c t = some e := by
  unfold history kept?
  cases s.tiles.find? c with
  | none => simp
  | some h => exact SortedMap.find?_eq_some_iff.symm

/-- A history ascends. -/
theorem pairwise_history (s : Store) (c : Tile.Coordinate) :
    (s.history c).Pairwise (·.1 < ·.1) := by
  unfold history
  cases s.tiles.find? c with
  | none => exact List.Pairwise.nil
  | some h => exact h.sorted

/-! ## Runs -/

/-- The updates that the commands of a run write, in order. -/
def writes (cs : List Command) : List Update :=
  cs.filterMap fun
    | .apply u => some u
    | _ => none

theorem tiles_foldl_congr {s s' : Store} (h : s.tiles = s'.tiles) (us : List Update) :
    (us.foldl apply s).tiles = (us.foldl apply s').tiles := by
  induction us generalizing s s' with
  | nil => exact h
  | cons u us ih => exact ih (by simp only [apply, h])

/-- A command that is no write leaves the tiles alone. -/
theorem tiles_perform (s : Store) {c : Command} (hc : ∀ u, c ≠ .apply u) :
    (s.perform c).2.tiles = s.tiles := by
  refine perform_induction (P := fun s' => s'.tiles = s.tiles) s c rfl fun he => ?_
  exact he.tiles hc

/-- The tiles after a run are those that its updates lead to by themselves. -/
theorem tiles_run (s : Store) (cs : List Command) :
    (s.run cs).tiles = ((writes cs).foldl apply s).tiles := by
  induction cs generalizing s with
  | nil => rfl
  | cons c cs ih =>
    refine (ih _).trans ?_
    -- a write goes the same way in both runs, and nothing else touches a tile
    cases c with
    | apply u => rfl
    | _ => exact tiles_foldl_congr (s.tiles_perform (by nofun)) _

/-- **What is kept for a tile under a transaction is the last update about them.** -/
theorem kept?_run (header : Plate.Header) (shortName fullName : String) (cs : List Command)
    (c : Tile.Coordinate) (t : TransactionId) :
    ((Store.new header shortName fullName).run cs).kept? c t =
      (latest? (writes cs) c t).map Update.entry := by
  rw [kept?_congr (tiles_run _ cs), kept?_foldl_apply]
  exact Option.or_none

/-! ## Ranges of versions -/

theorem visible_iff {s : Store} {t : TransactionId} :
    s.visible t = true ↔ s.transactionState? t ≠ some .failed := by
  simp [visible]

/-- A range has exactly what is kept under the visible transactions in it. -/
theorem mem_within_iff {s : Store} {c : Tile.Coordinate} {first last t : TransactionId}
    {e : TileEntry} : (t, e) ∈ s.within first last (s.history c) ↔
      first ≤ t ∧ t ≤ last ∧ s.visible t = true ∧ s.kept? c t = some e := by
  rw [within, List.mem_filter, mem_history_iff]
  simp only [Bool.and_eq_true, decide_eq_true_eq]
  constructor
  · rintro ⟨he, ⟨hfirst, hlast⟩, hv⟩
    exact ⟨hfirst, hlast, hv, he⟩
  · rintro ⟨hfirst, hlast, hv, he⟩
    exact ⟨he, ⟨hfirst, hlast⟩, hv⟩

theorem pairwise_within (s : Store) (c : Tile.Coordinate) (first last : TransactionId) :
    (s.within first last (s.history c)).Pairwise (·.1 < ·.1) :=
  (s.pairwise_history c).filter _

/-- A range read lists exactly the records of the range. -/
theorem mem_multiRead_iff {s : Store} {c : Tile.Coordinate} {first last t : TransactionId}
    {r : Record} : (t, r) ∈ s.multiRead c first last ↔
      first ≤ t ∧ t ≤ last ∧ s.visible t = true ∧ ∃ e, s.kept? c t = some e ∧ e.record = r := by
  rw [multiRead, List.mem_map]
  constructor
  · rintro ⟨⟨t', e⟩, he, hr⟩
    obtain ⟨rfl, rfl⟩ := Prod.mk.inj hr
    obtain ⟨hfirst, hlast, hv, he⟩ := mem_within_iff.1 he
    exact ⟨hfirst, hlast, hv, e, he, rfl⟩
  · rintro ⟨hfirst, hlast, hv, e, he, rfl⟩
    exact ⟨(t, e), mem_within_iff.2 ⟨hfirst, hlast, hv, he⟩, rfl⟩

/-- **A store is a versioned log.** Whatever is done to a new plate, granted or refused, a range
    read lists in strictly ascending order exactly the transactions of the range that have not
    failed and that some update was written under, each with the record of the last such update. -/
theorem multiRead_run (header : Plate.Header) (shortName fullName : String) (cs : List Command)
    (c : Tile.Coordinate) (first last : TransactionId) :
    let s := (Store.new header shortName fullName).run cs
    (s.multiRead c first last).Pairwise (·.1 < ·.1) ∧
      (∀ t r, (t, r) ∈ s.multiRead c first last ↔
        first ≤ t ∧ t ≤ last ∧ (∃ u, latest? (writes cs) c t = some u ∧ u.record = r) ∧
          s.transactionState? t ≠ some .failed) ∧
      (last < first → s.multiRead c first last = []) := by
  intro s
  refine ⟨?ascending, fun t r => ?members, fun hempty => ?inverted⟩
  case ascending =>
    rw [multiRead, List.pairwise_map]
    exact s.pairwise_within c first last
  case members =>
    -- the record that is kept is that of the last update
    have hentry : (∃ e, s.kept? c t = some e ∧ e.record = r) ↔
        ∃ u, latest? (writes cs) c t = some u ∧ u.record = r := by
      rw [kept?_run]
      constructor
      · rintro ⟨e, he, rfl⟩
        obtain ⟨u, hu, rfl⟩ := Option.map_eq_some_iff.1 he
        exact ⟨u, hu, rfl⟩
      · rintro ⟨u, hu, rfl⟩
        exact ⟨u.entry, by rw [hu]; rfl, rfl⟩
    rw [mem_multiRead_iff, hentry, visible_iff]
    constructor
    · rintro ⟨hfirst, hlast, hv, hu⟩
      exact ⟨hfirst, hlast, hu, hv⟩
    · rintro ⟨hfirst, hlast, hu, hv⟩
      exact ⟨hfirst, hlast, hv, hu⟩
  case inverted =>
    refine List.eq_nil_iff_forall_not_mem.2 fun ⟨t, r⟩ hmem => ?_
    obtain ⟨hfirst, hlast, -⟩ := mem_multiRead_iff.1 hmem
    exact Int32.lt_irrefl (Int32.lt_of_lt_of_le hempty (Int32.le_trans hfirst hlast))

end Store

end TileIndex
