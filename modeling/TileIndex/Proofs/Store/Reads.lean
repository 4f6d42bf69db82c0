import TileIndex.Proofs.Store.Queries

/-!
# Single reads and ranges of versions

A single read searches the history of a tile from its newest entry on, and a range read goes through
the history from its oldest. Both pass over the same entries, so a single read returns the last
record of the range that ends where the read is directed to: the range of all versions up to there,
or the one version exactly there.

## Main statements

- `Store.getLast?_multiRead_oldest`: the last record of a range is that of the entry that a read
  finds.
- `Store.read_eq_ok_iff`: what a read returns, and when.
- `Store.readsLast`: single reads and range reads agree.
-/

namespace TileIndex.Store

variable {s : Store} {c : Tile.Coordinate} {t : TransactionId} {exact : Bool} {r : Record}

/-! ## Ranges that end where a read is directed to -/

theorem getLast?_multiRead (s : Store) (c : Tile.Coordinate) (first last : TransactionId) :
    (s.multiRead c first last).getLast? =
      (s.within first last (s.history c)).getLast?.map fun (x, e) => (x, e.record) := by
  rw [multiRead, List.getLast?_map]

/-- The range that ends where a read is directed to ends with the record of the entry that the read
    finds. -/
theorem getLast?_multiRead_oldest (s : Store) (c : Tile.Coordinate) (t : TransactionId)
    (exact : Bool) : (s.multiRead c (oldest t exact) t).getLast? =
      (s.entryAt? c t exact).map fun (x, e) => (x, e.record) := by
  rw [getLast?_multiRead, entryAt?_eq_getLast?]

/-- A read returns the last record of the range that ends where it is directed to. -/
theorem read_eq_ok_iff : s.read c t exact = .ok r ↔
    ∃ x, (s.multiRead c (oldest (s.target t) exact) (s.target t)).getLast? = some (x, r) := by
  -- both sides speak of the one entry that the read finds, or of none
  rw [getLast?_multiRead_oldest, Store.read]
  cases s.entryAt? c (s.target t) exact with
  | none => simp
  | some found => simp

/-- A read that returns nothing says which tile has no record, and where the read was directed to. -/
theorem eq_noRecord_of_read {refusal : Refusal} (h : s.read c t exact = .error refusal) :
    refusal = .noRecord c (s.target t) := by
  unfold Store.read at h
  split at h
  · simp at h
  · exact (Except.error.inj h).symm

/-- A read returns a record exactly if that range is not empty. -/
theorem exists_read_iff : (∃ r, s.read c t exact = .ok r) ↔
    s.multiRead c (oldest (s.target t) exact) (s.target t) ≠ [] := by
  simp only [read_eq_ok_iff]
  constructor
  · rintro ⟨r, x, hlast⟩ hnil
    simp [hnil] at hlast
  · -- a list with an entry has a last one
    intro hne
    exact ⟨_, _, List.getLast?_eq_some_getLast hne⟩

/-- The range of one version has at most one record. -/
theorem multiRead_self_eq_singleton {p : TransactionId × Record} (h : p ∈ s.multiRead c t t) :
    s.multiRead c t t = [p] := by
  have hkey : ∀ q ∈ s.multiRead c t t, q.1 = t := fun q hq =>
    Int32.le_antisymm (mem_multiRead_iff.1 hq).2.1 (mem_multiRead_iff.1 hq).1
  have hsorted : (s.multiRead c t t).Pairwise (·.1 < ·.1) :=
    List.pairwise_map.2 (s.pairwise_within c t t)
  revert h hkey hsorted
  rcases s.multiRead c t t with _ | ⟨a, _ | ⟨b, rest⟩⟩
  · simp
  · intro h _ _
    rw [List.mem_singleton.1 h]
  · -- two records of one version would stand in strict order
    intro _ hkey hsorted
    have hlt : a.1 < b.1 := (List.pairwise_cons.1 hsorted).1 b (List.mem_cons_self ..)
    rw [hkey a (by simp), hkey b (by simp)] at hlt
    exact absurd hlt Int32.lt_irrefl

/-! ## Agreement -/

/-- How the single reads of a tile that are directed to a transaction agree with its range reads. -/
structure ReadsLast (s : Store) (c : Tile.Coordinate) (t : TransactionId) : Prop where
  /-- A read at or before a transaction finds a record if there is one in the range up to it. -/
  found : (∃ r, s.read c t false = .ok r) ↔ s.multiRead c Int32.minValue (s.target t) ≠ []
  /-- What it finds is the last record of that range. -/
  newest : ∀ x r, (s.multiRead c Int32.minValue (s.target t)).getLast? = some (x, r) →
    s.read c t false = .ok r
  /-- A read exactly at a transaction finds a record if there is one in the range of it alone. -/
  foundAt : (∃ r, s.read c t true = .ok r) ↔ s.multiRead c (s.target t) (s.target t) ≠ []
  /-- What it finds is the only record of that range. -/
  only : ∀ p ∈ s.multiRead c (s.target t) (s.target t),
    s.multiRead c (s.target t) (s.target t) = [p] ∧ s.read c t true = .ok p.2
  /-- A read that finds no record is refused as one of a tile that is not there. -/
  missing : ∀ exact refusal, s.read c t exact = .error refusal →
    refusal = .noRecord c (s.target t) ∧ refusal.kind = .tileNotFound

/-- **Single reads agree with range reads.** In every store, whatever was written to it and
    whichever of its transactions have failed, for every tile and every transaction, a negative one
    being the cursor. -/
theorem readsLast (s : Store) (c : Tile.Coordinate) (t : TransactionId) : ReadsLast s c t where
  found := exists_read_iff
  newest x r hlast := read_eq_ok_iff.2 ⟨x, hlast⟩
  foundAt := exists_read_iff
  only p hp := by
    have hsingle := multiRead_self_eq_singleton hp
    refine ⟨hsingle, read_eq_ok_iff.2 ⟨p.1, ?_⟩⟩
    show (s.multiRead c (s.target t) (s.target t)).getLast? = some p
    rw [hsingle]
    rfl
  missing exact refusal h := by
    obtain rfl := eq_noRecord_of_read h
    exact ⟨rfl, rfl⟩

/-- The newest version up to the third failed, and the cursor is still at its start. -/
example :
    let s := (Store.new (.unassigned 256 "png" .rgba .uint8) "mars" "/plates/mars").run
      [.begin "base" none, .begin "patch" none, .apply ⟨1, ⟨0, 0, 0, 1, "png"⟩, .stored 0 0 9⟩,
        .apply ⟨1, ⟨0, 0, 0, 2, "png"⟩, .stored 0 9 9⟩, .fail 2]
    s.read ⟨0, 0, 0⟩ 3 false = .ok (.stored 0 0 9) ∧
      s.read ⟨0, 0, 0⟩ 2 true = .error (.noRecord ⟨0, 0, 0⟩ 2) ∧
      s.read ⟨0, 0, 0⟩ (-1) false = .error (.noRecord ⟨0, 0, 0⟩ 0) :=
  ⟨rfl, rfl, rfl⟩

end TileIndex.Store
