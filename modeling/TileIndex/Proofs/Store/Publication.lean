import TileIndex.Proofs.Store.Reads

/-!
# What default reads see

The cursor is a watermark. It stands at a transaction that was completed, and a read directed to it
sees every transaction at or below it that has not failed. Of these the one at the cursor is
completed, but one below it can still be active, if another that was begun with a greater identifier
was completed first.

## Main statements

- `Store.exists_write_of_read`: what a read returns was written under a visible transaction.
- `Store.not_forall_read_completed`: a default read can return what an active transaction wrote.
- `Store.published_of_read`: what default reads return was written under a completed transaction, or
  under an active one below the cursor.
-/

namespace TileIndex.Store

variable {s : Store} {cs : List Command} {c : Tile.Coordinate} {t : TransactionId} {exact : Bool}
  {r : Record}

/-! ## What reads return -/

/-- What a read returns is kept under a transaction that is visible. -/
theorem entry_of_read (h : s.read c t exact = .ok r) :
    ∃ x e, s.kept? c x = some e ∧ e.record = r ∧ s.visible x = true ∧ x ≤ s.target t ∧
      (exact = true → x = s.target t) := by
  obtain ⟨x, hlast⟩ := read_eq_ok_iff.1 h
  obtain ⟨hfirst, hle, hv, e, he, hr⟩ := mem_multiRead_iff.1 (List.mem_of_getLast? hlast)
  refine ⟨x, e, he, hr, hv, hle, fun hexact => ?_⟩
  rw [oldest, if_pos hexact] at hfirst
  exact Int32.le_antisymm hle hfirst

theorem mem_of_mem_writes {u : Update} (h : u ∈ writes cs) : .apply u ∈ cs := by
  obtain ⟨command, hmem, hu⟩ := List.mem_filterMap.1 h
  cases command with
  | apply w => exact Option.some.inj hu ▸ hmem
  | _ => simp at hu

/-- What a read of a plate returns is the last update about its tile under a transaction that has
    not failed, at or below the one that the read is directed to. -/
theorem exists_write_of_read {header : Plate.Header} {shortName fullName : String}
    (h : ((Store.new header shortName fullName).run cs).read c t exact = .ok r) :
    let s := (Store.new header shortName fullName).run cs
    ∃ x u, latest? (writes cs) c x = some u ∧ u.record = r ∧
      s.transactionState? x ≠ some .failed ∧ x ≤ s.target t ∧ (exact = true → x = s.target t) := by
  intro s
  obtain ⟨x, e, he, hr, hv, hlast, hexact⟩ := entry_of_read h
  -- what a plate keeps of a version is its last update
  rw [kept?_run] at he
  obtain ⟨u, hu, rfl⟩ := Option.map_eq_some_iff.1 he
  exact ⟨x, u, hu, hr, visible_iff.1 hv, hlast, hexact⟩

/-! ## Writers that begin first -/

/-- Every update of a run is written under a transaction that was begun before. -/
def Tagged (s : Store) (cs : List Command) : Prop :=
  ∀ before u after, cs = before ++ .apply u :: after → u.header.transaction ∈ s.issued before

/-- Every update of such a run is under a transaction that the plate still knows afterwards. -/
theorem Tagged.exists_find? (h : Tagged s cs) {u : Update} (hu : u ∈ writes cs) :
    ∃ x, (s.run cs).transactions.find? u.header.transaction = some x := by
  obtain ⟨before, after, hcs⟩ := List.append_of_mem (mem_of_mem_writes hu)
  obtain ⟨x, hx⟩ := exists_find?_of_mem_issued (h before u after hcs)
  -- it was begun before the update, and later commands forget no transaction
  rw [hcs, run_append]
  exact exists_find?_run hx _

/-- Two transactions begin, the first one writes a tile, and the second one is completed before it. -/
def overtaken : List Command :=
  [.begin "first" none, .begin "second" none,
    .apply ⟨1, ⟨0, 0, 0, 1, "png"⟩, .stored 0 0 9⟩, .complete 2 true]

theorem tagged_overtaken (header : Plate.Header) (shortName fullName : String) :
    Tagged (Store.new header shortName fullName) overtaken := by
  intro before u after hcs
  -- only the third command is a write
  rcases before with _ | ⟨a, _ | ⟨b, _ | ⟨d, _ | ⟨e, rest⟩⟩⟩⟩ <;> simp [overtaken] at hcs
  obtain ⟨rfl, rfl, rfl, -⟩ := hcs
  exact List.mem_cons_self ..

theorem read_overtaken :
    ((Store.new (.unassigned 256 "png" .rgba .uint8) "mars" "/plates/mars").run overtaken).read
      ⟨0, 0, 0⟩ cursorTransaction false = .ok (.stored 0 0 9) := rfl

/-- Not every record that a default read returns was written under a transaction that is completed:
    the cursor can pass one that is still active. -/
theorem not_forall_read_completed :
    let start := Store.new (.unassigned 256 "png" .rgba .uint8) "mars" "/plates/mars"
    ¬ ∀ cs c t exact r, Tagged start cs → t < 0 → (start.run cs).read c t exact = .ok r →
      ∃ x u, latest? (writes cs) c x = some u ∧ u.record = r ∧
        (start.run cs).transactionState? x = some .completed := by
  intro start h
  obtain ⟨x, u, hu, -, hstate⟩ := h overtaken ⟨0, 0, 0⟩ cursorTransaction false (.stored 0 0 9)
    (tagged_overtaken _ _ _) (by decide) read_overtaken
  -- the one update of the run is under the first transaction, which is still active
  obtain ⟨hmem, -, rfl⟩ := mem_of_latest? hu
  obtain rfl := List.mem_singleton.1 hmem
  have hactive : (start.run overtaken).transactionState? 1 = some .active := rfl
  cases hactive.symm.trans hstate

/-- **What default reads see.** Let every update of a run be written under a transaction that was
    begun before. A record that a default read then returns was written at or below the cursor,
    under a transaction that is completed or active. An active one lies below the cursor, which
    stands at a completed transaction, unless the cursor has never left zero and the transaction is
    zero itself; so an exact read at a cursor that was moved returns the work of a completed
    transaction. -/
theorem published_of_read (header : Plate.Header) (shortName fullName : String)
    (htagged : Tagged (Store.new header shortName fullName) cs) (ht : t < 0)
    (h : ((Store.new header shortName fullName).run cs).read c t exact = .ok r) :
    let s := (Store.new header shortName fullName).run cs
    ∃ x u, latest? (writes cs) c x = some u ∧ u.record = r ∧ x ≤ s.cursor ∧
      (exact = true → x = s.cursor) ∧
      (s.transactionState? x = some .completed ∨
        s.transactionState? x = some .active ∧
          (x < s.cursor ∧ s.transactionState? s.cursor = some .completed ∨
            x = 0 ∧ s.cursor = 0)) := by
  intro s
  have hs : s.Consistent := (Consistent.new header shortName fullName).run cs
  obtain ⟨x, u, hu, hr, hvisible, hle, hexact⟩ := exists_write_of_read h
  rw [target_of_neg ht] at hle hexact
  refine ⟨x, u, hu, hr, hle, hexact, ?_⟩
  -- the transaction was begun, and it has not failed
  obtain ⟨hmem, -, rfl⟩ := mem_of_latest? hu
  obtain ⟨⟨description, state⟩, hx⟩ := htagged.exists_find? hmem
  have hstate := transactionState?_eq_some_iff.2 ⟨description, hx⟩
  cases state with
  | completed => exact .inl hstate
  | failed => exact absurd hstate hvisible
  | active =>
    refine .inr ⟨hstate, ?_⟩
    rcases hs.published with hzero | hpublished
    · -- nothing lies below zero
      have hpos := (hs.numbered hx).1
      exact .inr ⟨Int32.le_antisymm (hzero ▸ hle) hpos, hzero⟩
    · refine .inl ⟨Int32.lt_of_le_of_ne hle fun heq => ?_, hpublished⟩
      have : TransactionState.completed = .active :=
        Option.some.inj (hpublished.symm.trans (heq ▸ hstate))
      cases this

/-- The cursor has passed the transaction whose work is read. -/
theorem published_of_read_overtaken :
    let start := Store.new (.unassigned 256 "png" .rgba .uint8) "mars" "/plates/mars"
    let s := start.run overtaken
    Tagged start overtaken ∧ cursorTransaction < 0 ∧
      s.read ⟨0, 0, 0⟩ cursorTransaction false = .ok (.stored 0 0 9) ∧
      ∃ x u, latest? (writes overtaken) ⟨0, 0, 0⟩ x = some u ∧ u.record = .stored 0 0 9 ∧
        x ≤ s.cursor ∧ (false = true → x = s.cursor) ∧
        (s.transactionState? x = some .completed ∨
          s.transactionState? x = some .active ∧
            (x < s.cursor ∧ s.transactionState? s.cursor = some .completed ∨
              x = 0 ∧ s.cursor = 0)) :=
  ⟨tagged_overtaken _ _ _, by decide, read_overtaken,
    published_of_read _ _ _ (tagged_overtaken _ _ _) (by decide : cursorTransaction < 0)
      read_overtaken⟩

end TileIndex.Store
