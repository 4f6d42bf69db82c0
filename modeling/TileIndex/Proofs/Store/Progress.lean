import TileIndex.Proofs.Store.Reads
import TileIndex.Proofs.Store.Watermark

/-!
# Default reads move forward

A default read of a tile resolves to the newest version that is visible and not above the cursor.
Versions are never taken away and the cursor never moves back, so a version that a default read
could return can only be lost to a failure of its transaction. As long as no transaction at or below
the cursor is failed, default reads that have found a record go on to find one, and never an older
version.

## Main statements

- `Store.read_eq_ok_iff_resolves`: a default read returns the record of the version it resolves to.
- `Store.Readable.perform`: a command that fails nothing below the cursor loses no readable version.
- `Store.advances_of_failsAbove`: default reads never go back.
-/

namespace TileIndex.Store

variable {s s' : Store} {c : Tile.Coordinate} {t x y : TransactionId} {r : Record}

/-! ## What a default read resolves to -/

/-- Whether a default read of a tile could return what is kept under a transaction. -/
structure Readable (s : Store) (c : Tile.Coordinate) (x : TransactionId) : Prop where
  kept : ∃ e, s.kept? c x = some e
  visible : s.visible x = true
  below : x ≤ s.cursor

/-- A default read of a tile resolves to a transaction and a record: of the transactions that it
    could read the tile under, the greatest, and what is kept there. -/
structure Resolves (s : Store) (c : Tile.Coordinate) (x : TransactionId) (r : Record) : Prop where
  readable : s.Readable c x
  greatest : ∀ y, s.Readable c y → y ≤ x
  record : ∀ e, s.kept? c x = some e → e.record = r

/-- In a list that ascends nothing is greater than the last. -/
theorem le_of_getLast? {α : Type} {l : List (TransactionId × α)} {last : TransactionId × α}
    (h : l.Pairwise (·.1 < ·.1)) (hlast : l.getLast? = some last) : ∀ e ∈ l, e.1 ≤ last.1 := by
  obtain ⟨l, rfl⟩ := List.getLast?_eq_some_iff.1 hlast
  intro e he
  rcases List.mem_append.1 he with he | he
  · exact Int32.le_of_lt ((List.pairwise_append.1 h).2.2 e he last (List.mem_singleton_self last))
  · rw [List.mem_singleton.1 he]
    exact Int32.le_refl _

/-- The entries that a default read looks at are those that are readable. -/
theorem mem_within_cursor_iff {e : TileEntry} :
    (x, e) ∈ s.within Int32.minValue s.cursor (s.history c) ↔
      s.Readable c x ∧ s.kept? c x = some e := by
  rw [mem_within_iff]
  constructor
  · rintro ⟨-, hle, hv, he⟩
    exact ⟨⟨⟨e, he⟩, hv, hle⟩, he⟩
  · rintro ⟨h, he⟩
    exact ⟨Int32.minValue_le x, h.below, h.visible, he⟩

/-- A default read resolves to the last entry of its range. -/
theorem resolves_of_getLast? {e : TileEntry}
    (h : (s.within Int32.minValue s.cursor (s.history c)).getLast? = some (x, e)) :
    s.Resolves c x e.record := by
  obtain ⟨hreadable, he⟩ := mem_within_cursor_iff.1 (List.mem_of_getLast? h)
  refine ⟨hreadable, fun y hy => ?_, fun e' he' => ?_⟩
  · -- whatever is readable is in the range, and the range ascends
    obtain ⟨e', he'⟩ := hy.kept
    exact le_of_getLast? (s.pairwise_within c _ _) h (y, e') (mem_within_cursor_iff.2 ⟨hy, he'⟩)
  · rw [Option.some.inj (he'.symm.trans he)]

/-- If there is anything that a default read could return, it resolves to something no older. -/
theorem Readable.exists_resolves (h : s.Readable c x) : ∃ y r, s.Resolves c y r ∧ x ≤ y := by
  obtain ⟨e, he⟩ := h.kept
  have hmem := mem_within_cursor_iff.2 ⟨h, he⟩
  have hlast := List.getLast?_eq_some_getLast (List.ne_nil_of_mem hmem)
  have hresolves := resolves_of_getLast? hlast
  exact ⟨_, _, hresolves, hresolves.greatest x h⟩

/-- A default read resolves to one version at most. -/
theorem Resolves.unique {r' : Record} (h : s.Resolves c x r) (h' : s.Resolves c y r') :
    x = y ∧ r = r' := by
  obtain rfl : x = y :=
    Int32.le_antisymm (h'.greatest x h.readable) (h.greatest y h'.readable)
  obtain ⟨e, he⟩ := h.readable.kept
  exact ⟨rfl, (h.record e he).symm.trans (h'.record e he)⟩

/-- It resolves to the last of the versions up to the cursor. -/
theorem resolves_iff :
    s.Resolves c x r ↔ (s.multiRead c Int32.minValue s.cursor).getLast? = some (x, r) := by
  rw [getLast?_multiRead]
  constructor
  · intro h
    obtain ⟨e, he⟩ := h.readable.kept
    have hmem := mem_within_cursor_iff.2 ⟨h.readable, he⟩
    cases hlast : (s.within Int32.minValue s.cursor (s.history c)).getLast? with
    | none =>
      rw [List.getLast?_eq_none_iff.1 hlast] at hmem
      simp at hmem
    | some last =>
      obtain ⟨rfl, rfl⟩ := h.unique (resolves_of_getLast? hlast)
      rfl
  · intro h
    obtain ⟨⟨x', e⟩, hlast, heq⟩ := Option.map_eq_some_iff.1 h
    obtain ⟨rfl, rfl⟩ := Prod.mk.inj heq
    exact resolves_of_getLast? hlast

/-- A default read returns the record of the version that it resolves to. -/
theorem read_eq_ok_iff_resolves (ht : t < 0) :
    s.read c t false = .ok r ↔ ∃ x, s.Resolves c x r := by
  rw [read_eq_ok_iff, target_of_neg ht]
  exact exists_congr fun x => resolves_iff.symm

/-! ## What commands leave readable -/

/-- What is kept stays kept, or something takes its place. -/
theorem exists_kept?_perform {e : TileEntry} (h : s.kept? c x = some e) (command : Command) :
    ∃ e', (s.perform command).2.kept? c x = some e' := by
  by_cases hc : ∃ u, command = .apply u
  · obtain ⟨u, rfl⟩ := hc
    rw [perform_apply, kept?_apply]
    -- an update about the two takes the place of what was kept
    by_cases hu : u.isAbout c x = true
    · exact ⟨u.entry, if_pos hu⟩
    · exact ⟨e, (if_neg hu).trans h⟩
  · exact ⟨e, (kept?_congr (s.tiles_perform fun u e => hc ⟨u, e⟩) c x).trans h⟩

/-- Only its own failure hides a transaction. -/
theorem Effect.visible {command : Command} {result : Option Int32}
    (he : Effect s command result s') (h : s.visible x = true) (hc : command ≠ .fail x) :
    s'.visible x = true := by
  rw [visible_iff] at h ⊢
  cases he with
  | begun free next =>
    -- a transaction that begins is active
    rw [transactionState?_of_kept rfl]
    split
    · nofun
    · exact h
  | completed active =>
    rw [transactionState?_of_kept rfl]
    split
    · nofun
    · exact h
  | @failed j description active =>
    -- what fails is another transaction
    have hne : x ≠ j := by
      rintro rfl
      exact hc rfl
    rw [transactionState?_of_kept rfl, if_neg hne]
    exact h
  | _ => exact h

/-- So a command other than its failure leaves a transaction visible. -/
theorem visible_perform (h : s.visible x = true) {command : Command} (hc : command ≠ .fail x) :
    (s.perform command).2.visible x = true :=
  perform_induction (P := fun s' => s'.visible x = true) s command h fun he => he.visible h hc

/-- A command that does not fail a transaction at or below the cursor leaves readable what was. -/
theorem Readable.perform (h : s.Readable c x) {command : Command}
    (hc : ∀ t, command = .fail t → s.cursor < t) : (s.perform command).2.Readable c x where
  kept := by
    obtain ⟨e, he⟩ := h.kept
    exact exists_kept?_perform he command
  visible := by
    -- the version is not above the cursor, so its transaction is not failed
    refine visible_perform h.visible fun hfail => ?_
    exact Int32.lt_irrefl (Int32.lt_of_le_of_lt h.below (hc x hfail))
  below := Int32.le_trans h.below (s.cursor_le_perform command)

/-! ## Runs -/

/-- A run asks to fail only transactions that are above the cursor at that moment. -/
def FailsAbove (s : Store) (cs : List Command) : Prop :=
  ∀ before t after, cs = before ++ .fail t :: after → (s.run before).cursor < t

theorem FailsAbove.of_append {cs ds : List Command} (h : FailsAbove s (cs ++ ds)) :
    FailsAbove (s.run cs) ds := by
  intro before t after hds
  rw [← run_append]
  exact h (cs ++ before) t after (by rw [hds, List.append_assoc])

theorem failsAbove_nil (s : Store) : FailsAbove s [] := by
  intro before t after h
  simp at h

/-- A run fails only what is above the cursor if its first command does, and the rest after it. -/
theorem failsAbove_cons_iff {command : Command} {cs : List Command} :
    FailsAbove s (command :: cs) ↔
      (∀ t, command = .fail t → s.cursor < t) ∧ FailsAbove (s.perform command).2 cs := by
  constructor
  · intro h
    have happend : FailsAbove s ([command] ++ cs) := h
    exact ⟨fun t ht => h [] t cs (by rw [ht]; rfl), happend.of_append⟩
  · rintro ⟨hfirst, hrest⟩ before t after h
    cases before with
    | nil => exact hfirst t (List.cons.inj h).1
    | cons d before =>
      obtain ⟨rfl, hcs⟩ := List.cons.inj h
      exact hrest before t after hcs

/-- A version that is readable stays so through such a run. -/
theorem Readable.run (h : s.Readable c x) {cs : List Command} (hcs : FailsAbove s cs) :
    (s.run cs).Readable c x := by
  -- by induction on the run: each command fails only what is above the cursor then
  induction cs generalizing s with
  | nil => exact h
  | cons command cs ih =>
    obtain ⟨hfirst, hrest⟩ := failsAbove_cons_iff.1 hcs
    exact ih (h.perform hfirst) hrest

/-- **Default reads never go back.** In any run that asks to fail only transactions above the
    cursor, a default read of a tile that finds a record at some point finds one at every later
    point, and the transaction that it resolves to is no smaller there. -/
theorem advances_of_failsAbove {before between : List Command} {t t' : TransactionId}
    (h : FailsAbove s (before ++ between)) (ht : t < 0) (ht' : t' < 0)
    (hr : (s.run before).read c t false = .ok r) :
    ∃ x x' r', (s.run before).Resolves c x r ∧
      (s.run (before ++ between)).read c t' false = .ok r' ∧
      (s.run (before ++ between)).Resolves c x' r' ∧ x ≤ x' := by
  obtain ⟨x, hx⟩ := (read_eq_ok_iff_resolves ht).1 hr
  -- the version that was found is still readable, so the read resolves to it or to a newer one
  have hlater := hx.readable.run h.of_append
  rw [← run_append] at hlater
  obtain ⟨x', r', hx', hle⟩ := hlater.exists_resolves
  exact ⟨x, x', r', hx, (read_eq_ok_iff_resolves ht').2 ⟨x', hx'⟩, hx', hle⟩

/-- A patch fails above the cursor, a tile is written late under an old transaction, and the cursor
    goes on past the failure to a transaction that chose its own identifier. -/
theorem advances_of_failsAbove_patched :
    let s := Store.new (.unassigned 256 "png" .rgba .uint8) "mars" "/plates/mars"
    let before : List Command :=
      [.begin "base" none, .apply ⟨1, ⟨0, 0, 0, 1, "png"⟩, .stored 0 0 9⟩, .complete 1 true]
    let between : List Command :=
      [.begin "patch" none, .apply ⟨1, ⟨0, 0, 0, 2, "png"⟩, .stored 0 9 9⟩, .fail 2,
        .apply ⟨1, ⟨0, 0, 0, 0, "png"⟩, .stored 0 18 9⟩, .begin "next" (some 7), .complete 7 true]
    FailsAbove s (before ++ between) ∧ cursorTransaction < 0 ∧ (-5 : TransactionId) < 0 ∧
      (s.run before).read ⟨0, 0, 0⟩ cursorTransaction false = .ok (.stored 0 0 9) ∧
      ∃ x x' r', (s.run before).Resolves ⟨0, 0, 0⟩ x (.stored 0 0 9) ∧
        (s.run (before ++ between)).read ⟨0, 0, 0⟩ (-5) false = .ok r' ∧
        (s.run (before ++ between)).Resolves ⟨0, 0, 0⟩ x' r' ∧ x ≤ x' := by
  intro s before between
  have h : FailsAbove s (before ++ between) := by
    simp only [before, between, List.cons_append, List.nil_append, failsAbove_cons_iff]
    simp only [failsAbove_nil, reduceCtorEq, false_implies, implies_true, true_and, and_true,
      Command.fail.injEq, forall_eq']
    decide
  have hneg : cursorTransaction < 0 := by decide
  exact ⟨h, hneg, by decide, rfl, advances_of_failsAbove h hneg (by decide) rfl⟩

end TileIndex.Store
