import TileIndex.Proofs.Store.Queries

/-!
# Failed transactions

Two stores that differ in nothing but what is kept under one transaction give every command the same
result and go on to differ in nothing else. Once that transaction has failed, its entries are hidden
for good, and no query can tell the two stores apart. So a transaction that fails might as well
never have written anything.

## Main statements

- `Store.SameBut.perform`: stores that differ under one transaction go on to do so.
- `Store.SameBut.alike`: after a failure of the transaction no query tells them apart.
- `Store.traceless_of_failed`: a failed transaction leaves no trace.
-/

namespace TileIndex.Store

/-! ## Commands that do not look at tiles -/

/-- The store with other tiles. -/
def withTiles (s : Store) (tiles : SortedMap Tile.Coordinate TileHistory) : Store :=
  { s with tiles := tiles }

variable (s : Store) (m : SortedMap Tile.Coordinate TileHistory)

/-- A transaction begins alike whatever the tiles are. -/
theorem begin_withTiles (description : String) (chosen : Option TransactionId) :
    (s.withTiles m).begin description chosen =
      (s.begin description chosen).map fun (t, s') => (t, s'.withTiles m) := by
  unfold Store.begin
  have hi : (s.withTiles m).identifier chosen = s.identifier chosen := rfl
  rw [hi]
  cases s.identifier chosen with
  | error r => rfl
  | ok t =>
    simp only
    cases successor? t <;> rfl

/-- It ends alike. -/
theorem finish_withTiles (t : TransactionId) (state : TransactionState) :
    (s.withTiles m).finish t state = (s.finish t state).map (·.withTiles m) := by
  unfold finish
  have ht : (s.withTiles m).transactions = s.transactions := rfl
  rw [ht]
  cases s.transactions.find? t with
  | none => rfl
  | some x =>
    simp only
    split <;> rfl

/-- It is completed alike. -/
theorem complete_withTiles (t : TransactionId) (moveCursor : Bool) :
    (s.withTiles m).complete t moveCursor = (s.complete t moveCursor).map (·.withTiles m) := by
  unfold complete
  rw [finish_withTiles]
  cases s.finish t .completed with
  | error r => rfl
  | ok s' => cases moveCursor <;> rfl

/-- A blob is reserved alike whatever the tiles are. -/
theorem reserveBlob_withTiles : (s.withTiles m).reserveBlob =
    s.reserveBlob.map fun (b, s') => (b, s'.withTiles m) := by
  unfold reserveBlob
  have hn : (s.withTiles m).nextBlob = s.nextBlob := rfl
  rw [hn]
  cases successor? s.nextBlob <;> rfl

/-- It is released alike. -/
theorem releaseBlob_withTiles (b : BlobId) :
    (s.withTiles m).releaseBlob b = (s.releaseBlob b).map (·.withTiles m) := by
  unfold releaseBlob
  have hr : (s.withTiles m).reserved = s.reserved := rfl
  rw [hr]
  split <;> rfl

/-- A command that is no write has the same effect whatever the tiles are. -/
theorem perform_withTiles {c : Command} (hc : ∀ u, c ≠ .apply u) :
    (s.withTiles m).perform c = ((s.perform c).1, (s.perform c).2.withTiles m) := by
  unfold perform
  cases c with
  -- a write does look at the tiles
  | apply u => exact absurd rfl (hc u)
  | begin description chosen =>
    simp only [attempt, begin_withTiles]
    cases s.begin description chosen <;> rfl
  | complete t moveCursor =>
    simp only [attempt, complete_withTiles]
    cases s.complete t moveCursor <;> rfl
  | fail t =>
    simp only [attempt, fail, finish_withTiles]
    cases s.finish t .failed <;> rfl
  | reserveBlob =>
    simp only [attempt, reserveBlob_withTiles]
    cases s.reserveBlob <;> rfl
  | releaseBlob b =>
    simp only [attempt, releaseBlob_withTiles]
    cases s.releaseBlob b <;> rfl

/-! ## Stores that differ under one transaction -/

/-- Two stores that differ at most in what is kept under one transaction. -/
structure SameBut (k : TransactionId) (s s' : Store) : Prop where
  rest : s' = s.withTiles s'.tiles
  entries : ∀ c t, t ≠ k → s'.kept? c t = s.kept? c t

/-- Whether a command writes under a transaction. -/
def Command.writesUnder (k : TransactionId) : Command → Bool
  | .apply u => u.header.transaction = k
  | _ => false

variable {s m} {s' : Store} {k : TransactionId}

theorem SameBut.refl (k : TransactionId) (s : Store) : SameBut k s s := ⟨rfl, fun _ _ _ => rfl⟩

theorem SameBut.transactionState? (h : SameBut k s s') (t : TransactionId) :
    s'.transactionState? t = s.transactionState? t := by
  rw [h.rest]
  rfl

theorem SameBut.apply (h : SameBut k s s') (u : Update) : SameBut k (s.apply u) (s'.apply u) where
  rest := by
    conv => lhs; rw [h.rest]
    rfl
  entries c t ht := by rw [kept?_apply, kept?_apply, h.entries c t ht]

/-- A write under the transaction goes unnoticed in one of the stores. -/
theorem SameBut.apply_left (h : SameBut k s s') {u : Update} (hu : u.header.transaction = k) :
    SameBut k (s.apply u) s' where
  rest := h.rest
  entries c t ht := by
    -- the write is not about any other transaction
    have hother : u.isAbout c t = false := by
      simp [Update.isAbout, hu, Ne.symm ht]
    rw [kept?_apply, hother, h.entries c t ht]
    rfl

/-- **A command has the same result in both stores**, and they go on to differ in nothing else. -/
theorem SameBut.perform (h : SameBut k s s') (c : Command) :
    (s'.perform c).1 = (s.perform c).1 ∧ SameBut k (s.perform c).2 (s'.perform c).2 := by
  by_cases hc : ∃ u, c = .apply u
  · -- a write goes to both
    obtain ⟨u, rfl⟩ := hc
    exact ⟨rfl, h.apply u⟩
  · have hc' : ∀ u, c ≠ .apply u := fun u e => hc ⟨u, e⟩
    have hs := s.perform_withTiles s'.tiles hc'
    rw [← h.rest] at hs
    -- neither store gets other tiles from the command
    refine ⟨by rw [hs], ?_, fun c t ht => ?_⟩
    · rw [hs]
      rfl
    · rw [kept?_congr (s'.tiles_perform hc'), kept?_congr (s.tiles_perform hc'),
        h.entries c t ht]

/-- So it is with a run. -/
theorem SameBut.run (h : SameBut k s s') (cs : List Command) :
    s'.results cs = s.results cs ∧ SameBut k (s.run cs) (s'.run cs) := by
  induction cs generalizing s s' with
  | nil => exact ⟨rfl, h⟩
  | cons c cs ih =>
    obtain ⟨hresult, hnext⟩ := h.perform c
    obtain ⟨hresults, hlast⟩ := ih hnext
    exact ⟨by rw [results_cons, results_cons, hresult, hresults], hlast⟩

/-- What the commands of a run other than the writes under a transaction return, and where they
    lead, does not depend on those writes. -/
theorem SameBut.run_filter (h : SameBut k s s') (cs : List Command) :
    let kept := cs.filter (!·.writesUnder k)
    (cs.zip (s.results cs)).filter (!·.1.writesUnder k) = kept.zip (s'.results kept) ∧
      SameBut k (s.run cs) (s'.run kept) := by
  induction cs generalizing s s' with
  | nil => exact ⟨rfl, h⟩
  | cons c cs ih =>
    by_cases hc : c.writesUnder k = true
    · -- the write is made in the one run and not in the other
      obtain ⟨u, rfl, hu⟩ : ∃ u, c = .apply u ∧ u.header.transaction = k := by
        cases c with
        | apply u => exact ⟨u, rfl, by simpa [Command.writesUnder] using hc⟩
        | _ => simp [Command.writesUnder] at hc
      obtain ⟨hresults, hlast⟩ := ih (h.apply_left hu)
      refine ⟨?_, ?_⟩
      · simpa [hc] using hresults
      · simpa [hc] using hlast
    · -- any other command is carried out in both runs
      obtain ⟨hresult, hnext⟩ := h.perform c
      obtain ⟨hresults, hlast⟩ := ih hnext
      refine ⟨?_, ?_⟩
      · simpa [hc, hresult] using hresults
      · simpa [hc] using hlast

/-! ## Hidden entries -/

/-- Once the transaction has failed, both stores show the same of every range. -/
theorem SameBut.within (h : SameBut k s s') (hk : s.transactionState? k = some .failed)
    (c : Tile.Coordinate) (first last : TransactionId) :
    s.within first last (s.history c) = s'.within first last (s'.history c) := by
  refine within_congr fun t _ _ => ?_
  unfold seen? visible
  rw [h.transactionState?]
  by_cases ht : t = k
  · -- what is kept under the transaction shows in neither store
    simp [ht, hk]
  · rw [h.entries c t ht]

/-- So no query tells them apart. -/
theorem SameBut.alike (h : SameBut k s s') (hk : s.transactionState? k = some .failed) :
    s.Alike s' := by
  refine Alike.of_within ?_ (h.within hk)
  rw [h.rest]
  rfl

/-- **A failed transaction leaves no trace.** Take any run of a new plate after which a transaction
    has failed, and leave out all writes under that transaction. Every other command of the run has
    the same result without them. After both runs, and after both have been continued by the same
    commands, which all have the same results too, no query tells the two stores apart. -/
theorem traceless_of_failed (header : Plate.Header) (shortName fullName : String)
    {k : TransactionId} {cs : List Command}
    (hk : ((Store.new header shortName fullName).run cs).transactionState? k = some .failed)
    (later : List Command) :
    let s := Store.new header shortName fullName
    let kept := cs.filter (!·.writesUnder k)
    (cs.zip (s.results cs)).filter (!·.1.writesUnder k) = kept.zip (s.results kept) ∧
      (s.run cs).results later = (s.run kept).results later ∧
      ((s.run cs).run later).Alike ((s.run kept).run later) := by
  intro s kept
  obtain ⟨hresults, hsame⟩ := (SameBut.refl k s).run_filter cs
  obtain ⟨hlater, hlast⟩ := hsame.run later
  have hconsistent : (s.run cs).Consistent := (Consistent.new header shortName fullName).run cs
  -- a failure is final, so the entries stay hidden
  have hfailed := hconsistent.transactionState?_run later hk (by decide)
  exact ⟨hresults, hlater.symm, hlast.alike hfailed⟩

/-- A transaction that writes before it begins, overwrites what it wrote, and fails, while another
    one writes the same tile. -/
theorem traceless_of_failed_two :
    let s := Store.new (.unassigned 256 "png" .rgba .uint8) "mars" "/plates/mars"
    let cs : List Command :=
      [.apply ⟨1, ⟨0, 0, 1, 2, "png"⟩, .stored 0 0 9⟩, .begin "base" none, .begin "patch" none,
        .apply ⟨1, ⟨0, 0, 1, 1, "png"⟩, .stored 0 9 9⟩,
        .apply ⟨1, ⟨0, 0, 1, 2, "png"⟩, .stored 0 18 9⟩, .fail 2]
    let later : List Command :=
      [.apply ⟨1, ⟨0, 0, 1, 2, "png"⟩, .stored 1 0 9⟩, .complete 2 true, .complete 1 true]
    let kept := cs.filter (!·.writesUnder 2)
    (s.run cs).transactionState? 2 = some .failed ∧
      (cs.zip (s.results cs)).filter (!·.1.writesUnder 2) = kept.zip (s.results kept) ∧
      (s.run cs).results later = (s.run kept).results later ∧
      ((s.run cs).run later).Alike ((s.run kept).run later) := by
  intro s cs later kept
  exact ⟨rfl, traceless_of_failed _ _ _ rfl later⟩

end TileIndex.Store
