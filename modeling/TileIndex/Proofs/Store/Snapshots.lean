import TileIndex.Proofs.Store.Progress

/-!
# Reads as snapshots

A read that names its transaction looks at the versions of one tile in one range of transactions.
Only a write to that tile under a transaction of the range, or a failure of such a transaction,
changes what is seen of them. So such a read gives the same answer, record or refusal, for as long
as neither happens: transactions may begin within the range and end in success, newer versions and
other tiles may be written, and the cursor may move on.

## Main statements

- `Store.Effect.seen?`: what a granted command that does not touch a version leaves to see of it.
- `Store.Spares.seen?_run`: a run that spares a range changes nothing that is seen of it.
- `Store.snapshots_run`: reads that name their transactions are stable.
-/

namespace TileIndex.Store

variable {s s' : Store} {c : Tile.Coordinate} {first last x : TransactionId}

/-! ## Commands that touch a range -/

/-- Whether a command is a write to a tile under a transaction of a range, or a failure of such a
    transaction. -/
def Command.touches (c : Tile.Coordinate) (first last : TransactionId) : Command → Bool
  | .apply u => u.header.coordinate = c && first ≤ u.header.transaction && u.header.transaction ≤ last
  | .fail t => first ≤ t && t ≤ last
  | _ => false

/-- A run spares a tile within a range of transactions: whatever would touch it is refused. -/
def Spares (s : Store) (cs : List Command) (c : Tile.Coordinate) (first last : TransactionId) : Prop :=
  ∀ e ∈ s.transcript cs, e.1.touches c first last = true → e.2.isOk = false

instance {cs : List Command} : Decidable (s.Spares cs c first last) :=
  inferInstanceAs (Decidable (∀ e ∈ s.transcript cs, e.1.touches c first last = true →
    e.2.isOk = false))

/-- A run spares a range if its first command does, and the rest after it. -/
theorem spares_cons_iff {command : Command} {cs : List Command} :
    s.Spares (command :: cs) c first last ↔
      (command.touches c first last = true → (s.perform command).1.isOk = false) ∧
        (s.perform command).2.Spares cs c first last := by
  rw [Spares, transcript_cons, List.forall_mem_cons]
  rfl

/-! ## What is left to see -/

/-- A command that does not touch a range fails no transaction in it. -/
theorem ne_fail_of_touches {command : Command} (h : command.touches c first last = false)
    (hfirst : first ≤ x) (hlast : x ≤ last) : command ≠ .fail x := by
  rintro rfl
  simp [Command.touches, hfirst, hlast] at h

/-- A write that does not touch a range is not about the tile under a transaction in it. -/
theorem isAbout_of_touches {u : Update} (h : (Command.apply u).touches c first last = false)
    (hfirst : first ≤ x) (hlast : x ≤ last) : u.isAbout c x = false := by
  refine Bool.eq_false_iff.2 fun habout => ?_
  obtain ⟨hc, rfl⟩ : u.header.coordinate = c ∧ u.header.transaction = x := by
    simpa [Update.isAbout] using habout
  simp [Command.touches, hc, hfirst, hlast] at h

/-- Beginning a transaction shows nothing that was hidden, and nor does ending it in success. -/
theorem Effect.visible_eq {command : Command} {result : Option Int32}
    (he : Effect s command result s') (h : s.Consistent) (hc : command ≠ .fail x) :
    s'.visible x = s.visible x := by
  rw [Bool.eq_iff_iff]
  constructor
  · intro hafter
    rw [visible_iff] at hafter ⊢
    -- a failure would have been for good
    exact fun hfailed => hafter (he.transactionState?_of_ended h hfailed (by decide))
  · intro hbefore
    exact he.visible hbefore hc

/-- **A granted command that does not touch a version leaves what is seen of it.** -/
theorem Effect.seen? {command : Command} {result : Option Int32}
    (he : Effect s command result s') (h : s.Consistent)
    (hc : command.touches c first last = false) (hfirst : first ≤ x) (hlast : x ≤ last) :
    s'.seen? c x = s.seen? c x := by
  have hvisible : s'.visible x = s.visible x :=
    he.visible_eq h (ne_fail_of_touches hc hfirst hlast)
  -- only a write about the two would change what is kept
  have hkept : s'.kept? c x = s.kept? c x := by
    cases he with
    | written u => rw [kept?_apply, isAbout_of_touches hc hfirst hlast, if_neg Bool.false_ne_true]
    | _ => rfl
  rw [Store.seen?, Store.seen?, hvisible, hkept]

/-- A run that spares a range leaves to see of it what there was. -/
theorem Spares.seen?_run {cs : List Command} (hcs : s.Spares cs c first last) (h : s.Consistent)
    (hfirst : first ≤ x) (hlast : x ≤ last) : (s.run cs).seen? c x = s.seen? c x := by
  induction cs generalizing s with
  | nil => rfl
  | cons command cs ih =>
    obtain ⟨hcommand, hrest⟩ := spares_cons_iff.1 hcs
    rw [run_cons, ih hrest (h.perform command)]
    rcases s.perform_cases command with ⟨result, hresult, he⟩ | ⟨r, hr⟩
    · -- a command that is granted does not touch the range, or it would have been refused
      refine he.seen? h (Bool.eq_false_iff.2 fun htouches => ?_) hfirst hlast
      have hrefused := hcommand htouches
      rw [hresult] at hrefused
      exact Bool.noConfusion hrefused
    · rw [hr]

/-- So it leaves the range as it is seen. -/
theorem Spares.within_run {cs : List Command} (hcs : s.Spares cs c first last) (h : s.Consistent) :
    (s.run cs).within first last ((s.run cs).history c) = s.within first last (s.history c) :=
  within_congr fun _ hfirst hlast => hcs.seen?_run h hfirst hlast

/-! ## Snapshots -/

/-- So it leaves a read that looks at the range. -/
theorem Spares.read_run {cs : List Command} {t : TransactionId} {exact : Bool}
    (hcs : s.Spares cs c (oldest t exact) t) (h : s.Consistent) (ht : 0 ≤ t) :
    (s.run cs).read c t exact = s.read c t exact := by
  -- the cursor has no part in a read that names its transaction
  refine read_congr (by rw [target_of_nonneg ht, target_of_nonneg ht]) ?_
  rw [target_of_nonneg ht]
  exact hcs.within_run h

/-- The reads of a tile that a run does not disturb, refusals included. -/
structure Snapshots (s : Store) (cs : List Command) (c : Tile.Coordinate) : Prop where
  /-- A read at or before a transaction, in a run that spares all transactions up to there. -/
  upTo : ∀ t, 0 ≤ t → s.Spares cs c Int32.minValue t →
    (s.run cs).read c t false = s.read c t false
  /-- A read exactly at a transaction, in a run that spares it. -/
  exactly : ∀ t, 0 ≤ t → s.Spares cs c t t → (s.run cs).read c t true = s.read c t true
  /-- A read of a range, in a run that spares it. -/
  range : ∀ first last, s.Spares cs c first last →
    (s.run cs).multiRead c first last = s.multiRead c first last

/-- Reads that name their transactions are stable in every store that is consistent. -/
theorem Consistent.snapshots (h : s.Consistent) (cs : List Command) (c : Tile.Coordinate) :
    s.Snapshots cs c where
  upTo t ht hcs := Spares.read_run hcs h ht
  exactly t ht hcs := Spares.read_run hcs h ht
  range first last hcs := by rw [multiRead, multiRead, hcs.within_run h]

/-- **Reads that name their transactions are stable.** After any run of a new plate, and for any
    further run. -/
theorem snapshots_run (header : Plate.Header) (shortName fullName : String)
    (past cs : List Command) (c : Tile.Coordinate) :
    ((Store.new header shortName fullName).run past).Snapshots cs c :=
  ((Consistent.new header shortName fullName).run past).snapshots cs c

/-- A transaction chooses an identifier below the read and is completed, the tile is written again
    above it, and the failure of a transaction that has ended is refused. -/
example :
    let s := (Store.new (.unassigned 256 "png" .rgba .uint8) "mars" "/plates/mars").run
      [.apply ⟨1, ⟨0, 0, 0, 3, "png"⟩, .stored 0 0 9⟩, .begin "base" (some 3), .complete 3 true]
    let cs : List Command :=
      [.begin "late" (some 2), .complete 2 true, .fail 3, .begin "next" none,
        .apply ⟨1, ⟨0, 0, 0, 4, "png"⟩, .stored 0 9 9⟩, .fail 4, .reserveBlob]
    s.Spares cs ⟨0, 0, 0⟩ Int32.minValue 3 ∧
      (s.run cs).read ⟨0, 0, 0⟩ 3 false = .ok (.stored 0 0 9) := by
  constructor
  · decide
  · rfl

end TileIndex.Store
