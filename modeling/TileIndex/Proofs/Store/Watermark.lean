import TileIndex.Proofs.Store.Lifecycle

/-!
# The cursor as a watermark

A transaction is published when it is completed and the cursor is asked to follow. The cursor stands
at the greatest of the transactions that have been published, in whatever order that was, and at
zero before the first. Nothing else moves it, so it never moves back, and what it names stays
completed.

## Main statements

- `Store.publication_cases`: a command publishes a transaction, or the cursor stays where it is.
- `Store.Peak.run`: the cursor stands at the greatest of zero and what a run publishes.
- `Store.watermark_run`: the cursor is the watermark of what has been published.
-/

namespace TileIndex.Store

variable {s : Store} {log : Transcript} {t : TransactionId}

/-! ## Publications -/

/-- The transaction that a command has published. -/
def publication? : Command × Except Refusal (Option Int32) → Option TransactionId
  | (.complete t true, .ok _) => some t
  | _ => none

/-- The transactions that a transcript publishes, in order. -/
def publications (log : Transcript) : List TransactionId := log.filterMap publication?

theorem publications_concat (log : Transcript) (e : Command × Except Refusal (Option Int32)) :
    publications (log ++ [e]) = publications log ++ (publication? e).toList :=
  filterMap_concat publication? log e

/-- A command publishes a transaction, which the cursor then does not lie below, or it leaves the
    cursor where it is. -/
theorem publication_cases (s : Store) (c : Command) :
    (∃ t, publication? (c, (s.perform c).1) = some t ∧ (s.perform c).2.cursor = max s.cursor t) ∨
      publication? (c, (s.perform c).1) = none ∧ (s.perform c).2.cursor = s.cursor := by
  rcases s.perform_cases c with ⟨result, hresult, he⟩ | ⟨r, hr⟩
  · rw [hresult]
    generalize (s.perform c).2 = s' at he ⊢
    cases he with
    | @completed t moveCursor description active =>
      cases moveCursor with
      | true => exact .inl ⟨t, rfl, rfl⟩
      | false => exact .inr ⟨rfl, rfl⟩
    | _ => exact .inr ⟨rfl, rfl⟩
  · -- a refused command publishes nothing, even if it was to do so
    rw [hr]
    refine .inr ⟨?_, rfl⟩
    cases c with
    | complete t moveCursor => cases moveCursor <;> rfl
    | _ => rfl

/-- No command moves the cursor back. -/
theorem cursor_le_perform (s : Store) (c : Command) : s.cursor ≤ (s.perform c).2.cursor := by
  rcases s.publication_cases c with ⟨t, -, h⟩ | ⟨-, h⟩
  · rw [h]
    exact le_max_left ..
  · rw [h]
    exact Int32.le_refl _

/-- No run does. -/
theorem cursor_le_run (s : Store) (cs : List Command) : s.cursor ≤ (s.run cs).cursor := by
  induction cs generalizing s with
  | nil => exact Int32.le_refl _
  | cons c cs ih => exact Int32.le_trans (s.cursor_le_perform c) (ih _)

/-! ## The greatest publication -/

/-- The cursor stands at the greatest of zero and the transactions that a transcript publishes. -/
structure Peak (log : Transcript) (s : Store) : Prop where
  /-- It is zero or a transaction that has been published. -/
  attained : s.cursor ∈ 0 :: publications log
  /-- Neither zero nor any transaction that has been published is greater. -/
  above : ∀ t ∈ 0 :: publications log, t ≤ s.cursor

/-- Nothing has been published in a new store, and its cursor is at zero. -/
theorem Peak.new (header : Plate.Header) (shortName fullName : String) :
    Peak [] (Store.new header shortName fullName) where
  attained := List.mem_cons_self ..
  above t ht := by
    obtain rfl := List.mem_singleton.1 ht
    exact Int32.le_refl _

/-- One more command keeps the cursor at the greatest. -/
theorem Peak.perform (h : Peak log s) (c : Command) :
    Peak (log ++ [(c, (s.perform c).1)]) (s.perform c).2 := by
  rcases s.publication_cases c with ⟨t, ht, hcursor⟩ | ⟨hnone, hcursor⟩
  · -- something is published: it becomes one more candidate
    have hnew : 0 :: publications (log ++ [(c, (s.perform c).1)]) =
        (0 :: publications log) ++ [t] := by
      rw [publications_concat, ht]
      rfl
    constructor
    · rw [hnew, hcursor]
      -- the greater of two candidates is one of them
      rcases max_cases s.cursor t with ⟨e, -⟩ | ⟨e, -⟩
      · rw [e]
        exact List.mem_append_left _ h.attained
      · rw [e]
        exact List.mem_append_right _ (List.mem_singleton_self t)
    · intro j hj
      rw [hnew] at hj
      rw [hcursor]
      rcases List.mem_append.1 hj with hold | hlast
      · exact Int32.le_trans (h.above j hold) (le_max_left ..)
      · obtain rfl := List.mem_singleton.1 hlast
        exact le_max_right ..
  · -- nothing is published: candidates and cursor stay
    have hsame : publications (log ++ [(c, (s.perform c).1)]) = publications log := by
      rw [publications_concat, hnone]
      exact List.append_nil _
    constructor
    · rw [hsame, hcursor]
      exact h.attained
    · rw [hsame, hcursor]
      exact h.above

/-- **The cursor stands at the greatest of zero and what a run publishes.** -/
theorem Peak.run (h : Peak log s) (cs : List Command) :
    Peak (log ++ s.transcript cs) (s.run cs) :=
  transcript_induction (fun c h => h.perform c) h cs

/-! ## Watermarks -/

/-- What can be said of the cursor when `log` is the transcript of all that was done to a store. -/
structure Watermark (log : Transcript) (s : Store) : Prop extends Peak log s where
  /-- It never moves back. -/
  grows : ∀ later, s.cursor ≤ (s.run later).cursor
  /-- A command that is refused does not move it. -/
  refused : ∀ c r, (s.perform c).1 = .error r → (s.perform c).2.cursor = s.cursor
  /-- Completing a transaction that has ended is refused, so it does not move it either. -/
  repeated : ∀ t x, (t, x) ∈ endings log → ∀ moveCursor,
    ∃ r, s.perform (.complete t moveCursor) = (.error r, s)
  /-- No command moves it but a completion that asks it to follow. -/
  elsewhere : ∀ c, (∀ t, c ≠ .complete t true) → (s.perform c).2.cursor = s.cursor
  /-- Once it has left zero, it names a transaction that is completed and stays so. -/
  completed : s.cursor ≠ 0 → ∀ later, (s.run later).transactionState? s.cursor = some .completed

/-- Only a completion that moves the cursor publishes anything. -/
theorem publication?_of_ne {c : Command} (h : ∀ t, c ≠ .complete t true)
    (result : Except Refusal (Option Int32)) : publication? (c, result) = none := by
  cases c with
  | complete t moveCursor =>
    cases moveCursor with
    | true => exact absurd rfl (h t)
    | false => rfl
  | _ => rfl

theorem cursor_of_publication?_eq_none {c : Command}
    (h : publication? (c, (s.perform c).1) = none) : (s.perform c).2.cursor = s.cursor := by
  rcases s.publication_cases c with ⟨t, ht, -⟩ | ⟨-, hcursor⟩
  · simp [h] at ht
  · exact hcursor

/-- **The cursor is the watermark of what has been published.** After any run of a new plate, with
    transactions completed out of order, twice, after they failed, or without the cursor. -/
theorem watermark_run (header : Plate.Header) (shortName fullName : String) (cs : List Command) :
    let s := Store.new header shortName fullName
    Watermark (s.transcript cs) (s.run cs) := by
  intro s
  have hpeak : Peak (s.transcript cs) (s.run cs) := (Peak.new header shortName fullName).run cs
  have htold : Told (s.transcript cs) (s.run cs) := told_transcript header shortName fullName cs
  have hconsistent : (s.run cs).Consistent := (Consistent.new header shortName fullName).run cs
  constructor
  case toPeak => exact hpeak
  case grows => exact fun later => cursor_le_run _ later
  case refused =>
    intro c r hr
    rcases (s.run cs).perform_cases c with ⟨result, hresult, -⟩ | ⟨r', hr'⟩
    · simp [hr] at hresult
    · rw [hr']
  case repeated =>
    intro t x hend moveCursor
    have hx := ne_active_of_mem_endings hend
    have hstate := (htold.finished t x hx).2 hend
    -- what the transcript has ended is kept as ended, and ends no more
    have hrefused := complete_of_finish_eq_error (finish_of_ended hstate hx .completed) moveCursor
    refine ⟨.transactionEnded t x, ?_⟩
    simp only [Store.perform, attempt, hrefused]
    rfl
  case elsewhere =>
    intro c hc
    exact cursor_of_publication?_eq_none (publication?_of_ne hc _)
  case completed =>
    intro hzero later
    -- the cursor was moved to what it names, so that was completed
    have hpublished := hconsistent.published.resolve_left hzero
    exact hconsistent.transactionState?_run later hpublished (by nofun)

/-- Transactions that are published in the order 2, 5, 3, beside one that fails and one that is
    completed without the cursor. -/
example :
    let s := Store.new (.unassigned 256 "png" .rgba .uint8) "mars" "/plates/mars"
    (s.run [.begin "a" (some 2), .begin "b" (some 5), .begin "c" (some 3), .begin "d" (some 7),
      .begin "e" (some 9), .complete 2 true, .fail 7, .complete 5 true, .complete 9 false,
      .complete 3 true, .complete 9 true, .complete 7 true]).cursor = 5 :=
  rfl

end TileIndex.Store
