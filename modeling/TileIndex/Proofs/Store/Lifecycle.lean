import TileIndex.Proofs.Store.Transcript

/-!
# The life of a transaction

A transaction is unknown until it begins, then active until it is completed or fails, and then stays
what it has become. What a store says of a transaction is what the transcript of all that was done
to the store tells of it, so no write, no blob and no other transaction has a part in it.

## Main statements

- `Store.Passage.elsewhere`: a command that neither begins nor ends a transaction leaves it alone.
- `Store.lives_run`: the life of a transaction is one-way.
-/

namespace TileIndex.Store

variable {s s' : Store} {t : TransactionId}

/-! ## Ending a transaction -/

/-- An unknown transaction cannot end. -/
theorem finish_of_unknown (h : s.transactionState? t = none) (x : TransactionState) :
    s.finish t x = .error (.unknownTransaction t) := by
  simp only [finish, transactionState?_eq_none_iff.1 h]

/-- An active one can. -/
theorem exists_finish_of_active (h : s.transactionState? t = some .active) (x : TransactionState) :
    ∃ s', s.finish t x = .ok s' := by
  obtain ⟨description, hfound⟩ := transactionState?_eq_some_iff.1 h
  simp only [finish, hfound]
  exact ⟨_, rfl⟩

/-- One that has ended cannot end again. -/
theorem finish_of_ended {y : TransactionState} (h : s.transactionState? t = some y)
    (hy : y ≠ .active) (x : TransactionState) : s.finish t x = .error (.transactionEnded t y) := by
  obtain ⟨description, hfound⟩ := transactionState?_eq_some_iff.1 h
  simp only [finish, hfound, if_neg hy]

theorem active_of_finish {x : TransactionState} (h : s.finish t x = .ok s') :
    s.transactionState? t = some .active := by
  obtain ⟨description, hactive, -⟩ := finish_eq_ok h
  exact transactionState?_eq_some_iff.2 ⟨description, hactive⟩

/-- A completion is refused for the same reason as the end of the transaction. -/
theorem complete_of_finish_eq_error {r : Refusal} (h : s.finish t .completed = .error r)
    (moveCursor : Bool) : s.complete t moveCursor = .error r := by
  simp only [complete, h]

/-- A transaction can be completed exactly if it is active. -/
theorem exists_complete_iff {moveCursor : Bool} :
    (∃ s', s.complete t moveCursor = .ok s') ↔ s.transactionState? t = some .active := by
  constructor
  · rintro ⟨s', h⟩
    cases hfinish : s.finish t .completed with
    | error r =>
      rw [complete_of_finish_eq_error hfinish] at h
      simp at h
    | ok s₁ => exact active_of_finish hfinish
  · intro h
    obtain ⟨s₁, hfinish⟩ := exists_finish_of_active h .completed
    simp only [complete, hfinish]
    exact ⟨_, rfl⟩

/-- It can fail exactly if it is active. -/
theorem exists_fail_iff : (∃ s', s.fail t = .ok s') ↔ s.transactionState? t = some .active :=
  ⟨fun ⟨_, h⟩ => active_of_finish h, fun h => exists_finish_of_active h .failed⟩

/-! ## Other commands -/

/-- A command that neither begins nor ends a transaction leaves it alone. -/
theorem Passage.elsewhere {e : Command × Except Refusal (Option Int32)} (p : Passage s e s')
    (hbegins : ∀ d, beginning? e ≠ some (t, d)) (hends : ∀ x, ending? e ≠ some (t, x)) :
    s'.transactions.find? t = s.transactions.find? t := by
  cases p with
  | still begins ends kept => rw [kept]
  | @began j d begins ends fresh kept =>
    -- it is another transaction that has begun, as `t` is not the one
    rw [kept]
    refine SortedMap.find?_insert_of_ne _ _ ?_
    rintro rfl
    exact hbegins d begins
  -- and another that has ended
  | @ended j x d begins ends active kept =>
    rw [kept]
    refine SortedMap.find?_insert_of_ne _ _ ?_
    rintro rfl
    exact hends x ends

/-- Descriptions of transactions are never changed. -/
theorem Consistent.description?_run (h : s.Consistent) (cs : List Command) {d : String}
    (hd : s.description? t = some d) : (s.run cs).description? t = some d := by
  induction cs generalizing s with
  | nil => exact hd
  | cons c cs ih =>
    refine ih (h.perform c) ?_
    cases h.passage c with
    | still begins ends kept => rw [description?, kept, ← hd, description?]
    | @began j d' begins ends fresh kept =>
      -- what begins had no description
      rw [description?_of_kept kept, if_neg ?_, hd]
      rintro rfl
      simp [description?, fresh] at hd
    -- what ends keeps its description
    | @ended j x d' begins ends active kept =>
      rw [description?_of_kept kept]
      by_cases hj : t = j
      · subst hj
        rw [description?, active] at hd
        rw [if_pos rfl, ← hd]
        rfl
      · rw [if_neg hj, hd]

/-! ## Lives -/

/-- What can be said of a transaction when `log` is the transcript of all that was done to a store. -/
structure Lives (log : Transcript) (s : Store) (t : TransactionId) : Prop where
  /-- It is unknown until it has begun. -/
  unknown : s.transactionState? t = none ↔ ∀ d, (t, d) ∉ beginnings log
  /-- It is active from when it has begun until it has ended. -/
  active : s.transactionState? t = some .active ↔
    (∃ d, (t, d) ∈ beginnings log) ∧ ∀ x, (t, x) ∉ endings log
  /-- It is what it has ended as. -/
  ended : ∀ x, x ≠ .active → (s.transactionState? t = some x ↔ (t, x) ∈ endings log)
  /-- It has ended at most once. -/
  once : ((endings log).filter (·.1 = t)).length ≤ 1
  /-- It has the description that it was begun with. -/
  described : ∀ d, s.description? t = some d ↔ (t, d) ∈ beginnings log
  /-- It can begin when it is unknown, and is then active. -/
  begins : ∀ description chosen s', s.begin description chosen = .ok (t, s') →
    s.transactionState? t = none ∧ s'.transactionState? t = some .active
  /-- It can end when it is active, and only then. -/
  ends : (∀ moveCursor, (∃ s', s.complete t moveCursor = .ok s') ↔
      s.transactionState? t = some .active) ∧
    ((∃ s', s.fail t = .ok s') ↔ s.transactionState? t = some .active)
  /-- While it is unknown, ending it is refused as something not found. -/
  notFound : s.transactionState? t = none → ∃ r : Refusal, r.kind = .notFound ∧
    (∀ moveCursor, s.complete t moveCursor = .error r) ∧ s.fail t = .error r
  /-- When it has ended, ending it again is rejected. -/
  rejected : ∀ x, x ≠ .active → s.transactionState? t = some x → ∃ r : Refusal, r.kind = .rejected ∧
    (∀ moveCursor, s.complete t moveCursor = .error r) ∧ s.fail t = .error r
  /-- What it has ended as is left alone by whatever comes later, and so is its description. -/
  forever : ∀ later, (∀ x, x ≠ .active → s.transactionState? t = some x →
      (s.run later).transactionState? t = some x) ∧
    ∀ d, s.description? t = some d → (s.run later).description? t = some d
  /-- A command that neither begins nor ends it leaves it alone. -/
  elsewhere : ∀ c, (∀ d, beginning? (c, (s.perform c).1) ≠ some (t, d)) →
    (∀ x, ending? (c, (s.perform c).1) ≠ some (t, x)) →
    (s.perform c).2.transactionState? t = s.transactionState? t ∧
      (s.perform c).2.description? t = s.description? t

/-- Where keys are distinct there is at most one entry of each. -/
theorem length_filter_fst_le_one {α β : Type} [DecidableEq α] {l : List (α × β)}
    (h : (l.map (·.1)).Nodup) (a : α) : (l.filter (·.1 = a)).length ≤ 1 := by
  have hcount : (l.filter (·.1 = a)).length = (l.map (·.1)).count a := by
    rw [List.count, List.countP_map, List.countP_eq_length_filter]
    rfl
  rw [hcount]
  exact List.nodup_iff_count.1 h a

/-- A transaction is active exactly if it was begun and has not ended. -/
theorem Told.state_eq_active_iff {log : Transcript} (h : Told log s) :
    s.transactionState? t = some .active ↔
      (∃ d, (t, d) ∈ beginnings log) ∧ ∀ x, (t, x) ∉ endings log := by
  constructor
  · intro hactive
    obtain ⟨d, hfound⟩ := transactionState?_eq_some_iff.1 hactive
    have hdescription : s.description? t = some d := by rw [description?, hfound]; rfl
    exact ⟨⟨d, (h.described t d).1 hdescription⟩, h.not_mem_endings (by simp [hactive])⟩
  · rintro ⟨⟨d, hd⟩, hnot⟩
    -- it has some state as it was begun, and none but this one as it has not ended
    cases hstate : s.transactionState? t with
    | none => exact absurd hd (h.state_eq_none_iff.1 hstate d)
    | some x =>
      by_cases hx : x = .active
      · rw [hx]
      · exact absurd ((h.finished t x hx).1 hstate) (hnot x)

/-- **The life of a transaction is one-way.** For every transaction, after any run of a new plate. -/
theorem lives_run (header : Plate.Header) (shortName fullName : String) (cs : List Command)
    (t : TransactionId) :
    let s := Store.new header shortName fullName
    Lives (s.transcript cs) (s.run cs) t := by
  intro s
  have htold : Told (s.transcript cs) (s.run cs) := told_transcript header shortName fullName cs
  have hconsistent : (s.run cs).Consistent := (Consistent.new header shortName fullName).run cs
  constructor
  case unknown => exact htold.state_eq_none_iff
  case active => exact htold.state_eq_active_iff
  case ended => exact htold.finished t
  case once => exact length_filter_fst_le_one htold.endedOnce t
  case described => exact htold.described t
  case begins =>
    intro description chosen s' h
    have he := effect_of_begin h
    cases he with
    -- what begins is new, and is put down as active
    | begun free next =>
      refine ⟨transactionState?_eq_none_iff.2 (hconsistent.find?_eq_none free), ?_⟩
      exact transactionState?_eq_some_iff.2 ⟨description, SortedMap.find?_insert_self ..⟩
  case ends => exact ⟨fun moveCursor => exists_complete_iff, exists_fail_iff⟩
  case notFound =>
    intro h
    refine ⟨.unknownTransaction t, rfl, fun moveCursor => ?_, finish_of_unknown h .failed⟩
    exact complete_of_finish_eq_error (finish_of_unknown h .completed) moveCursor
  case rejected =>
    intro x hx h
    refine ⟨.transactionEnded t x, rfl, fun moveCursor => ?_, finish_of_ended h hx .failed⟩
    exact complete_of_finish_eq_error (finish_of_ended h hx .completed) moveCursor
  case forever =>
    intro later
    exact ⟨fun x hx h => hconsistent.transactionState?_run later h hx,
      fun d h => hconsistent.description?_run later h⟩
  case elsewhere =>
    intro c hbegins hends
    have hfind := (hconsistent.passage c).elsewhere hbegins hends
    exact ⟨congrArg (Option.map _) hfind, congrArg (Option.map _) hfind⟩

end TileIndex.Store
