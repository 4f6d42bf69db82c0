import TileIndex.Proofs.Store.Commands

/-!
# Transcripts of runs

The commands of a run with what each returned. A transcript tells which transactions were begun, and
with which descriptions, and which of them have ended, and in which way. What a store keeps of its
transactions can be read off the transcript of all that was ever done to it.

## Main statements

- `Store.Consistent.passage`: a command begins a transaction, ends one, or has nothing to do with
  them.
- `Store.Told.run`: a store keeps of transactions what the transcript tells.
-/

namespace TileIndex.Store

/-- Commands with what they returned, in the order in which they were carried out. -/
abbrev Transcript := List (Command × Except Refusal (Option Int32))

/-- The transcript of a run. -/
def transcript (s : Store) (cs : List Command) : Transcript := cs.zip (s.results cs)

@[simp] theorem transcript_nil (s : Store) : s.transcript [] = [] := rfl

@[simp] theorem transcript_cons (s : Store) (c : Command) (cs : List Command) :
    s.transcript (c :: cs) = (c, (s.perform c).1) :: (s.perform c).2.transcript cs := rfl

/-- What every command preserves, with what it returns put at the end of a log, is preserved by a
    run with its transcript. -/
theorem transcript_induction {P : Transcript → Store → Prop}
    (step : ∀ {log s} (c : Command), P log s → P (log ++ [(c, (s.perform c).1)]) (s.perform c).2)
    {log : Transcript} {s : Store} (h : P log s) (cs : List Command) :
    P (log ++ s.transcript cs) (s.run cs) := by
  -- induction over what is still to be done, with all that was done before in `log`
  induction cs generalizing s log with
  | nil => simpa using h
  | cons c cs ih => simpa using ih (step c h)

/-! ## Beginnings and endings -/

/-- The transaction that a command has begun, with its description. -/
def beginning? : Command × Except Refusal (Option Int32) → Option (TransactionId × String)
  | (.begin description _, .ok (some t)) => some (t, description)
  | _ => none

/-- The transaction that a command has ended, with the state that it has ended in. -/
def ending? : Command × Except Refusal (Option Int32) → Option (TransactionId × TransactionState)
  | (.complete t _, .ok _) => some (t, .completed)
  | (.fail t, .ok _) => some (t, .failed)
  | _ => none

/-- The transactions that a transcript begins, with their descriptions, in order. -/
def beginnings (log : Transcript) : List (TransactionId × String) := log.filterMap beginning?

/-- The transactions that a transcript ends, with the states that they end in, in order. -/
def endings (log : Transcript) : List (TransactionId × TransactionState) := log.filterMap ending?

theorem beginnings_concat (log : Transcript) (e : Command × Except Refusal (Option Int32)) :
    beginnings (log ++ [e]) = beginnings log ++ (beginning? e).toList :=
  filterMap_concat beginning? log e

theorem endings_concat (log : Transcript) (e : Command × Except Refusal (Option Int32)) :
    endings (log ++ [e]) = endings log ++ (ending? e).toList :=
  filterMap_concat ending? log e

/-- No transaction ends as one that is active. -/
theorem ne_active_of_ending? {e : Command × Except Refusal (Option Int32)} {t : TransactionId}
    {x : TransactionState} (h : ending? e = some (t, x)) : x ≠ .active := by
  unfold ending? at h
  split at h
  · obtain ⟨-, rfl⟩ := Prod.mk.inj (Option.some.inj h)
    nofun
  · obtain ⟨-, rfl⟩ := Prod.mk.inj (Option.some.inj h)
    nofun
  · simp at h

/-- So no transcript tells of such an end. -/
theorem ne_active_of_mem_endings {log : Transcript} {t : TransactionId} {x : TransactionState}
    (h : (t, x) ∈ endings log) : x ≠ .active := by
  obtain ⟨e, -, he⟩ := List.mem_filterMap.1 h
  exact ne_active_of_ending? he

/-- The identifiers that a run gives out are those of the transactions that its transcript begins. -/
theorem issued_eq_map_beginnings (s : Store) (cs : List Command) :
    s.issued cs = (beginnings (s.transcript cs)).map (·.1) := by
  rw [issued, beginnings, List.map_filterMap]
  congr 1
  funext e
  obtain ⟨c, result⟩ := e
  cases c with
  -- only a beginning gives out the identifier of a transaction
  | begin description chosen =>
    rcases result with r | (_ | t) <;> rfl
  | _ => rfl

/-! ## What one command does about transactions -/

/-- What a command and its result tell of transactions, and what becomes of those that a store
    keeps. -/
inductive Passage (s : Store) (e : Command × Except Refusal (Option Int32)) (s' : Store) : Prop
  | still (begins : beginning? e = none) (ends : ending? e = none)
      (kept : s'.transactions = s.transactions)
  | began {t : TransactionId} {description : String} (begins : beginning? e = some (t, description))
      (ends : ending? e = none) (fresh : s.transactions.find? t = none)
      (kept : s'.transactions = s.transactions.insert t ⟨description, .active⟩)
  | ended {t : TransactionId} {x : TransactionState} {description : String}
      (begins : beginning? e = none) (ends : ending? e = some (t, x))
      (active : s.transactions.find? t = some ⟨description, .active⟩)
      (kept : s'.transactions = s.transactions.insert t ⟨description, x⟩)

variable {s s' : Store} {log : Transcript}

/-- **A command begins a transaction, ends one, or has nothing to do with them.** -/
theorem Consistent.passage (h : s.Consistent) (c : Command) :
    Passage s (c, (s.perform c).1) (s.perform c).2 := by
  rcases s.perform_cases c with ⟨result, hresult, he⟩ | ⟨r, hr⟩
  · rw [hresult]
    generalize (s.perform c).2 = s' at he ⊢
    cases he with
    -- what begins is new, since the store is consistent
    | begun free next => exact .began rfl rfl (h.find?_eq_none free) rfl
    | completed active => exact .ended rfl rfl active rfl
    | failed active => exact .ended rfl rfl active rfl
    | _ => exact .still rfl rfl rfl
  · -- a refused command neither begins a transaction nor ends one
    rw [hr]
    cases c <;> exact .still rfl rfl rfl

theorem transactionState?_eq_none_iff {t : TransactionId} :
    s.transactionState? t = none ↔ s.transactions.find? t = none := by
  rw [transactionState?, Option.map_eq_none_iff]

theorem transactionState?_of_kept {t : TransactionId} {x : Transaction}
    (h : s'.transactions = s.transactions.insert t x) (j : TransactionId) :
    s'.transactionState? j = if j = t then some x.state else s.transactionState? j := by
  rw [transactionState?, h, SortedMap.find?_insert]
  split <;> rfl

theorem description?_of_kept {t : TransactionId} {x : Transaction}
    (h : s'.transactions = s.transactions.insert t x) (j : TransactionId) :
    s'.description? j = if j = t then some x.description else s.description? j := by
  rw [description?, h, SortedMap.find?_insert]
  split <;> rfl

/-! ## What transcripts tell -/

/-- A store keeps of transactions what a transcript tells: those that were begun, with their
    descriptions, and the states of those that have ended. None was begun twice, and none has ended
    twice. -/
structure Told (log : Transcript) (s : Store) : Prop where
  described : ∀ t d, s.description? t = some d ↔ (t, d) ∈ beginnings log
  finished : ∀ t x, x ≠ .active → (s.transactionState? t = some x ↔ (t, x) ∈ endings log)
  begunOnce : ((beginnings log).map (·.1)).Nodup
  endedOnce : ((endings log).map (·.1)).Nodup

/-- Nothing is told of a new store. -/
theorem Told.new (header : Plate.Header) (shortName fullName : String) :
    Told [] (Store.new header shortName fullName) where
  described t d := by simp [Store.new, description?, beginnings]
  finished t x hx := by simp [Store.new, transactionState?, endings]
  begunOnce := List.nodup_nil
  endedOnce := List.nodup_nil

/-- A transaction is unknown exactly if the transcript does not begin it. -/
theorem Told.state_eq_none_iff (h : Told log s) {t : TransactionId} :
    s.transactionState? t = none ↔ ∀ d, (t, d) ∉ beginnings log := by
  have hdescription : s.transactionState? t = none ↔ s.description? t = none := by
    rw [transactionState?, description?, Option.map_eq_none_iff, Option.map_eq_none_iff]
  rw [hdescription, Option.eq_none_iff_forall_ne_some]
  exact forall_congr' fun d => not_congr (h.described t d)

/-- What is unknown or active has not ended. -/
theorem Told.not_mem_endings (h : Told log s) {t : TransactionId}
    (ht : ∀ x, s.transactionState? t = some x → x = .active) (x : TransactionState) :
    (t, x) ∉ endings log := by
  intro hmem
  -- an end that is told of is one that the store keeps
  have hx := ne_active_of_mem_endings hmem
  exact hx (ht x ((h.finished t x hx).2 hmem))

/-- Keys stay distinct when one is added that is new. -/
theorem nodup_map_fst_concat {α β : Type} {l : List (α × β)} {a : α} {b : β}
    (h : (l.map (·.1)).Nodup) (hnew : ∀ y, (a, y) ∉ l) : ((l ++ [(a, b)]).map (·.1)).Nodup := by
  rw [List.map_append]
  refine pairwise_concat h fun x hx e => ?_
  obtain ⟨⟨a', y⟩, hmem, rfl⟩ := List.mem_map.1 hx
  obtain rfl : a' = a := e
  exact hnew y hmem

/-- One more command keeps the store in step with the transcript. -/
theorem Told.passage (h : Told log s) {e : Command × Except Refusal (Option Int32)}
    (p : Passage s e s') : Told (log ++ [e]) s' := by
  cases p with
  | still begins ends kept =>
    -- neither list grows, and what is read off the transactions stays
    have hstate : s'.transactionState? = s.transactionState? := by
      funext t
      rw [transactionState?, transactionState?, kept]
    have hdescription : s'.description? = s.description? := by
      funext t
      rw [description?, description?, kept]
    constructor
    · simpa [hdescription, beginnings_concat, begins] using h.described
    · simpa [hstate, endings_concat, ends] using h.finished
    · simpa [beginnings_concat, begins] using h.begunOnce
    · simpa [endings_concat, ends] using h.endedOnce
  | @began t d begins ends fresh kept =>
    -- nothing was told of the transaction before
    have hunknown : s.transactionState? t = none := transactionState?_eq_none_iff.2 fresh
    have hbegin := h.state_eq_none_iff.1 hunknown
    have hend := h.not_mem_endings (t := t) (by simp [hunknown])
    constructor
    · intro j d'
      rw [description?_of_kept kept, beginnings_concat, begins]
      by_cases hj : j = t
      · subst hj
        simp [hbegin, eq_comm]
      · simp [hj, h.described]
    · intro j x hx
      rw [transactionState?_of_kept kept, endings_concat, ends]
      by_cases hj : j = t
      · subst hj
        simp [hend, hx.symm]
      · simp [hj, h.finished j x hx]
    · rw [beginnings_concat, begins]
      exact nodup_map_fst_concat h.begunOnce hbegin
    · simpa [endings_concat, ends] using h.endedOnce
  | @ended t x d begins ends active kept =>
    -- what ends was active: it has a description, and has not ended yet
    have hdescription : s.description? t = some d := by rw [description?, active]; rfl
    have hstate : s.transactionState? t = some .active := by rw [transactionState?, active]; rfl
    have hend := h.not_mem_endings (t := t) (by simp [hstate])
    constructor
    · intro j d'
      rw [description?_of_kept kept, beginnings_concat, begins]
      by_cases hj : j = t
      · subst hj
        simp [← h.described, hdescription]
      · simp [hj, h.described]
    · intro j y hy
      rw [transactionState?_of_kept kept, endings_concat, ends]
      by_cases hj : j = t
      · subst hj
        simp [hend, eq_comm]
      · simp [hj, h.finished j y hy]
    · simpa [beginnings_concat, begins] using h.begunOnce
    · rw [endings_concat, ends]
      exact nodup_map_fst_concat h.endedOnce hend

/-- What a store keeps of transactions after a run is what the transcript of the run tells. -/
theorem Told.run (h : Told log s) (hs : s.Consistent) (cs : List Command) :
    Told (log ++ s.transcript cs) (s.run cs) := by
  -- a transaction that begins is new only in a store that is consistent
  have hstep : ∀ {log : Transcript} {s : Store} (c : Command), Told log s ∧ s.Consistent →
      Told (log ++ [(c, (s.perform c).1)]) (s.perform c).2 ∧ (s.perform c).2.Consistent :=
    fun c h => ⟨h.1.passage (h.2.passage c), h.2.perform c⟩
  exact (transcript_induction (P := fun log s => Told log s ∧ s.Consistent) hstep ⟨h, hs⟩ cs).1

/-- What a plate keeps of transactions is what the transcript of all that was ever done to it tells.
    -/
theorem told_transcript (header : Plate.Header) (shortName fullName : String)
    (cs : List Command) :
    let s := Store.new header shortName fullName
    Told (s.transcript cs) (s.run cs) :=
  (Told.new header shortName fullName).run (.new header shortName fullName) cs

end TileIndex.Store
