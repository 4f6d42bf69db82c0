import TileIndex.Proofs.Store.Transcript

/-!
# Identifiers of transactions

Identifiers that are not chosen are counted up from one, and the count is moved past every
identifier that is chosen. So an identifier that is not chosen is greater than all before it,
whatever was chosen in between, and the count ends where the last identifier with a successor has
been given out.

## Main statements

- `Store.Reached.run`: the next identifier is the first one, or follows one that was given out.
- `Store.numbered_issued`: identifiers of transactions grow and are never given out again.
-/

namespace TileIndex.Store

variable {s s' : Store} {t k : TransactionId} {ids : List TransactionId}

/-! ## Successors -/

theorem lt_maxValue_iff {n : Int32} : n < Int32.maxValue ↔ n ≠ Int32.maxValue := by
  constructor
  · rintro h rfl
    exact Int32.lt_irrefl h
  · exact fun h => Int32.lt_of_le_of_ne (Int32.le_maxValue n) h

/-- The last identifier that has a successor. -/
theorem successor?_eq_some_maxValue_iff {n : Int32} :
    successor? n = some Int32.maxValue ↔ n = Int32.maxValue - 1 := by
  constructor
  · intro h
    have hn := toInt_of_successor? h
    have hlast : (Int32.maxValue - 1).toInt + 1 = Int32.maxValue.toInt := by decide
    exact Int32.toInt_inj.1 (by omega)
  · rintro rfl
    decide

theorem toInt_max (a b : Int32) : (max a b).toInt = max a.toInt b.toInt := by
  rcases max_cases a b with ⟨e, h⟩ | ⟨e, h⟩
  · rw [e, Int.max_eq_left (Int32.le_iff_toInt_le.1 h)]
  · rw [e, Int.max_eq_right (Int32.le_iff_toInt_le.1 h)]

/-! ## The next identifier -/

/-- The next identifier is the first one, or follows one of those that were given out. -/
def Reached (ids : List TransactionId) (s : Store) : Prop :=
  s.nextTransaction = 1 ∨ ∃ t ∈ ids, successor? t = some s.nextTransaction

/-- The next identifier stays, or moves to the one after the identifier of a transaction that has
    begun. -/
theorem nextTransaction_cases (s : Store) (c : Command) :
    (s.perform c).2.nextTransaction = s.nextTransaction ∨
      ∃ t, begun? c (s.perform c).1 = some t ∧
        successor? t = some (s.perform c).2.nextTransaction := by
  rcases s.perform_cases c with ⟨result, hresult, he⟩ | ⟨r, hr⟩
  · rw [hresult]
    generalize (s.perform c).2 = s' at he ⊢
    cases he with
    | @begun description chosen t following free next =>
      -- the count stays if the identifier was chosen below it
      rcases max_cases s.nextTransaction following with ⟨e, -⟩ | ⟨e, -⟩
      · exact .inl e
      · exact .inr ⟨t, rfl, next.trans (congrArg some e.symm)⟩
    | _ => exact .inl rfl
  · rw [hr]
    exact .inl rfl

/-- **The next identifier is the first one, or follows one that was given out.** -/
theorem Reached.run (h : Reached ids s) (cs : List Command) :
    Reached (ids ++ s.issued cs) (s.run cs) := by
  -- what has been given out is gathered in `ids`, as the next identifier may follow an old one
  induction cs generalizing s ids with
  | nil => simpa [issued] using h
  | cons c cs ih =>
    -- one command moves the count past what it gives out, or leaves it
    have hnext : Reached (ids ++ (begun? c (s.perform c).1).toList) (s.perform c).2 := by
      rcases s.nextTransaction_cases c with e | ⟨t, ht, hsucc⟩
      · rw [Reached, e]
        rcases h with hone | ⟨t, ht, hsucc⟩
        · exact .inl hone
        · exact .inr ⟨t, List.mem_append_left _ ht, hsucc⟩
      · exact .inr ⟨t, by simp [ht], hsucc⟩
    have := ih hnext
    rwa [List.append_assoc, ← issued_cons] at this

/-- The count is at its end when the last identifier that has a successor has been given out. -/
theorem Reached.nextTransaction_eq_maxValue_iff (h : Reached ids s)
    (hbelow : ∀ i ∈ ids, i < s.nextTransaction) :
    s.nextTransaction = Int32.maxValue ↔ Int32.maxValue - 1 ∈ ids := by
  constructor
  · intro hmax
    -- the count started at one, so an identifier that was given out has led to its end
    rcases h with hone | ⟨t, ht, hsucc⟩
    · exact absurd (hone.symm.trans hmax) (by decide)
    · rw [hmax, successor?_eq_some_maxValue_iff] at hsucc
      exact hsucc ▸ ht
  · intro hlast
    -- nothing lies between the last identifier with a successor and the greatest number
    have hlt := Int32.lt_iff_toInt_lt.1 (hbelow _ hlast)
    have hle := Int32.le_iff_toInt_le.1 (Int32.le_maxValue s.nextTransaction)
    have hpred : (Int32.maxValue - 1).toInt + 1 = Int32.maxValue.toInt := by decide
    exact Int32.toInt_inj.1 (by omega)

/-! ## When transactions can begin -/

/-- An identifier that is not chosen is the next one. -/
theorem eq_next_of_begin {description : String} (h : s.begin description none = .ok (t, s')) :
    t = s.nextTransaction := by
  have he := effect_of_begin h
  cases he with
  | begun free next =>
    rcases free with ⟨-, rfl⟩ | ⟨hnone, -⟩
    · rfl
    · simp at hnone

/-- An identifier that is chosen is given out if it is free and not negative. -/
theorem free_of_begin {description : String} (h : s.begin description (some k) = .ok (t, s')) :
    t = k ∧ 0 ≤ k ∧ s.transactions.contains k = false := by
  have he := effect_of_begin h
  cases he with
  | begun free next =>
    rcases free with ⟨hnone, -⟩ | ⟨hk, hpos, hfree⟩
    · simp at hnone
    · obtain rfl := Option.some.inj hk
      exact ⟨rfl, hpos, hfree⟩

/-- What is given out has a successor, and the count is not below it. -/
theorem successor?_of_begin {description : String} {chosen : Option TransactionId}
    (h : s.begin description chosen = .ok (t, s')) :
    ∃ following, successor? t = some following ∧
      s'.nextTransaction = max s.nextTransaction following := by
  have he := effect_of_begin h
  cases he with
  | begun free next => exact ⟨_, next, rfl⟩

/-- A chosen identifier is granted exactly if it is not negative, has a successor and is free. -/
theorem begin_chosen_iff {description : String} :
    (∃ t s', s.begin description (some k) = .ok (t, s')) ↔
      0 ≤ k ∧ k ≠ Int32.maxValue ∧ s.transactions.contains k = false := by
  constructor
  · rintro ⟨t, s', h⟩
    obtain ⟨rfl, hpos, hfree⟩ := free_of_begin h
    obtain ⟨following, hsucc, -⟩ := successor?_of_begin h
    -- the greatest number has no successor
    refine ⟨hpos, fun hmax => ?_, hfree⟩
    rw [successor?_eq_none_iff.2 hmax] at hsucc
    simp at hsucc
  · rintro ⟨hpos, hmax, hfree⟩
    have hid : s.identifier (some k) = .ok k := by
      simp [identifier, Int32.not_lt.2 hpos, hfree]
    have hsucc : successor? k = some (k + 1) := if_neg hmax
    simp only [Store.begin, hid, hsucc]
    exact ⟨k, _, rfl⟩

/-- One that is not chosen is refused exactly at the end of the count. -/
theorem begin_next_refused_iff {description : String} :
    (∃ r, s.begin description none = .error r) ↔ s.nextTransaction = Int32.maxValue := by
  rw [← successor?_eq_none_iff]
  simp only [Store.begin, identifier]
  cases successor? s.nextTransaction <;> simp

/-! ## Identifiers that a run gives out -/

/-- A store keeps exactly the transactions that were given out. -/
theorem contains_iff_mem_issued (header : Plate.Header) (shortName fullName : String)
    (cs : List Command) (t : TransactionId) :
    let s := Store.new header shortName fullName
    (s.run cs).transactions.contains t = true ↔ t ∈ s.issued cs := by
  intro s
  have htold := told_transcript header shortName fullName cs
  rw [issued_eq_map_beginnings, List.mem_map]
  -- what is kept has a description, and the transcript begins what has one
  constructor
  · intro h
    obtain ⟨x, hx⟩ := Option.isSome_iff_exists.1 h
    refine ⟨(t, x.description), (htold.described t _).1 ?_, rfl⟩
    rw [description?, hx]
    rfl
  · rintro ⟨⟨t, d⟩, hmem, rfl⟩
    obtain ⟨x, hx, -⟩ := Option.map_eq_some_iff.1 ((htold.described t d).2 hmem)
    exact Option.isSome_iff_exists.2 ⟨x, hx⟩

/-- What can be said of the identifiers that have been given out so far, and of the next ones. -/
structure Numbered (ids : List TransactionId) (s : Store) : Prop where
  /-- No identifier is given out twice. -/
  distinct : ids.Nodup
  /-- None is negative, and each has a successor. -/
  bounded : ∀ i ∈ ids, 0 ≤ i ∧ i < Int32.maxValue
  /-- One that is not chosen is greater than all before. -/
  grows : ∀ description t s', s.begin description none = .ok (t, s') → ∀ i ∈ ids, i < t
  /-- One that is not chosen is refused when the last one with a successor has been given out, and
      only then. -/
  exhausted : ∀ description, (∃ r, s.begin description none = .error r) ↔ Int32.maxValue - 1 ∈ ids
  /-- One that is chosen is granted if it is not negative, has a successor and was never given out,
      and only then. -/
  chosen : ∀ description k, (∃ t s', s.begin description (some k) = .ok (t, s')) ↔
    0 ≤ k ∧ k < Int32.maxValue ∧ k ∉ ids
  /-- What is granted is what was chosen. -/
  asChosen : ∀ description k t s', s.begin description (some k) = .ok (t, s') → t = k
  /-- The next identifier is counted as in unbounded integers. -/
  counted : ∀ description chosen t s', s.begin description chosen = .ok (t, s') →
    s'.nextTransaction.toInt = max s.nextTransaction.toInt (t.toInt + 1)

/-- **Identifiers of transactions grow and are never given out again.** After any run of a new
    plate, of all the identifiers that it has given out, chosen or not. -/
theorem numbered_issued (header : Plate.Header) (shortName fullName : String)
    (cs : List Command) :
    let s := Store.new header shortName fullName
    Numbered (s.issued cs) (s.run cs) := by
  intro s
  have hconsistent : (s.run cs).Consistent := (Consistent.new header shortName fullName).run cs
  have hkept (t : TransactionId) : (s.run cs).transactions.contains t = true ↔ t ∈ s.issued cs :=
    contains_iff_mem_issued header shortName fullName cs t
  have hreached : Reached (s.issued cs) (s.run cs) := Reached.run (show Reached [] s from .inl rfl) cs
  -- what was given out is kept, and what is kept lies below the count
  have hbelow : ∀ i ∈ s.issued cs, 0 ≤ i ∧ i < (s.run cs).nextTransaction := by
    intro i hi
    obtain ⟨x, hx⟩ := Option.isSome_iff_exists.1 ((hkept i).2 hi)
    exact hconsistent.numbered hx
  constructor
  case distinct =>
    rw [issued_eq_map_beginnings]
    exact (told_transcript header shortName fullName cs).begunOnce
  case bounded =>
    intro i hi
    exact ⟨(hbelow i hi).1, Int32.lt_of_lt_of_le (hbelow i hi).2 (Int32.le_maxValue _)⟩
  case grows =>
    intro description t s' h i hi
    rw [eq_next_of_begin h]
    exact (hbelow i hi).2
  case exhausted =>
    intro description
    rw [begin_next_refused_iff]
    exact hreached.nextTransaction_eq_maxValue_iff fun i hi => (hbelow i hi).2
  case chosen =>
    intro description k
    rw [begin_chosen_iff, lt_maxValue_iff, ← hkept, Bool.not_eq_true]
  case asChosen => exact fun description k t s' h => (free_of_begin h).1
  case counted =>
    intro description chosen t s' h
    obtain ⟨following, hsucc, hnext⟩ := successor?_of_begin h
    rw [hnext, toInt_max, toInt_of_successor? hsucc]

/-- Chosen identifiers may lie above the count or in a gap below it. One that was given out is
    refused. -/
example :
    let s := Store.new (.unassigned 256 "png" .rgba .uint8) "mars" "/plates/mars"
    s.issued [.begin "first" none, .begin "above" (some 5), .begin "next" none, .begin "gap" (some 3),
      .begin "again" (some 5), .begin "last" none] = [1, 5, 6, 3, 7] :=
  rfl

end TileIndex.Store
