import TileIndex.Proofs.Logs
import TileIndex.Proofs.SortedMap
import TileIndex.Store

/-!
# What commands do to a store

A command that is granted has one of six effects, and one that is refused has none. What holds of
every store that commands can lead to is read off the effects: identifiers of transactions stay
below the next one, the cursor stays at a transaction that was completed, and a transaction that has
ended stays as it ended.

## Main statements

- `Store.effect_of_attempt`: a granted command has one of the effects.
- `Store.Consistent.run`: transactions and the cursor stay consistent.
- `Store.Consistent.transactionState?_run`: transactions end once.
-/

namespace TileIndex

namespace Store

/-! ## Identifiers -/

/-- A successor is one more, also as an integer: it never wraps. -/
theorem toInt_of_successor? {n following : Int32} (h : successor? n = some following) :
    following.toInt = n.toInt + 1 := by
  unfold successor? at h
  split at h
  · simp at h
  · rename_i hn
    -- the number is not the greatest, so the sum stays in range
    have hmax : n.toInt ≠ 2 ^ 31 - 1 := by
      rw [← Int32.toInt_maxValue]
      exact fun e => hn (Int32.toInt_inj.1 e)
    have hlo := n.le_toInt
    have hhi := n.toInt_lt
    have hone : (1 : Int32).toInt = 1 := rfl
    obtain rfl := Option.some.inj h
    rw [Int32.toInt_add, hone, Int.bmod_eq_of_le (by omega) (by omega)]

/-- A successor is greater than what it succeeds. -/
theorem lt_of_successor? {n following : Int32} (h : successor? n = some following) :
    n < following := by
  have := toInt_of_successor? h
  rw [Int32.lt_iff_toInt_lt]
  omega

theorem successor?_eq_none_iff {n : Int32} : successor? n = none ↔ n = Int32.maxValue := by
  unfold successor?
  split <;> simp_all

/-- The maximum of two numbers is the one that is not below the other. -/
theorem max_cases (a b : Int32) : max a b = a ∧ b ≤ a ∨ max a b = b ∧ a ≤ b := by
  have hmax : max a b = if a ≤ b then b else a := rfl
  rw [hmax]
  by_cases h : a ≤ b
  · exact .inr ⟨if_pos h, h⟩
  · exact .inl ⟨if_neg h, (Int32.le_total a b).resolve_left h⟩

theorem le_max_left (a b : Int32) : a ≤ max a b := by
  rcases max_cases a b with ⟨e, -⟩ | ⟨e, h⟩
  · exact e.symm ▸ Int32.le_refl a
  · exact e.symm ▸ h

theorem le_max_right (a b : Int32) : b ≤ max a b := by
  rcases max_cases a b with ⟨e, h⟩ | ⟨e, -⟩
  · exact e.symm ▸ h
  · exact e.symm ▸ Int32.le_refl b

/-! ## Effects -/

/-- What a command that is granted does: what it returns, and the store after it. -/
inductive Effect (s : Store) : Command → Option Int32 → Store → Prop
  | written (u : Update) : Effect s (.apply u) none (s.apply u)
  | begun {description : String} {chosen : Option TransactionId} {t following : TransactionId}
      (free : chosen = none ∧ t = s.nextTransaction ∨
        chosen = some t ∧ 0 ≤ t ∧ s.transactions.contains t = false)
      (next : successor? t = some following) :
      Effect s (.begin description chosen) (some t)
        { s with
          nextTransaction := max s.nextTransaction following
          transactions := s.transactions.insert t ⟨description, .active⟩ }
  | completed {t : TransactionId} {moveCursor : Bool} {description : String}
      (active : s.transactions.find? t = some ⟨description, .active⟩) :
      Effect s (.complete t moveCursor) none
        { s with
          transactions := s.transactions.insert t ⟨description, .completed⟩
          cursor := if moveCursor then max s.cursor t else s.cursor }
  | failed {t : TransactionId} {description : String}
      (active : s.transactions.find? t = some ⟨description, .active⟩) :
      Effect s (.fail t) none
        { s with transactions := s.transactions.insert t ⟨description, .failed⟩ }
  | reserved {following : BlobId} (next : successor? s.nextBlob = some following) :
      Effect s .reserveBlob (some s.nextBlob)
        { s with nextBlob := following, reserved := s.reserved.insert s.nextBlob () }
  | released {b : BlobId} (held : s.reserved.contains b = true) :
      Effect s (.releaseBlob b) none { s with reserved := s.reserved.erase b }

variable {s s' : Store}

/-- An identifier that is granted is the next one, or was chosen, is not negative and is free. -/
theorem identifier_eq_ok {chosen : Option TransactionId} {t : TransactionId}
    (h : s.identifier chosen = .ok t) : chosen = none ∧ t = s.nextTransaction ∨
      chosen = some t ∧ 0 ≤ t ∧ s.transactions.contains t = false := by
  unfold identifier at h
  split at h
  · -- nothing was chosen
    exact .inl ⟨rfl, (Except.ok.inj h).symm⟩
  · split at h
    · simp at h
    split at h
    · simp at h
    -- what was chosen passed both checks
    rename_i hneg htaken
    obtain rfl := Except.ok.inj h
    exact .inr ⟨rfl, Int32.not_lt.1 hneg, by simpa using htaken⟩

/-- What beginning a transaction does. -/
theorem effect_of_begin {description : String} {chosen : Option TransactionId} {t : TransactionId}
    (h : s.begin description chosen = .ok (t, s')) :
    Effect s (.begin description chosen) (some t) s' := by
  unfold Store.begin at h
  split at h
  · simp at h
  rename_i hfree
  split at h
  · simp at h
  rename_i hnext
  obtain ⟨rfl, rfl⟩ := Prod.mk.inj (Except.ok.inj h)
  exact .begun (identifier_eq_ok hfree) hnext

/-- Only an active transaction ends, and it keeps its description. -/
theorem finish_eq_ok {t : TransactionId} {state : TransactionState}
    (h : s.finish t state = .ok s') :
    ∃ description, s.transactions.find? t = some ⟨description, .active⟩ ∧
      s' = { s with transactions := s.transactions.insert t ⟨description, state⟩ } := by
  unfold finish at h
  split at h
  · simp at h
  rename_i x hfound
  split at h
  · rename_i hactive
    obtain ⟨description, state⟩ := x
    obtain rfl : state = .active := hactive
    exact ⟨description, hfound, (Except.ok.inj h).symm⟩
  · simp at h

/-- What completing a transaction does. -/
theorem effect_of_complete {t : TransactionId} {moveCursor : Bool}
    (h : s.complete t moveCursor = .ok s') : Effect s (.complete t moveCursor) none s' := by
  unfold complete at h
  split at h
  · simp at h
  rename_i hfinish
  obtain ⟨description, hactive, rfl⟩ := finish_eq_ok hfinish
  obtain rfl := Except.ok.inj h
  -- the effect names the cursor by a case distinction, which each case decides
  have he : Effect s (.complete t moveCursor) none _ := .completed hactive
  cases moveCursor <;> exact he

theorem effect_of_fail {t : TransactionId} (h : s.fail t = .ok s') :
    Effect s (.fail t) none s' := by
  obtain ⟨description, hactive, rfl⟩ := finish_eq_ok h
  exact .failed hactive

/-- What reserving a blob does. -/
theorem effect_of_reserveBlob {b : BlobId} (h : s.reserveBlob = .ok (b, s')) :
    Effect s .reserveBlob (some b) s' := by
  unfold reserveBlob at h
  split at h
  · simp at h
  rename_i hnext
  obtain ⟨rfl, rfl⟩ := Prod.mk.inj (Except.ok.inj h)
  exact .reserved hnext

/-- What releasing a blob does. -/
theorem effect_of_releaseBlob {b : BlobId} (h : s.releaseBlob b = .ok s') :
    Effect s (.releaseBlob b) none s' := by
  unfold releaseBlob at h
  split at h
  · rename_i hheld
    obtain rfl := Except.ok.inj h
    exact .released hheld
  · simp at h

/-- **A granted command has one of the effects.** -/
theorem effect_of_attempt {c : Command} {result : Option Int32}
    (h : s.attempt c = .ok (result, s')) : Effect s c result s' := by
  cases c with
  | apply u =>
    -- a write is never refused
    obtain ⟨rfl, rfl⟩ := Prod.mk.inj (Except.ok.inj h)
    exact .written u
  | begin description chosen =>
    obtain ⟨⟨t, s₁⟩, hb, hr⟩ := exists_of_map_eq_ok h
    obtain ⟨rfl, rfl⟩ := Prod.mk.inj hr
    exact effect_of_begin hb
  | complete t moveCursor =>
    obtain ⟨s₁, hc, hr⟩ := exists_of_map_eq_ok h
    obtain ⟨rfl, rfl⟩ := Prod.mk.inj hr
    exact effect_of_complete hc
  | fail t =>
    obtain ⟨s₁, hf, hr⟩ := exists_of_map_eq_ok h
    obtain ⟨rfl, rfl⟩ := Prod.mk.inj hr
    exact effect_of_fail hf
  | reserveBlob =>
    obtain ⟨⟨b, s₁⟩, hb, hr⟩ := exists_of_map_eq_ok h
    obtain ⟨rfl, rfl⟩ := Prod.mk.inj hr
    exact effect_of_reserveBlob hb
  | releaseBlob b =>
    obtain ⟨s₁, hb, hr⟩ := exists_of_map_eq_ok h
    obtain ⟨rfl, rfl⟩ := Prod.mk.inj hr
    exact effect_of_releaseBlob hb

/-- A command has its effect, or it is refused and leaves the store as it was. -/
theorem perform_cases (s : Store) (c : Command) :
    (∃ result, (s.perform c).1 = .ok result ∧ Effect s c result (s.perform c).2) ∨
      ∃ r, s.perform c = (.error r, s) := by
  unfold perform
  cases h : s.attempt c with
  | ok answer => exact .inl ⟨answer.1, rfl, effect_of_attempt h⟩
  | error r => exact .inr ⟨r, rfl⟩

/-- A property that every effect preserves is preserved by every command. -/
theorem perform_induction {P : Store → Prop} (s : Store) (c : Command) (h : P s)
    (step : ∀ {result s'}, Effect s c result s' → P s') : P (s.perform c).2 := by
  rcases s.perform_cases c with ⟨result, -, he⟩ | ⟨r, hr⟩
  · exact step he
  · rw [hr]
    exact h

/-! ## Calls -/

/-- A call that is served leaves the store as it was, or has the effect of a command that is no
    write. -/
theorem effect_of_serve {call : PlateCall} {reply : Reply} (h : s.serve call = .ok (reply, s')) :
    s' = s ∨ ∃ c result, Effect s c result s' ∧ ∀ u, c ≠ .apply u := by
  cases call with
  | read tile t exact =>
    -- a read may be refused, and changes nothing
    obtain ⟨r, -, hr⟩ := exists_of_map_eq_ok h
    exact .inl (Prod.mk.inj hr).2.symm
  | reserveBlob size =>
    obtain ⟨⟨b, s₁⟩, hb, hr⟩ := exists_of_map_eq_ok h
    obtain ⟨-, rfl⟩ := Prod.mk.inj hr
    exact .inr ⟨_, _, effect_of_reserveBlob hb, nofun⟩
  | releaseBlob b offset =>
    obtain ⟨s₁, hb, hr⟩ := exists_of_map_eq_ok h
    obtain ⟨-, rfl⟩ := Prod.mk.inj hr
    exact .inr ⟨_, _, effect_of_releaseBlob hb, nofun⟩
  | beginTransaction description chosen =>
    obtain ⟨⟨t, s₁⟩, hb, hr⟩ := exists_of_map_eq_ok h
    obtain ⟨-, rfl⟩ := Prod.mk.inj hr
    exact .inr ⟨_, _, effect_of_begin hb, nofun⟩
  | completeTransaction t moveCursor =>
    obtain ⟨s₁, hc, hr⟩ := exists_of_map_eq_ok h
    obtain ⟨-, rfl⟩ := Prod.mk.inj hr
    exact .inr ⟨_, _, effect_of_complete hc, nofun⟩
  | failTransaction t =>
    obtain ⟨s₁, hf, hr⟩ := exists_of_map_eq_ok h
    obtain ⟨-, rfl⟩ := Prod.mk.inj hr
    exact .inr ⟨_, _, effect_of_fail hf, nofun⟩
  -- the other queries are never refused
  | _ => exact .inl (Prod.mk.inj (Except.ok.inj h)).2.symm

/-- No effect changes the header or the names of a plate. -/
theorem Effect.opened {c : Command} {result : Option Int32} (he : Effect s c result s') :
    s'.opened = s.opened := by
  cases he <;> rfl

theorem Effect.tiles {c : Command} {result : Option Int32} (he : Effect s c result s')
    (hc : ∀ u, c ≠ .apply u) : s'.tiles = s.tiles := by
  cases he with
  | written u => exact absurd rfl (hc u)
  | _ => rfl

/-! ## Transactions -/

/-- The state of a transaction is read off what is kept for it. -/
theorem transactionState?_eq_some_iff {t : TransactionId} {state : TransactionState} :
    s.transactionState? t = some state ↔
      ∃ description, s.transactions.find? t = some ⟨description, state⟩ := by
  unfold transactionState?
  rw [Option.map_eq_some_iff]
  constructor
  · rintro ⟨⟨description, _⟩, hfound, rfl⟩
    exact ⟨description, hfound⟩
  · rintro ⟨description, hfound⟩
    exact ⟨_, hfound, rfl⟩

/-- The transactions that were begun have proper identifiers, and the cursor is at one that was
    completed, unless it was never moved. -/
structure Consistent (s : Store) : Prop where
  numbered : ∀ {t : TransactionId} {x : Transaction}, s.transactions.find? t = some x →
    0 ≤ t ∧ t < s.nextTransaction
  started : 0 < s.nextTransaction
  published : s.cursor = 0 ∨ s.transactionState? s.cursor = some .completed

theorem Consistent.new (header : Plate.Header) (shortName fullName : String) :
    (Store.new header shortName fullName).Consistent where
  numbered h := by simp [Store.new] at h
  started := by show (0 : Int32) < 1; decide
  published := .inl rfl

/-- The identifier of a transaction that begins is new. -/
theorem Consistent.find?_eq_none (h : s.Consistent) {chosen : Option TransactionId}
    {t : TransactionId} (free : chosen = none ∧ t = s.nextTransaction ∨
      chosen = some t ∧ 0 ≤ t ∧ s.transactions.contains t = false) :
    s.transactions.find? t = none := by
  rcases free with ⟨-, rfl⟩ | ⟨-, -, hfree⟩
  · -- nothing is kept at or above the next identifier
    cases hx : s.transactions.find? s.nextTransaction with
    | none => rfl
    | some x => exact absurd (h.numbered hx).2 Int32.lt_irrefl
  · simpa [SortedMap.contains] using hfree

theorem ne_of_ended {t j : TransactionId} {x : Transaction} {description : String}
    (ht : s.transactions.find? t = some x) (hended : x.state ≠ .active)
    (active : s.transactions.find? j = some ⟨description, .active⟩) : t ≠ j := by
  rintro rfl
  exact hended (congrArg Transaction.state (Option.some.inj (ht.symm.trans active)))

/-- Writing a transaction that is kept adds none to those that are. -/
theorem exists_find?_of_insert {t j : TransactionId} {x y z : Transaction}
    (ht : s.transactions.find? t = some z)
    (hj : (s.transactions.insert t y).find? j = some x) : ∃ w, s.transactions.find? j = some w := by
  rcases SortedMap.eq_or_find?_of_insert hj with ⟨rfl, -⟩ | hj
  · exact ⟨z, ht⟩
  · exact ⟨x, hj⟩

/-- A transaction ends once: what it ended as is left alone by every effect. -/
theorem Effect.transactionState?_of_ended {c : Command} {result : Option Int32}
    (he : Effect s c result s') (h : s.Consistent) {t : TransactionId} {state : TransactionState}
    (ht : s.transactionState? t = some state) (hended : state ≠ .active) :
    s'.transactionState? t = some state := by
  obtain ⟨description, hfound⟩ := transactionState?_eq_some_iff.1 ht
  refine transactionState?_eq_some_iff.2 ⟨description, ?_⟩
  cases he with
  | written u => exact hfound
  | reserved next => exact hfound
  | released held => exact hfound
  | @begun _ chosen t' following free next =>
    -- what begins is new, so it is not what has ended
    have hne : t ≠ t' := by
      rintro rfl
      exact Option.some_ne_none _ (hfound.symm.trans (h.find?_eq_none free))
    exact (SortedMap.find?_insert_of_ne _ _ hne).trans hfound
  | completed active =>
    -- what ends now was active before
    exact (SortedMap.find?_insert_of_ne _ _ (ne_of_ended hfound hended active)).trans hfound
  | failed active =>
    exact (SortedMap.find?_insert_of_ne _ _ (ne_of_ended hfound hended active)).trans hfound

/-- The cursor stays where it is, or moves to a transaction that is completed. -/
theorem Effect.cursor_cases {c : Command} {result : Option Int32} (he : Effect s c result s') :
    s'.cursor = s.cursor ∨ s'.transactionState? s'.cursor = some .completed := by
  cases he with
  | @completed t moveCursor description active =>
    cases moveCursor with
    | false => exact .inl rfl
    | true =>
      -- the cursor moves only up to what is completed just now
      rcases max_cases s.cursor t with ⟨e, -⟩ | ⟨e, -⟩
      · exact .inl e
      · refine .inr (transactionState?_eq_some_iff.2 ⟨description, ?_⟩)
        simp only [if_true, e]
        exact SortedMap.find?_insert_self ..
  | _ => exact .inl rfl

/-- Where identifiers are counted from stays, and whatever transaction is kept afterwards was kept
    before or has the identifier that was given out. -/
theorem Effect.numbering {c : Command} {result : Option Int32} (he : Effect s c result s')
    (h : s.Consistent) : s.nextTransaction ≤ s'.nextTransaction ∧
      ∀ {t : TransactionId} {x : Transaction}, s'.transactions.find? t = some x →
        (∃ y, s.transactions.find? t = some y) ∨ 0 ≤ t ∧ t < s'.nextTransaction := by
  cases he with
  | @begun description chosen t following free next =>
    refine ⟨le_max_left .., fun {j x} hj => ?_⟩
    -- either the transaction that begins, or one that was kept
    rcases SortedMap.eq_or_find?_of_insert hj with ⟨rfl, -⟩ | hj
    · refine .inr ⟨?_, Int32.lt_of_lt_of_le (lt_of_successor? next) (le_max_right ..)⟩
      rcases free with ⟨-, rfl⟩ | ⟨-, hpos, -⟩
      · exact Int32.le_of_lt h.started
      · exact hpos
    · exact .inl ⟨x, hj⟩
  | completed active => exact ⟨Int32.le_refl _, fun hj => .inl (exists_find?_of_insert active hj)⟩
  | failed active => exact ⟨Int32.le_refl _, fun hj => .inl (exists_find?_of_insert active hj)⟩
  | _ => exact ⟨Int32.le_refl _, fun {j x} hj => .inl ⟨x, hj⟩⟩

/-- Every effect keeps a store consistent. -/
theorem Consistent.effect (h : s.Consistent) {c : Command} {result : Option Int32}
    (he : Effect s c result s') : s'.Consistent := by
  obtain ⟨hnext, hkept⟩ := he.numbering h
  refine ⟨fun {t x} ht => ?numbered, Int32.lt_of_lt_of_le h.started hnext, ?published⟩
  case numbered =>
    rcases hkept ht with ⟨y, hy⟩ | hnew
    · exact ⟨(h.numbered hy).1, Int32.lt_of_lt_of_le (h.numbered hy).2 hnext⟩
    · exact hnew
  case published =>
    rcases he.cursor_cases with hcursor | hmoved
    · rw [hcursor]
      exact h.published.imp id fun hp => he.transactionState?_of_ended h hp (by decide)
    · exact .inr hmoved

/-- So does every command, granted or not. -/
theorem Consistent.perform (h : s.Consistent) (c : Command) : (s.perform c).2.Consistent :=
  perform_induction s c h fun he => h.effect he

/-- A command leaves what a transaction ended as. -/
theorem Consistent.transactionState?_perform (h : s.Consistent) (c : Command) {t : TransactionId}
    {state : TransactionState} (ht : s.transactionState? t = some state)
    (hended : state ≠ .active) : (s.perform c).2.transactionState? t = some state :=
  perform_induction s c ht fun he => he.transactionState?_of_ended h ht hended

/-! ## Runs -/

@[simp] theorem perform_apply (s : Store) (u : Update) :
    s.perform (.apply u) = (.ok none, s.apply u) := rfl

@[simp] theorem run_nil (s : Store) : s.run [] = s := rfl

@[simp] theorem run_cons (s : Store) (c : Command) (cs : List Command) :
    s.run (c :: cs) = (s.perform c).2.run cs := rfl

@[simp] theorem results_cons (s : Store) (c : Command) (cs : List Command) :
    s.results (c :: cs) = (s.perform c).1 :: (s.perform c).2.results cs := rfl

theorem run_append (s : Store) (cs ds : List Command) : s.run (cs ++ ds) = (s.run cs).run ds := by
  simp [run, List.foldl_append]

/-- Transactions and the cursor stay consistent, whatever is done to a store. -/
theorem Consistent.run (h : s.Consistent) (cs : List Command) : (s.run cs).Consistent := by
  -- by induction on the commands; each keeps the store consistent
  induction cs generalizing s with
  | nil => exact h
  | cons c cs ih => exact ih (h.perform c)

/-- A transaction that has ended stays as it ended. -/
theorem Consistent.transactionState?_run (h : s.Consistent) (cs : List Command)
    {t : TransactionId} {state : TransactionState} (ht : s.transactionState? t = some state)
    (hended : state ≠ .active) : (s.run cs).transactionState? t = some state := by
  induction cs generalizing s with
  | nil => exact ht
  | cons c cs ih => exact ih (h.perform c) (h.transactionState?_perform c ht hended)

/-! ## Transactions that were begun -/

/-- The identifier that a command has given out, if it has begun a transaction. -/
def begun? (c : Command) (result : Except Refusal (Option Int32)) : Option TransactionId :=
  match c, result with
  | .begin .., .ok t => t
  | _, _ => none

/-- The identifiers of the transactions that a run begins, in order. -/
def issued (s : Store) (cs : List Command) : List TransactionId :=
  (cs.zip (s.results cs)).filterMap fun x => begun? x.1 x.2

theorem issued_cons (s : Store) (c : Command) (cs : List Command) :
    s.issued (c :: cs) = (begun? c (s.perform c).1).toList ++ (s.perform c).2.issued cs := by
  simp only [issued, results_cons, List.zip_cons_cons, List.filterMap_cons]
  cases begun? c (s.perform c).1 <;> rfl

/-- A transaction that is kept is kept for ever. -/
theorem Effect.exists_find? {c : Command} {result : Option Int32} (he : Effect s c result s')
    {t : TransactionId} {x : Transaction} (ht : s.transactions.find? t = some x) :
    ∃ y, s'.transactions.find? t = some y := by
  -- an insertion replaces entries or adds one, and takes none away
  have hinsert : ∀ (j : TransactionId) (y : Transaction),
      ∃ z, (s.transactions.insert j y).find? t = some z := by
    intro j y
    rw [SortedMap.find?_insert]
    by_cases hj : t = j
    · exact ⟨y, if_pos hj⟩
    · exact ⟨x, (if_neg hj).trans ht⟩
  cases he with
  | begun free next => exact hinsert ..
  | completed active => exact hinsert ..
  | failed active => exact hinsert ..
  | _ => exact ⟨x, ht⟩

/-- So it is still kept after any run. -/
theorem exists_find?_run {t : TransactionId} {x : Transaction}
    (ht : s.transactions.find? t = some x) (cs : List Command) :
    ∃ y, (s.run cs).transactions.find? t = some y := by
  induction cs generalizing s x with
  | nil => exact ⟨x, ht⟩
  | cons c cs ih =>
    obtain ⟨y, hy⟩ := perform_induction
      (P := fun s' => ∃ y, s'.transactions.find? t = some y) s c ⟨x, ht⟩ fun he => he.exists_find? ht
    exact ih hy

/-- A transaction that a command has begun is kept. -/
theorem exists_find?_of_begun? {c : Command} {t : TransactionId}
    (h : begun? c (s.perform c).1 = some t) :
    ∃ x, (s.perform c).2.transactions.find? t = some x := by
  rcases s.perform_cases c with ⟨result, hr, he⟩ | ⟨r, hr⟩
  · rw [hr] at h
    generalize (s.perform c).2 = s' at he ⊢
    -- no command but a beginning gives out the identifier of a transaction
    cases he with
    | begun free next =>
      obtain rfl := Option.some.inj h
      exact ⟨_, SortedMap.find?_insert_self ..⟩
    | _ => simp [begun?] at h
  · rw [hr] at h
    cases c <;> simp [begun?] at h

/-- Every transaction that a run has issued is kept at its end. -/
theorem exists_find?_of_mem_issued {cs : List Command} {t : TransactionId}
    (h : t ∈ s.issued cs) : ∃ x, (s.run cs).transactions.find? t = some x := by
  induction cs generalizing s with
  | nil => simp [issued] at h
  | cons c cs ih =>
    rw [issued_cons] at h
    -- issued by the first command, and then kept, or by one of the others
    rcases List.mem_append.1 h with h | h
    · obtain ⟨x, hx⟩ := exists_find?_of_begun? (Option.mem_toList.1 h)
      exact exists_find?_run hx cs
    · exact ih h

end Store

end TileIndex
