import TileIndex.Proofs.Service.Log

/-!
# Batches in any delivery

On their way to a service updates can be cut into other batches, batches can overtake each other,
and one can arrive more than once. What a batch leaves behind is the last update for every place
that it writes to: a tile of a plate under a transaction. So batches that write to no common place
can be swapped, and a batch that comes again changes nothing as long as no other has written to its
places.

## Main statements

- `Store.foldl_apply_ext`: what a batch leaves in a store is what the store keeps afterwards.
- `Service.Keeps.run`: a service keeps what a batch wrote until another writes to its places.
- `Service.tolerant_of_known`: batches can be cut, swapped and repeated.
-/

namespace TileIndex

/-! ## Places -/

/-- The tile and the transaction that an update is about. -/
def Update.slot (u : Update) : Tile.Coordinate × TransactionId :=
  (u.header.coordinate, u.header.transaction)

/-- Where an update is kept: under which plate, tile and transaction. -/
def Update.place (u : Update) : PlateId × Tile.Coordinate × TransactionId := (u.plate, u.slot)

theorem Update.isAbout_iff {u : Update} {c : Tile.Coordinate} {t : TransactionId} :
    u.isAbout c t = true ↔ u.slot = (c, t) := by
  simp [isAbout, slot]

theorem latest?_eq_none_iff {us : List Update} {c : Tile.Coordinate} {t : TransactionId} :
    latest? us c t = none ↔ ∀ u ∈ us, u.slot ≠ (c, t) := by
  simp [latest?, Update.isAbout_iff]

/-- The updates of a batch for one plate do not meet those of another batch. -/
theorem slot_ne_of_place_ne {us ws : List Update} (h : ∀ u ∈ us, ∀ w ∈ ws, u.place ≠ w.place)
    (p : PlateId) : ∀ u ∈ us.filter (·.plate = p), ∀ w ∈ ws.filter (·.plate = p), u.slot ≠ w.slot := by
  intro u hu w hw e
  obtain ⟨hu, hup⟩ := List.mem_filter.1 hu
  obtain ⟨hw, hwp⟩ := List.mem_filter.1 hw
  have hplate : u.plate = w.plate := (of_decide_eq_true hup).trans (of_decide_eq_true hwp).symm
  exact h u hu w hw (Prod.ext hplate e)

/-! ## Stores -/

namespace Store

variable {s s' : Store} {us ws : List Update}

/-- Two stores that have histories of the same tiles and keep the same in them have the same tiles. -/
theorem tiles_ext (htiles : ∀ c, s.tiles.contains c = s'.tiles.contains c)
    (hkept : ∀ c t, s.kept? c t = s'.kept? c t) : s.tiles = s'.tiles := by
  refine SortedMap.ext_find? fun c => ?_
  have hc := htiles c
  have hk := hkept c
  unfold SortedMap.contains at hc
  unfold kept? at hk
  -- neither store has a history of the tile, or both have the same
  cases h : s.tiles.find? c with
  | none =>
    have h' : s'.tiles.find? c = none := by simpa [h] using hc
    rw [h']
  | some m =>
    obtain ⟨m', h'⟩ := Option.isSome_iff_exists.1 (hc.symm.trans (congrArg Option.isSome h))
    rw [h, h'] at hk
    rw [h', SortedMap.ext_find? hk]

/-- A tile has a history after a batch if it had one before or if something is kept for it. -/
theorem contains_foldl_apply_iff_kept? {c : Tile.Coordinate} :
    (us.foldl apply s).tiles.contains c = true ↔
      s.tiles.contains c = true ∨ ∃ t e, (us.foldl apply s).kept? c t = some e := by
  constructor
  · intro h
    rcases contains_foldl_apply.1 h with hold | ⟨u, hu, rfl⟩
    · exact .inl hold
    · -- the last update about the tile under this transaction is kept
      refine .inr ⟨u.header.transaction, ?_⟩
      rw [kept?_foldl_apply]
      cases hlast : latest? us u.header.coordinate u.header.transaction with
      | none => exact absurd rfl (latest?_eq_none_iff.1 hlast u hu)
      | some w => exact ⟨w.entry, rfl⟩
  · rintro (hold | ⟨t, e, he⟩)
    · exact contains_foldl_apply.2 (.inl hold)
    · -- what is kept is kept in a history
      obtain ⟨m, hm, -⟩ := Option.bind_eq_some_iff.1 he
      exact Option.isSome_iff_exists.2 ⟨m, hm⟩

/-- What a batch leaves in a store is what the store keeps afterwards. -/
theorem foldl_apply_ext
    (h : ∀ c t, (us.foldl apply s).kept? c t = (ws.foldl apply s).kept? c t) :
    us.foldl apply s = ws.foldl apply s := by
  have htiles : (us.foldl apply s).tiles = (ws.foldl apply s).tiles := by
    refine tiles_ext (fun c => ?_) h
    rw [Bool.eq_iff_iff, contains_foldl_apply_iff_kept?, contains_foldl_apply_iff_kept?]
    simp only [h]
  rw [foldl_apply_eq s us, htiles, ← foldl_apply_eq]

/-- Batches about different tiles or transactions can be swapped. -/
theorem foldl_apply_swap (h : ∀ u ∈ us, ∀ w ∈ ws, u.slot ≠ w.slot) :
    (us ++ ws).foldl apply s = (ws ++ us).foldl apply s := by
  refine foldl_apply_ext fun c t => ?_
  rw [kept?_foldl_apply, kept?_foldl_apply, latest?_append, latest?_append]
  cases hu : latest? us c t with
  | none => simp
  | some u =>
    -- only one of the two batches is about the tile under the transaction
    have hw : latest? ws c t = none := by
      rw [latest?_eq_none_iff]
      intro w hw e
      obtain ⟨hmem, hc, ht⟩ := mem_of_latest? hu
      exact h u hmem w hw (e ▸ Prod.ext hc ht)
    simp [hw]

/-- A store keeps what a batch has written: the last update about every tile and transaction. -/
def Keeps (s : Store) (us : List Update) : Prop :=
  ∀ c t u, latest? us c t = some u → s.kept? c t = some u.entry

/-- A batch that was just written is kept. -/
theorem keeps_foldl_apply (s : Store) (us : List Update) : Keeps (us.foldl apply s) us := by
  intro c t u hu
  rw [kept?_foldl_apply, hu]
  rfl

/-- A batch that is kept already changes nothing. -/
theorem Keeps.foldl_apply_eq_self (h : s.Keeps us) : us.foldl apply s = s := by
  show us.foldl apply s = [].foldl apply s
  refine foldl_apply_ext fun c t => ?_
  rw [kept?_foldl_apply]
  cases hu : latest? us c t with
  | none => rfl
  | some u => exact (h c t u hu).symm

/-- A batch is kept while others write elsewhere. -/
theorem Keeps.foldl_apply (h : s.Keeps us) (hne : ∀ w ∈ ws, ∀ u ∈ us, w.slot ≠ u.slot) :
    Keeps (ws.foldl apply s) us := by
  intro c t u hu
  -- the other batch has no update about what the first has written
  have hw : latest? ws c t = none := by
    rw [latest?_eq_none_iff]
    intro w hw e
    obtain ⟨hmem, hc, ht⟩ := mem_of_latest? hu
    exact hne w hw u hmem (e.trans (Prod.ext hc ht).symm)
  rw [kept?_foldl_apply, hw]
  exact h c t u hu

theorem Keeps.of_tiles (h : s.Keeps us) (htiles : s'.tiles = s.tiles) : s'.Keeps us := by
  intro c t u hu
  rw [kept?_congr htiles]
  exact h c t u hu

end Store

/-! ## Services -/

namespace Service

variable {s s' : Service} {us ws : List Update}

/-- What a batch leaves in a service is what it leaves in every plate. -/
theorem foldl_apply_ext (h : ∀ p st, s.plates.find? p = some st →
    (us.filter (·.plate = p)).foldl Store.apply st = (ws.filter (·.plate = p)).foldl Store.apply st) :
    us.foldl apply s = ws.foldl apply s := by
  have hplates : (us.foldl apply s).plates = (ws.foldl apply s).plates := by
    refine SortedMap.ext_find? fun p => ?_
    rw [find?_foldl_apply, find?_foldl_apply]
    cases hst : s.plates.find? p with
    | none => rfl
    | some st => rw [Option.map_some, Option.map_some, h p st hst]
  rw [foldl_apply_eq s us, hplates, ← foldl_apply_eq]

/-- Batches that write to no common place can be swapped. -/
theorem foldl_apply_swap (h : ∀ u ∈ us, ∀ w ∈ ws, u.place ≠ w.place) :
    (us ++ ws).foldl apply s = (ws ++ us).foldl apply s := by
  refine foldl_apply_ext fun p st hst => ?_
  rw [List.filter_append, List.filter_append]
  exact Store.foldl_apply_swap (slot_ne_of_place_ne h p)

/-- Every plate keeps what a batch has written to it. -/
def Keeps (s : Service) (us : List Update) : Prop :=
  ∀ p st, s.plates.find? p = some st → st.Keeps (us.filter (·.plate = p))

/-- A batch that was just written is kept by every plate. -/
theorem keeps_foldl_apply (s : Service) (us : List Update) : Keeps (us.foldl apply s) us := by
  intro p st hst
  rw [find?_foldl_apply] at hst
  obtain ⟨st₀, -, rfl⟩ := Option.map_eq_some_iff.1 hst
  exact Store.keeps_foldl_apply st₀ _

/-- A batch that every plate keeps already changes nothing. -/
theorem Keeps.foldl_apply_eq_self (h : s.Keeps us) : us.foldl apply s = s := by
  show us.foldl apply s = [].foldl apply s
  refine foldl_apply_ext fun p st hst => ?_
  exact (h p st hst).foldl_apply_eq_self

/-! ## Runs between two deliveries -/

/-- The identifier of the next plate never goes back. -/
theorem nextPlate_le_handle (s : Service) (r : Request) :
    s.nextPlate ≤ (s.handle r).2.nextPlate := by
  rcases s.handle_cases r with g | ⟨refusal, e⟩
  · generalize (s.handle r).1 = reply at g
    generalize (s.handle r).2 = s' at g ⊢
    cases g with
    -- only a creation moves it, and forwards
    | created valid sized free next => exact Int32.le_of_lt (Store.lt_of_successor? next)
    | written known =>
      rw [foldl_apply_eq]
      exact Int32.le_refl _
    | _ => exact Int32.le_refl _
  · rw [e]
    exact Int32.le_refl _

/-- No batch that a run is granted writes to a place of some updates. -/
def Spares (s : Service) (us : List Update) (rs : List Request) : Prop :=
  ∀ e ∈ s.transcript rs, e.2 = .done → ∀ w ∈ e.1.updates, ∀ u ∈ us, w.place ≠ u.place

instance (s : Service) (us : List Update) (rs : List Request) : Decidable (s.Spares us rs) :=
  inferInstanceAs (Decidable (∀ e ∈ s.transcript rs, _))

/-- A batch is kept when a request is granted that does not write to its places. A plate that is
    created is none of those that the batch has written to. -/
theorem Keeps.granted (h : s.Keeps us) (hbelow : ∀ u ∈ us, u.plate < s.nextPlate) {r : Request}
    {reply : Reply} (hne : reply = .done → ∀ w ∈ r.updates, ∀ u ∈ us, w.place ≠ u.place)
    (g : Granted s r reply s') : s'.Keeps us := by
  cases g with
  | opened named found => exact h
  | created valid sized free next =>
    intro p st hst
    rcases SortedMap.eq_or_find?_of_insert hst with ⟨rfl, -⟩ | hst
    · -- nothing of the batch is for the new plate
      have hnone : us.filter (·.plate = s.nextPlate) = [] := by
        rw [List.filter_eq_nil_iff]
        intro u hu e
        exact KeyOrder.ne_of_lt (hbelow u hu) (of_decide_eq_true e)
      rw [hnone]
      intro c t u hu
      simp [latest?] at hu
    · exact h p st hst
  | @written ws known =>
    intro p st hst
    rw [find?_foldl_apply] at hst
    obtain ⟨st₀, hst₀, rfl⟩ := Option.map_eq_some_iff.1 hst
    exact (h p st₀ hst₀).foldl_apply (slot_ne_of_place_ne (hne rfl) p)
  | @served q call st₀ st' reply found granted =>
    intro p st hst
    rcases SortedMap.eq_or_find?_of_insert hst with ⟨rfl, rfl⟩ | hst
    · -- a call is no write
      refine (h p st₀ found).of_tiles ?_
      rcases Store.effect_of_serve granted with rfl | ⟨c, result, he, hc⟩
      · rfl
      · exact he.tiles hc
    · exact h p st hst

/-- A service keeps what a batch wrote until another one writes to its places. -/
theorem Keeps.run (h : s.Keeps us) (hbelow : ∀ u ∈ us, u.plate < s.nextPlate) {rs : List Request}
    (hspares : s.Spares us rs) : (s.run rs).Keeps us := by
  induction rs generalizing s with
  | nil => exact h
  | cons r rs ih =>
    have hkept : (s.handle r).2.Keeps us := by
      rcases s.handle_cases r with g | ⟨refusal, e⟩
      · exact h.granted hbelow (hspares (r, (s.handle r).1) (List.mem_cons_self ..)) g
      · rw [e]
        exact h
    -- plates that are created later are later than those of the batch
    have hbelow' : ∀ u ∈ us, u.plate < (s.handle r).2.nextPlate := by
      intro u hu
      exact Int32.lt_of_lt_of_le (hbelow u hu) (s.nextPlate_le_handle r)
    exact ih hkept hbelow' fun e he => hspares e (List.mem_cons_of_mem _ he)

/-! ## Deliveries -/

/-- A batch comes again after a run that was granted no batch for its places, and nothing changes. -/
theorem run_repeated (ha : ∀ u ∈ us, s.plates.contains u.plate = true)
    (hbelow : ∀ u ∈ us, u.plate < s.nextPlate) {rs : List Request}
    (hspares : (s.run [.applyUpdates us]).Spares us rs) :
    s.run (.applyUpdates us :: rs ++ [.applyUpdates us]) = s.run (.applyUpdates us :: rs) := by
  rw [run_cons, run_nil, handle_applyUpdates_of_known ha] at hspares
  rw [run_append, run_cons, run_cons, handle_applyUpdates_of_known ha]
  -- the first delivery is kept through the run, so the second finds it in place
  have hkept : Keeps ((us.foldl apply s).run rs) us := by
    refine (keeps_foldl_apply s us).run (fun u hu => ?_) hspares
    rw [foldl_apply_eq]
    exact hbelow u hu
  have hknown : ∀ u ∈ us, ((us.foldl apply s).run rs).plates.contains u.plate = true := by
    intro u hu
    exact contains_run ((contains_foldl_apply s us _).trans (ha u hu)) rs
  rw [handle_applyUpdates_of_known hknown]
  exact hkept.foldl_apply_eq_self

/-- The plates that a service knows are older than those that are still to be created, if requests
    have led to the service. -/
theorem lt_nextPlate_of_known (root : String) (past : List Request)
    (ha : ∀ u ∈ us, ((Service.new root).run past).plates.contains u.plate = true) :
    ∀ u ∈ us, u.plate < ((Service.new root).run past).nextPlate := by
  intro u hu
  obtain ⟨st, hst⟩ := Option.isSome_iff_exists.1 (ha u hu)
  exact ((Consistent.new root).run past).assigned hst

/-- What becomes of two batches in other deliveries. -/
structure Tolerant (s : Service) (a b : List Update) : Prop where
  /-- The batches are granted, together or one after the other. -/
  granted : (s.handle (.applyUpdates (a ++ b))).1 = .done ∧
    s.replies [.applyUpdates a, .applyUpdates b] = [.done, .done]
  /-- It makes no difference where the updates are cut into batches. -/
  cut : s.run [.applyUpdates (a ++ b)] = s.run [.applyUpdates a, .applyUpdates b]
  /-- If they write to no common place, the batches can be swapped. -/
  swapped : (∀ u ∈ a, ∀ w ∈ b, u.place ≠ w.place) →
    s.run [.applyUpdates a, .applyUpdates b] = s.run [.applyUpdates b, .applyUpdates a]
  /-- If the plates of a batch are older than those that are still to be created, the batch can come
      again after any run that has been granted no batch that writes to its places. -/
  repeated : (∀ u ∈ a, u.plate < s.nextPlate) → ∀ rs, (s.run [.applyUpdates a]).Spares a rs →
    s.run (.applyUpdates a :: rs ++ [.applyUpdates a]) = s.run (.applyUpdates a :: rs)
  /-- In a service that requests have led to, the plates that are known are older. -/
  older : ∀ root past, s = (Service.new root).run past → ∀ u ∈ a, u.plate < s.nextPlate
  /-- So in a service that requests have led to, any batch can come again after any such run. -/
  redelivered : ∀ root past, s = (Service.new root).run past →
    ∀ rs, (s.run [.applyUpdates a]).Spares a rs →
      s.run (.applyUpdates a :: rs ++ [.applyUpdates a]) = s.run (.applyUpdates a :: rs)

/-- **Batches can be cut, swapped and repeated.** In every service, for all batches whose plates are
    known. -/
theorem tolerant_of_known {a b : List Update} (ha : ∀ u ∈ a, s.plates.contains u.plate = true)
    (hb : ∀ u ∈ b, s.plates.contains u.plate = true) : Tolerant s a b := by
  have hab : ∀ u ∈ a ++ b, s.plates.contains u.plate = true := by
    intro u hu
    rcases List.mem_append.1 hu with hu | hu
    · exact ha u hu
    · exact hb u hu
  -- a plate that is known stays known while batches are written
  have hlater : ∀ {us ws : List Update}, (∀ u ∈ ws, s.plates.contains u.plate = true) →
      (us.foldl apply s).handle (.applyUpdates ws) = (.done, (us ++ ws).foldl apply s) := by
    intro us ws hws
    rw [handle_applyUpdates_of_known fun u hu => (contains_foldl_apply s us _).trans (hws u hu),
      List.foldl_append]
  constructor
  case granted =>
    rw [replies_cons, replies_cons, handle_applyUpdates_of_known hab,
      handle_applyUpdates_of_known ha, hlater hb]
    exact ⟨rfl, rfl⟩
  case cut =>
    rw [run_cons, run_cons, run_cons, handle_applyUpdates_of_known hab,
      handle_applyUpdates_of_known ha, hlater hb]
  case swapped =>
    intro hne
    rw [run_cons, run_cons, run_cons, run_cons, handle_applyUpdates_of_known ha, hlater hb,
      handle_applyUpdates_of_known hb, hlater ha]
    exact foldl_apply_swap hne
  case repeated => exact fun hbelow rs hspares => run_repeated ha hbelow hspares
  case older =>
    rintro root past rfl
    exact lt_nextPlate_of_known root past ha
  case redelivered =>
    rintro root past rfl rs hspares
    exact run_repeated ha (lt_nextPlate_of_known root past ha) hspares

/-- Two batches for two plates, of which the first one writes twice to one place. It comes again after
    calls, a creation, a batch for another place, and one for its own place that is refused. -/
theorem tolerant_of_known_two :
    let header : Plate.Header := .unassigned 256 "png" .rgba .uint8
    let s := (Service.new "/plates").run [.createPlate "mars" header, .createPlate "venus" header]
    let update (p : PlateId) (t : TransactionId) (b : BlobId) : Update :=
      ⟨p, ⟨0, 0, 1, t, "png"⟩, .stored b 0 9⟩
    let a := [update 1 1 0, update 2 1 1, update 1 1 2]
    let b := [update 1 2 3, update 2 2 4]
    let rs : List Request := [.onPlate 1 (.beginTransaction "own" none), .applyUpdates [update 1 3 5],
      .createPlate "moon" header, .applyUpdates [update 1 1 6, update 9 1 7],
      .onPlate 1 (.failTransaction 1)]
    (∀ u ∈ a, s.plates.contains u.plate = true) ∧ (∀ u ∈ b, s.plates.contains u.plate = true) ∧
      (∀ u ∈ a, ∀ w ∈ b, u.place ≠ w.place) ∧ (s.run [.applyUpdates a]).Spares a rs ∧
      Tolerant s a b := by
  intro header s update a b rs
  exact ⟨by decide, by decide, by decide, by decide, tolerant_of_known (by decide) (by decide)⟩

end Service

end TileIndex
