import TileIndex.Client.Answer
import TileIndex.Proofs.SortedMap
import TileIndex.Service

/-!
# Updates that can wait

An update changes the records of one tile of one plate. A request that neither looks at those
records nor ends a transaction or a blob of the plate gets the same reply before the update as after
it, and the service ends up the same in either order.

## Main statements

- `Service.handle_apply`: one update commutes with such a request.
- `Service.handle_foldl_apply`: so do all the updates that wait for one plate.
-/

namespace TileIndex

/-! ## Stores -/

namespace Store

/-- An update leaves the reservation of a blob alone. -/
theorem reserveBlob_apply (st : Store) (u : Update) :
    (st.apply u).reserveBlob = st.reserveBlob.map fun (b, st') => (b, st'.apply u) := by
  unfold reserveBlob
  have hn : (st.apply u).nextBlob = st.nextBlob := rfl
  -- what is reserved depends on the next blob alone
  rw [hn]
  cases successor? st.nextBlob <;> rfl

/-- It leaves the beginning of a transaction alone. -/
theorem begin_apply (st : Store) (u : Update) (description : String)
    (chosen : Option TransactionId) :
    (st.apply u).begin description chosen =
      (st.begin description chosen).map fun (t, st') => (t, st'.apply u) := by
  unfold Store.begin
  have hi : (st.apply u).identifier chosen = st.identifier chosen := rfl
  -- what is begun depends on the transactions alone
  rw [hi]
  cases st.identifier chosen with
  | error r => rfl
  | ok t =>
    simp only
    cases successor? t <;> rfl

/-- A call that need not go out after the updates that wait is answered alike before and after one. -/
theorem serve_apply (st : Store) (u : Update) {c : PlateCall} (h : c.flushesFirst = false) :
    (st.apply u).serve c = (st.serve c).map fun (reply, st') => (reply, st'.apply u) := by
  cases c with
  | reserveBlob size =>
    simp only [serve, reserveBlob_apply]
    cases st.reserveBlob <;> rfl
  | beginTransaction description chosen =>
    simp only [serve, begin_apply]
    cases st.begin description chosen <;> rfl
  | readCursor => rfl
  -- every other call goes out after the updates that wait
  | _ => cases h

end Store

/-! ## Services -/

namespace Service

@[simp] theorem root_apply (s : Service) (u : Update) : (s.apply u).root = s.root := rfl
@[simp] theorem names_apply (s : Service) (u : Update) : (s.apply u).names = s.names := rfl
@[simp] theorem nextPlate_apply (s : Service) (u : Update) :
    (s.apply u).nextPlate = s.nextPlate := rfl

@[simp] theorem contains_apply (s : Service) (u : Update) (p : PlateId) :
    (s.apply u).plates.contains p = s.plates.contains p :=
  SortedMap.contains_adjust ..

/-- An update changes the store of its own plate, and no other. -/
theorem store_apply (s : Service) (u : Update) (p : PlateId) :
    (s.apply u).store p = if p = u.plate then (s.store p).map (·.apply u) else s.store p := by
  unfold store apply
  simp only [SortedMap.find?_adjust]
  -- the plate of the update, or another
  by_cases hp : p = u.plate
  · rw [if_pos hp, if_pos hp]
    cases s.plates.find? p <;> rfl
  · rw [if_neg hp, if_neg hp]

theorem apply_comm (s : Service) {u w : Update} (h : u.plate ≠ w.plate) :
    (s.apply u).apply w = (s.apply w).apply u := by
  simp only [apply, SortedMap.adjust_adjust_of_ne _ _ _ h]

/-- An update commutes with a batch for other plates. -/
theorem foldl_apply_comm (s : Service) (u : Update) {us : List Update}
    (h : ∀ w ∈ us, w.plate ≠ u.plate) : us.foldl apply (s.apply u) = (us.foldl apply s).apply u := by
  induction us generalizing s with
  | nil => rfl
  | cons w us ih =>
    have hw : u.plate ≠ w.plate := (h w (List.mem_cons_self ..)).symm
    simp only [List.foldl_cons]
    -- the update moves past one update of the batch at a time
    rw [apply_comm s hw]
    exact ih _ fun v hv => h v (List.mem_cons_of_mem _ hv)

end Service

/-! ## Requests -/

/-- Whether the updates that wait for a plate can be written after a request as well as before it:
    it neither looks at the records of the plate nor ends a transaction or a blob of it. Requests
    about other plates are of this kind. -/
def Request.Passes (p : PlateId) : Request → Prop
  | .openPlate _ => True
  | .createPlate _ _ => True
  | .applyUpdates us => ∀ u ∈ us, u.plate ≠ p
  | .onPlate q c => q = p → c.flushesFirst = false

namespace Service

variable (s : Service) (u : Update)

/-- An update leaves the opening of plates alone. -/
theorem openPlate_apply (name : String) : (s.apply u).openPlate name = s.openPlate name := by
  unfold openPlate
  simp only [names_apply]
  cases s.names.find? name with
  | none => rfl
  | some p =>
    show ((s.apply u).store p).map Store.opened = (s.store p).map Store.opened
    rw [store_apply]
    split
    · -- an update leaves the header and the names of a plate as they are
      cases s.store p <;> rfl
    · rfl

/-- It leaves the creation of another plate alone. -/
theorem createPlate_apply (name : String) (header : Plate.Header) (h : u.plate ≠ s.nextPlate) :
    (s.apply u).createPlate name header =
      (s.createPlate name header).map fun (reply, s') => (reply, s'.apply u) := by
  unfold createPlate
  rw [names_apply, nextPlate_apply, root_apply]
  -- the checks are made in order, and none looks at the tiles
  by_cases h₁ : (!isPlateName name) = true
  · simp only [if_pos h₁, Except.map]
  by_cases h₂ : (!Plate.isTileSize header.tileSize) = true
  · simp only [if_neg h₁, if_pos h₂, Except.map]
  by_cases h₃ : s.names.contains name = true
  · simp only [if_neg h₁, if_neg h₂, if_pos h₃, Except.map]
  simp only [if_neg h₁, if_neg h₂, if_neg h₃]
  cases Store.successor? s.nextPlate with
  | none => rfl
  | some following =>
    -- the new plate is another one than that of the update
    simp only [apply, Except.map, SortedMap.adjust_insert_of_ne _ _ _ h]

/-- It leaves a batch for other plates alone. -/
theorem applyUpdates_apply {us : List Update} (h : ∀ w ∈ us, w.plate ≠ u.plate) :
    (s.apply u).applyUpdates us =
      (s.applyUpdates us).map fun (reply, s') => (reply, s'.apply u) := by
  unfold applyUpdates
  simp only [contains_apply, foldl_apply_comm s u h]
  cases us.find? fun w => !s.plates.contains w.plate <;> rfl

/-- It leaves a call alone that is about another plate, or need not go out after it. -/
theorem callPlate_apply (p : PlateId) (c : PlateCall) (h : p = u.plate → c.flushesFirst = false) :
    (s.apply u).callPlate p c =
      (s.callPlate p c).map fun (reply, s') => (reply, s'.apply u) := by
  unfold callPlate
  rw [store_apply]
  by_cases hp : p = u.plate
  · -- a call on the plate of the update: the store serves it after the update as before
    subst hp
    rw [if_pos rfl]
    cases s.store u.plate with
    | error r => rfl
    | ok st =>
      simp only [Except.map, st.serve_apply u (h rfl)]
      cases st.serve c with
      | error r => rfl
      | ok answer =>
        simp only [apply, SortedMap.insert_adjust_self, SortedMap.adjust_insert_self]
  · -- a call on another plate: the two stores are changed apart
    rw [if_neg hp]
    cases s.store p with
    | error r => rfl
    | ok st =>
      simp only
      cases st.serve c with
      | error r => rfl
      | ok answer =>
        simp only [apply, Except.map, SortedMap.adjust_insert_of_ne _ _ _ (Ne.symm hp)]

/-- So it leaves every request alone that passes it. -/
theorem dispatch_apply {r : Request} (h : r.Passes u.plate) (hn : u.plate ≠ s.nextPlate) :
    (s.apply u).dispatch r = (s.dispatch r).map fun (reply, s') => (reply, s'.apply u) := by
  cases r with
  | openPlate name =>
    simp only [dispatch, openPlate_apply]
    cases s.openPlate name <;> rfl
  | createPlate name header => exact createPlate_apply s u name header hn
  | applyUpdates us => exact applyUpdates_apply s u h
  | onPlate p c => exact callPlate_apply s u p c h

/-- **One update commutes with a request that passes it.** -/
theorem handle_apply {r : Request} (h : r.Passes u.plate) (hn : u.plate ≠ s.nextPlate) :
    (s.apply u).handle r = ((s.handle r).1, (s.handle r).2.apply u) := by
  unfold handle
  rw [dispatch_apply s u h hn]
  -- a refusal changes nothing, before the update or after it
  cases s.dispatch r <;> rfl

/-- All the updates that wait for a plate and a request that passes them can come in either order. -/
theorem handle_foldl_apply {p : PlateId} {us : List Update} (hus : ∀ w ∈ us, w.plate = p)
    {r : Request} (h : r.Passes p) (hn : p ≠ s.nextPlate) :
    (us.foldl apply s).handle r = ((s.handle r).1, us.foldl apply (s.handle r).2) := by
  -- by induction on the updates that wait
  induction us generalizing s with
  | nil => rfl
  | cons w us ih =>
    have hw : w.plate = p := hus w (List.mem_cons_self ..)
    have hs := handle_apply s w (hw.symm ▸ h) (hw.symm ▸ hn)
    simp only [List.foldl_cons]
    rw [ih (s.apply w) (fun v hv => hus v (List.mem_cons_of_mem _ hv)) hn, hs]

end Service

end TileIndex
