import TileIndex.Proofs.Service.Registry
import TileIndex.Proofs.Store.InPlace

/-!
# Services that change in place

Requests told in the steps in which a running service carries them out. The service keeps what a
request has changed when the request is refused half-way: a counter that was moved on, a name that
was put down, the first updates of a batch. None of this ever happens. Whatever can be refused is
found out before the first change that shows, so a refused request leaves every service as it was,
whether requests could have led to it or not.

## Main statements

- `InPlace.answer_eq_handle`: a request in steps has the reply and the effect of `Service.handle`.
- `InPlace.atomic_answer`: faults are atomic, and queries change nothing.
-/

namespace TileIndex

/-- Whether a request only looks at what a service keeps. -/
def Request.looksOnly : Request → Bool
  | .openPlate _ | .onPlate _ (.read ..) | .onPlate _ (.multiRead ..) | .onPlate _ (.validTiles ..)
  | .onPlate _ .numLevels | .onPlate _ .readCursor => true
  | _ => false

namespace InPlace

/-! ## Requests -/

/-- Work on the store of a plate, where the service keeps it. -/
def onStore {α : Type} (p : PlateId) (w : Work Store α) : Work Service α := fun s =>
  match s.plates.find? p with
  | none => .error (.unknownPlate p) s
  | some st =>
    match w.run st with
    | .ok a st' => .ok a { s with plates := s.plates.insert p st' }
    | .error r st' => .error r { s with plates := s.plates.insert p st' }

/-- Open a plate by its name. -/
def openPlate (name : String) : Work Service Reply := do
  match (← get).names.find? name with
  | none => throw (.noPlateNamed name)
  | some p => onStore p (return (← get).opened)

/-- Create a plate: the next identifier is moved on, then the name is put down, and then the store. -/
def createPlate (name : String) (header : Plate.Header) : Work Service Reply := do
  if !Service.isPlateName name then throw (.invalidName name)
  else if !Plate.isTileSize header.tileSize then throw (.invalidTileSize header.tileSize)
  else if (← get).names.contains name then throw (.nameInUse name)
  else
    let p := (← get).nextPlate
    match Store.successor? p with
    | none => throw .platesExhausted
    | some following =>
      modify fun s => { s with nextPlate := following }
      let st := Store.new { header with id := some p } name ((← get).root ++ "/" ++ name)
      modify fun s => { s with names := s.names.insert name p }
      modify fun s => { s with plates := s.plates.insert p st }
      return st.opened

/-- Write a batch of updates: every plate is looked up, and then one update is written after
    another, to a plate that is looked up again. -/
def applyUpdates (us : List Update) : Work Service Reply := do
  let s ← get
  match us.find? fun u => !s.plates.contains u.plate with
  | some u => throw (.unknownPlate u.plate)
  | none =>
    forM us fun u => onStore u.plate (modify fun st => st.apply u)
    return .done

/-- Carry out a request. -/
def dispatch : Request → Work Service Reply
  | .openPlate name => openPlate name
  | .createPlate name header => createPlate name header
  | .applyUpdates us => applyUpdates us
  | .onPlate p call => onStore p (serve call)

/-- The reply to a request, and the service after it. A refusal is a fault, and the service is as
    the refused request has left it. -/
def answer (s : Service) (r : Request) : Reply × Service :=
  match (dispatch r).run s with
  | .ok reply s' => (reply, s')
  | .error refusal s' => (.fault refusal.fault, s')

/-! ## Endings -/

variable {s : Service}

/-- Work on a store that ends well leaves the store that it comes to; a refusal leaves the one
    before. -/
theorem run_onStore_of_found {α : Type} {p : PlateId} {st : Store} (h : s.plates.find? p = some st)
    {w : Work Store α} {result : Except Refusal (α × Store)} (hw : w.run st = ending st result) :
    (onStore p w).run s =
      ending s (result.map fun (a, st') => (a, { s with plates := s.plates.insert p st' })) := by
  simp only [onStore, EStateM.run, h]
  rw [EStateM.run] at hw
  rw [hw]
  cases result with
  | ok answer => rfl
  | error r =>
    -- the store that is put back is the one that was there
    simp only [ending, Except.map, SortedMap.insert_of_find? h]

theorem run_onStore_of_unknown {α : Type} {p : PlateId} (h : s.plates.find? p = none)
    (w : Work Store α) : (onStore p w).run s = .error (.unknownPlate p) s := by
  simp only [onStore, EStateM.run, h]

/-- To open a plate in steps is to open it at once. -/
theorem run_openPlate (name : String) (s : Service) :
    (openPlate name).run s = ending s ((s.openPlate name).map fun reply => (reply, s)) := by
  simp only [openPlate, Service.openPlate, EStateM.run_bind, EStateM.run_get]
  cases s.names.find? name with
  | none => rfl
  | some p =>
    simp only [Service.store]
    -- a name may stand for a plate only if the plate is kept; the steps look it up all the same
    cases h : s.plates.find? p with
    | none => exact run_onStore_of_unknown h _
    | some st =>
      have hw : (return (← get).opened : Work Store Reply).run st = ending st (.ok (st.opened, st)) := rfl
      rw [run_onStore_of_found h hw]
      simp only [ending, Except.map, SortedMap.insert_of_find? h]

/-- So it is with creating one. -/
theorem run_createPlate (name : String) (header : Plate.Header) (s : Service) :
    (createPlate name header).run s = ending s (s.createPlate name header) := by
  unfold createPlate Service.createPlate
  -- one check after another, in the order of the steps; the changes come after the last one
  by_cases h₁ : (!Service.isPlateName name) = true
  · rw [if_pos h₁, if_pos h₁]
    rfl
  rw [if_neg h₁, if_neg h₁]
  by_cases h₂ : (!Plate.isTileSize header.tileSize) = true
  · rw [if_pos h₂, if_pos h₂]
    rfl
  rw [if_neg h₂, if_neg h₂]
  simp only [EStateM.run_bind, EStateM.run_get]
  by_cases h₃ : s.names.contains name = true
  · rw [if_pos h₃, if_pos h₃]
    rfl
  rw [if_neg h₃, if_neg h₃]
  simp only [EStateM.run_bind, EStateM.run_get]
  cases Store.successor? s.nextPlate <;> rfl

/-- Once all plates of a batch are known, no update is refused. -/
theorem run_forM_of_known {us : List Update} (h : ∀ u ∈ us, s.plates.contains u.plate = true) :
    (forM us fun u => onStore u.plate (modify fun st => st.apply u) : Work Service PUnit).run s =
      .ok ⟨⟩ (us.foldl Service.apply s) := by
  -- by induction on the batch, with the service that the earlier updates have led to
  induction us generalizing s with
  | nil => rfl
  | cons u us ih =>
    obtain ⟨st, hst⟩ := Option.isSome_iff_exists.1 (h u (List.mem_cons_self ..))
    have hw : (modify fun st => st.apply u : Work Store PUnit).run st =
        ending st (.ok (⟨⟩, st.apply u)) := rfl
    have happly : { s with plates := s.plates.insert u.plate (st.apply u) } = s.apply u := by
      simp only [Service.apply, SortedMap.adjust, hst]
    -- a plate that is known stays known while others are written
    have hlater : ∀ w ∈ us, (s.apply u).plates.contains w.plate = true := by
      intro w hw
      rw [Service.apply, SortedMap.contains_adjust]
      exact h w (List.mem_cons_of_mem _ hw)
    rw [List.forM_cons, EStateM.run_bind, run_onStore_of_found hst hw]
    simp only [ending, Except.map, happly]
    exact ih hlater

/-- So it is with a batch: all of it is written, or nothing. -/
theorem run_applyUpdates (us : List Update) (s : Service) :
    (applyUpdates us).run s = ending s (s.applyUpdates us) := by
  simp only [applyUpdates, Service.applyUpdates, EStateM.run_bind, EStateM.run_get]
  cases h : us.find? fun u => !s.plates.contains u.plate with
  | some u => rfl
  | none =>
    -- every plate was looked up before the first update
    have hknown : ∀ u ∈ us, s.plates.contains u.plate = true := by
      simpa [List.find?_eq_none] using h
    simp only [EStateM.run_bind, run_forM_of_known hknown]
    rfl

/-- So it is with a call on a plate. -/
theorem run_callPlate (p : PlateId) (call : PlateCall) (s : Service) :
    (onStore p (serve call)).run s = ending s (s.callPlate p call) := by
  simp only [Service.callPlate, Service.store]
  cases h : s.plates.find? p with
  | none => exact run_onStore_of_unknown h _
  | some st =>
    -- what the steps do to the store is known, so the service around it follows
    rw [run_onStore_of_found h (run_serve call st)]
    simp only
    cases st.serve call <;> rfl

/-- A request in steps has the result that it has at once, and leaves the service as it was if it is
    refused. -/
theorem run_dispatch (r : Request) (s : Service) :
    (dispatch r).run s = ending s (s.dispatch r) := by
  cases r with
  | openPlate name => exact run_openPlate name s
  | createPlate name header => exact run_createPlate name header s
  | applyUpdates us => exact run_applyUpdates us s
  | onPlate p call => exact run_callPlate p call s

/-- **A request in steps has the reply and the effect of a request at once.** -/
theorem answer_eq_handle (s : Service) (r : Request) : answer s r = s.handle r := by
  rw [answer, run_dispatch, Service.handle]
  cases s.dispatch r <;> rfl

/-! ## Faults and queries -/

/-- A request that is granted gets no fault. -/
theorem isFault_of_granted {s' : Service} {r : Request} {reply : Reply}
    (g : Service.Granted s r reply s') : reply.isFault = false := by
  cases g with
  | opened named found => rfl
  | created valid sized free next => rfl
  | written known => rfl
  | served found granted =>
    -- a call that is granted has an answer, and faults are no answers
    obtain ⟨a, ha⟩ := Store.exists_answer_of_serve granted
    cases reply with
    | fault f => simp [Answer.ofReply] at ha
    | _ => rfl

/-- A fault leaves the service as it was. -/
theorem handle_of_isFault {r : Request} (h : (s.handle r).1.isFault = true) :
    (s.handle r).2 = s := by
  rcases s.handle_cases r with g | ⟨refusal, e⟩
  · -- a granted request would have got no fault
    rw [isFault_of_granted g] at h
    simp at h
  · rw [e]

/-- A call that only looks leaves the store as it was. -/
theorem store_of_looksOnly {p : PlateId} {call : PlateCall} {st st' : Store} {reply : Reply}
    (hlooks : (Request.onPlate p call).looksOnly = true) (h : st.serve call = .ok (reply, st')) :
    st' = st := by
  cases call with
  | read c t exact =>
    obtain ⟨r, -, hr⟩ := exists_of_map_eq_ok h
    exact (Prod.mk.inj hr).2.symm
  | multiRead c first last => exact (Prod.mk.inj (Except.ok.inj h)).2.symm
  | validTiles level region first last atLeast => exact (Prod.mk.inj (Except.ok.inj h)).2.symm
  | numLevels => exact (Prod.mk.inj (Except.ok.inj h)).2.symm
  | readCursor => exact (Prod.mk.inj (Except.ok.inj h)).2.symm
  -- the other calls change something
  | _ => simp [Request.looksOnly] at hlooks

/-- A request that only looks leaves the service as it was. -/
theorem handle_of_looksOnly {r : Request} (h : r.looksOnly = true) : (s.handle r).2 = s := by
  rcases s.handle_cases r with g | ⟨refusal, e⟩
  · generalize (s.handle r).1 = reply at g
    generalize (s.handle r).2 = s' at g ⊢
    cases g with
    | opened named found => rfl
    | created valid sized free next => simp [Request.looksOnly] at h
    | written known => simp [Request.looksOnly] at h
    | served found granted =>
      -- the store that is put back is the one that was there
      simp only [store_of_looksOnly h granted, SortedMap.insert_of_find? found]
  · rw [e]

/-- What a request that is carried out in steps can do to a service. -/
structure Atomic (s : Service) (r : Request) : Prop where
  /-- The steps have the reply and the effect that `Service.handle` has. -/
  handled : answer s r = s.handle r
  /-- A fault leaves plates, names and counters as they were. -/
  undone : (answer s r).1.isFault = true → (answer s r).2 = s
  /-- A request that only looks changes nothing, whatever its reply is. -/
  looking : r.looksOnly = true → (answer s r).2 = s
  /-- A batch that names an unknown plate anywhere is refused, and none of its updates is written. -/
  unknown : ∀ us, r = .applyUpdates us → (∃ u ∈ us, s.plates.contains u.plate = false) →
    (answer s r).1.isFault = true ∧ (answer s r).2 = s
  /-- A batch whose plates are all known is granted, and all its updates are written. -/
  known : ∀ us, r = .applyUpdates us → (∀ u ∈ us, s.plates.contains u.plate = true) →
    answer s r = (.done, us.foldl Service.apply s)

/-- **Faults are atomic and queries are pure.** In every service, reached by requests or not, and
    for every request. -/
theorem atomic_answer (s : Service) (r : Request) : Atomic s r where
  handled := answer_eq_handle s r
  undone h := by
    rw [answer_eq_handle] at h ⊢
    exact handle_of_isFault h
  looking h := by
    rw [answer_eq_handle]
    exact handle_of_looksOnly h
  unknown := by
    rintro us rfl hunknown
    obtain ⟨p, e⟩ := Service.handle_applyUpdates_of_unknown hunknown
    rw [answer_eq_handle, e]
    exact ⟨rfl, rfl⟩
  known := by
    rintro us rfl hknown
    rw [answer_eq_handle, Service.handle_applyUpdates_of_known hknown]

end InPlace

end TileIndex
