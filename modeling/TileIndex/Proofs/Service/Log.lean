import TileIndex.Proofs.Client.Exchanges
import TileIndex.Proofs.Service.Registry
import TileIndex.Proofs.Store.Log

/-!
# The log behind a service

The updates of the batches that a service has acknowledged, in the order in which it handled them,
say what the tiles of every plate are.

## Main statements

- `Service.find?_foldl_apply`: a batch writes to every plate the updates for it.
- `Service.Logged.handle`: the tiles of every plate stay what its log leads to.
-/

namespace TileIndex

/-- The updates that an exchange has brought to the service: those of a batch that was acknowledged. -/
def Exchange.applied (x : Exchange) : List Update :=
  match x.outcome with
  | .ok .done => x.request.updates
  | _ => []

theorem Exchange.applied_of_done {x : Exchange} (h : x.outcome = .ok .done) :
    x.applied = x.request.updates := by
  rw [applied, h]

/-- A request without updates has brought none. -/
theorem Exchange.applied_of_updates_nil {x : Exchange} (h : x.request.updates = []) :
    x.applied = [] := by
  unfold applied
  split
  · exact h
  · rfl

/-- The plate as it was when it was created. -/
def Store.blank (st : Store) : Store := .new st.header st.shortName st.fullName

/-- A plate that is described alike was created alike. -/
theorem Store.blank_eq_of_opened {st st' : Store} (h : st'.opened = st.opened) :
    st'.blank = st.blank := by
  obtain ⟨hheader, hshort, hfull⟩ := Reply.opened.inj h
  rw [blank, blank, hheader, hshort, hfull]

theorem Store.opened_foldl_apply (st : Store) (us : List Update) :
    (us.foldl Store.apply st).opened = st.opened := by
  rw [Store.foldl_apply_eq]
  rfl

namespace Service

/-- A batch writes to every plate the updates for it. -/
theorem find?_foldl_apply (s : Service) (us : List Update) (p : PlateId) :
    (us.foldl apply s).plates.find? p =
      (s.plates.find? p).map fun st => (us.filter (·.plate = p)).foldl Store.apply st := by
  induction us generalizing s with
  | nil => simp
  | cons u us ih =>
    rw [List.foldl_cons, ih, apply, SortedMap.find?_adjust]
    -- the first update is for the plate or for another
    by_cases hp : u.plate = p
    · subst hp
      simp [Function.comp_def]
    · simp [hp, Ne.symm hp]

/-- The log has all the updates that were ever written to a service, and the tiles of every plate
    are what the updates for it lead to. -/
structure Logged (s : Service) (log : List Update) : Prop where
  consistent : s.Consistent
  known : ∀ u ∈ log, s.plates.contains u.plate = true
  folded : ∀ {p : PlateId} {st : Store}, s.plates.find? p = some st →
    st.tiles = ((log.filter (·.plate = p)).foldl Store.apply st.blank).tiles

theorem Logged.new (root : String) : (Service.new root).Logged [] where
  consistent := .new root
  known u hu := by simp at hu
  folded h := by simp [Service.new] at h

/-- Nothing was written to a plate that is not known. -/
theorem Logged.filter_eq_nil {s : Service} {log : List Update} (h : s.Logged log) {p : PlateId}
    (hp : s.plates.find? p = none) : log.filter (·.plate = p) = [] := by
  rw [List.filter_eq_nil_iff]
  intro u hu hplate
  have hknown := h.known u hu
  rw [of_decide_eq_true hplate] at hknown
  simp [SortedMap.contains, hp] at hknown

/-- A granted request extends the log by the updates that it brings. -/
theorem Logged.granted {s s' : Service} {log : List Update} {r : Request} {reply : Reply}
    (h : s.Logged log) (g : Granted s r reply s') :
    s'.Logged (log ++ (⟨r, .ok reply⟩ : Exchange).applied) := by
  have hconsistent : s'.Consistent := h.consistent.granted g
  cases g with
  -- opening writes nothing
  | opened named found =>
    rw [Exchange.applied_of_updates_nil rfl, List.append_nil]
    exact h
  | @created name header following valid sized free next =>
    rw [Exchange.applied_of_updates_nil rfl, List.append_nil]
    refine ⟨hconsistent, fun u hu => ?_, fun {p st} hf => ?_⟩
    · simp [SortedMap.contains_insert, h.known u hu]
    · rcases SortedMap.eq_or_find?_of_insert hf with ⟨rfl, rfl⟩ | hf
      · -- nothing was written to the new plate before
        have hnone : s.plates.find? s.nextPlate = none := by
          cases hx : s.plates.find? s.nextPlate with
          | none => rfl
          | some st => exact absurd (h.consistent.assigned hx) Int32.lt_irrefl
        rw [h.filter_eq_nil hnone]
        rfl
      · exact h.folded hf
  -- a batch extends the log, and what it leads to plate by plate
  | @written us known =>
    rw [Exchange.applied_of_done rfl]
    refine ⟨hconsistent, fun u hu => ?_, fun {p st'} hf => ?_⟩
    · rw [contains_foldl_apply]
      rcases List.mem_append.1 hu with hu | hu
      · exact h.known u hu
      · exact known u hu
    · rw [find?_foldl_apply] at hf
      obtain ⟨st, hst, rfl⟩ := Option.map_eq_some_iff.1 hf
      rw [Store.blank_eq_of_opened (st.opened_foldl_apply _), List.filter_append,
        List.foldl_append]
      exact Store.tiles_foldl_congr (h.folded hst) _
  | @served q call st₀ st' reply found granted =>
    rw [Exchange.applied_of_updates_nil rfl, List.append_nil]
    refine ⟨hconsistent, fun u hu => ?_, fun {p st} hf => ?_⟩
    · simp [SortedMap.contains_insert, h.known u hu]
    · rcases SortedMap.eq_or_find?_of_insert hf with ⟨rfl, rfl⟩ | hf
      · -- a call is no write, so the tiles are as they were
        have htiles : st.tiles = st₀.tiles := by
          rcases Store.effect_of_serve granted with rfl | ⟨c, result, he, hc⟩
          · rfl
          · exact he.tiles hc
        rw [htiles, Store.blank_eq_of_opened (Store.opened_of_serve granted)]
        exact h.folded found
      · exact h.folded hf

/-- **The tiles of every plate stay what the log leads to**, whatever is asked for. -/
theorem Logged.handle {s : Service} {log : List Update} (h : s.Logged log) (r : Request) :
    (s.handle r).2.Logged (log ++ (⟨r, .ok (s.handle r).1⟩ : Exchange).applied) := by
  rcases s.handle_cases r with g | ⟨refusal, e⟩
  · exact h.granted g
  · -- a refusal writes nothing
    rw [e]
    exact (List.append_nil log).symm ▸ h

end Service

end TileIndex
