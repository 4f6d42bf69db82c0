import TileIndex.Client.Answer
import TileIndex.Proofs.Store.Commands
import TileIndex.Service

/-!
# The plates of a service

What a granted request does to a service, and what holds of the plates of every service that
requests can lead to: each is kept under the identifier in its own header, below the identifier that
the next plate will have.

## Main statements

- `Service.granted_of_dispatch`: a granted request opens, creates, writes or serves a call.
- `Service.Consistent.run`: the plates of a service stay consistent.
-/

namespace TileIndex

/-! ## Stores -/

namespace Store

/-- No call changes the header or the names of a plate. -/
theorem opened_of_serve {st st' : Store} {c : PlateCall} {reply : Reply}
    (h : st.serve c = .ok (reply, st')) : st'.opened = st.opened := by
  rcases effect_of_serve h with rfl | ⟨command, result, he, -⟩
  · rfl
  · exact he.opened

/-- The reply to a call that is served is an answer to that call. -/
theorem exists_answer_of_serve {st st' : Store} {c : PlateCall} {reply : Reply}
    (h : st.serve c = .ok (reply, st')) : ∃ a, Answer.ofReply c reply = .ok a := by
  cases c with
  | read tile t exact =>
    obtain ⟨r, -, hr⟩ := exists_of_map_eq_ok h
    rw [← (Prod.mk.inj hr).1]
    exact ⟨.record r, rfl⟩
  | reserveBlob size =>
    obtain ⟨⟨b, st₁⟩, -, hr⟩ := exists_of_map_eq_ok h
    rw [← (Prod.mk.inj hr).1]
    exact ⟨.blob b, rfl⟩
  | beginTransaction description chosen =>
    obtain ⟨⟨t, st₁⟩, -, hr⟩ := exists_of_map_eq_ok h
    rw [← (Prod.mk.inj hr).1]
    exact ⟨.transaction t, rfl⟩
  | releaseBlob b offset =>
    obtain ⟨st₁, -, hr⟩ := exists_of_map_eq_ok h
    rw [← (Prod.mk.inj hr).1]
    exact ⟨.done, rfl⟩
  | completeTransaction t moveCursor =>
    obtain ⟨st₁, -, hr⟩ := exists_of_map_eq_ok h
    rw [← (Prod.mk.inj hr).1]
    exact ⟨.done, rfl⟩
  | failTransaction t =>
    obtain ⟨st₁, -, hr⟩ := exists_of_map_eq_ok h
    rw [← (Prod.mk.inj hr).1]
    exact ⟨.done, rfl⟩
  -- what is left are the queries that are never refused
  | _ =>
    simp only [serve, Except.ok.injEq, Prod.mk.injEq] at h
    rw [← h.1]
    exact ⟨_, rfl⟩

end Store

/-! ## Granted requests -/

namespace Service

/-- The store of a plate that is about to be created. -/
def founded (s : Service) (name : String) (header : Plate.Header) : Store :=
  Store.new { header with id := some s.nextPlate } name (s.root ++ "/" ++ name)

/-- What a request that is granted does: the reply that it gets, and the service after it. -/
inductive Granted (s : Service) : Request → Reply → Service → Prop
  | opened {name : String} {p : PlateId} {st : Store} (named : s.names.find? name = some p)
      (found : s.plates.find? p = some st) : Granted s (.openPlate name) st.opened s
  | created {name : String} {header : Plate.Header} {following : PlateId}
      (valid : isPlateName name = true) (sized : Plate.isTileSize header.tileSize = true)
      (free : s.names.contains name = false)
      (next : Store.successor? s.nextPlate = some following) :
      Granted s (.createPlate name header) (s.founded name header).opened
        { s with
          plates := s.plates.insert s.nextPlate (s.founded name header)
          names := s.names.insert name s.nextPlate
          nextPlate := following }
  | written {us : List Update} (known : ∀ u ∈ us, s.plates.contains u.plate = true) :
      Granted s (.applyUpdates us) .done (us.foldl apply s)
  | served {p : PlateId} {c : PlateCall} {st st' : Store} {reply : Reply}
      (found : s.plates.find? p = some st) (granted : st.serve c = .ok (reply, st')) :
      Granted s (.onPlate p c) reply { s with plates := s.plates.insert p st' }

/-- A store that is found is the one that is kept. -/
theorem store_eq_ok {s : Service} {p : PlateId} {st : Store} (h : s.store p = .ok st) :
    s.plates.find? p = some st := by
  unfold store at h
  split at h
  · rename_i st' hf
    simp only [Except.ok.injEq] at h
    rw [hf, h]
  · simp at h

/-- A plate that was created has passed every check. -/
theorem granted_of_createPlate {s s' : Service} {name : String} {header : Plate.Header}
    {reply : Reply} (h : s.createPlate name header = .ok (reply, s')) :
    Granted s (.createPlate name header) reply s' := by
  unfold createPlate at h
  split at h
  · simp at h
  split at h
  · simp at h
  split at h
  · simp at h
  -- the name is one, the size is one, and the name is free
  rename_i hv hz hn
  split at h
  · simp at h
  · rename_i following hf
    simp only [Except.ok.injEq, Prod.mk.injEq] at h
    rw [← h.1, ← h.2]
    exact .created (by simpa using hv) (by simpa using hz) (by simpa using hn) hf

/-- A batch that was written names known plates alone. -/
theorem granted_of_applyUpdates {s s' : Service} {us : List Update} {reply : Reply}
    (h : s.applyUpdates us = .ok (reply, s')) : Granted s (.applyUpdates us) reply s' := by
  unfold applyUpdates at h
  split at h
  · simp at h
  · rename_i hf
    simp only [Except.ok.injEq, Prod.mk.injEq] at h
    rw [← h.1, ← h.2]
    exact .written (by simpa [List.find?_eq_none] using hf)

/-- A call that was answered was served by the store of its plate. -/
theorem granted_of_callPlate {s s' : Service} {p : PlateId} {c : PlateCall} {reply : Reply}
    (h : s.callPlate p c = .ok (reply, s')) : Granted s (.onPlate p c) reply s' := by
  unfold callPlate at h
  split at h
  · simp at h
  · rename_i st hs
    split at h
    · simp at h
    · rename_i reply' st' hc
      simp only [Except.ok.injEq, Prod.mk.injEq] at h
      rw [← h.1, ← h.2]
      exact .served (store_eq_ok hs) hc

/-- **A granted request opens, creates, writes or serves a call.** -/
theorem granted_of_dispatch {s s' : Service} {r : Request} {reply : Reply}
    (h : s.dispatch r = .ok (reply, s')) : Granted s r reply s' := by
  cases r with
  | openPlate name =>
    obtain ⟨reply', ho, hr⟩ := exists_of_map_eq_ok h
    obtain ⟨rfl, rfl⟩ := Prod.mk.inj hr
    unfold openPlate at ho
    split at ho
    · simp at ho
    · rename_i p hn
      obtain ⟨st, hs, rfl⟩ := exists_of_map_eq_ok ho
      exact .opened hn (store_eq_ok hs)
  | createPlate name header => exact granted_of_createPlate h
  | applyUpdates us => exact granted_of_applyUpdates h
  | onPlate p c => exact granted_of_callPlate h

/-- A request is granted, or it gets a fault and leaves the service as it was. -/
theorem handle_cases (s : Service) (r : Request) :
    Granted s r (s.handle r).1 (s.handle r).2 ∨
      ∃ refusal : Refusal, s.handle r = (.fault refusal.fault, s) := by
  unfold handle
  cases h : s.dispatch r with
  | ok answer => exact Or.inl (granted_of_dispatch h)
  | error refusal => exact Or.inr ⟨refusal, rfl⟩

/-- A batch for known plates is written. -/
theorem handle_applyUpdates_of_known {s : Service} {us : List Update}
    (h : ∀ u ∈ us, s.plates.contains u.plate = true) :
    s.handle (.applyUpdates us) = (.done, us.foldl apply s) := by
  have hnone : us.find? (fun u => !s.plates.contains u.plate) = none := by
    simpa [List.find?_eq_none] using h
  simp only [handle, dispatch, applyUpdates, hnone]

/-- A batch that names an unknown plate gets a fault and leaves the service as it was. -/
theorem handle_applyUpdates_of_unknown {s : Service} {us : List Update}
    (h : ∃ u ∈ us, s.plates.contains u.plate = false) :
    ∃ p, s.handle (.applyUpdates us) = (.fault (Refusal.unknownPlate p).fault, s) := by
  cases hfind : us.find? (fun u => !s.plates.contains u.plate) with
  | none =>
    obtain ⟨u, hu, hunknown⟩ := h
    have hknown := List.find?_eq_none.1 hfind u hu
    simp [hunknown] at hknown
  | some u =>
    refine ⟨u.plate, ?_⟩
    simp only [handle, dispatch, applyUpdates, hfind]

/-- A batch that was acknowledged names known plates alone. -/
theorem known_of_done {s : Service} {us : List Update}
    (h : (s.handle (.applyUpdates us)).1 = .done) : ∀ u ∈ us, s.plates.contains u.plate = true := by
  intro u hu
  cases hc : s.plates.contains u.plate with
  | true => rfl
  | false =>
    -- with an unknown plate the batch would have got a fault
    obtain ⟨p, e⟩ := handle_applyUpdates_of_unknown ⟨u, hu, hc⟩
    rw [e] at h
    simp at h

/-- A call on a known plate is answered by its store. -/
theorem handle_onPlate_of_found {s : Service} {p : PlateId} {st : Store}
    (h : s.plates.find? p = some st) (c : PlateCall) :
    s.handle (.onPlate p c) =
      match st.serve c with
      | .ok (reply, st') => (reply, { s with plates := s.plates.insert p st' })
      | .error refusal => (.fault refusal.fault, s) := by
  simp only [handle, dispatch, callPlate, store, h]
  cases st.serve c <;> rfl

/-! ## Runs -/

@[simp] theorem run_nil (s : Service) : s.run [] = s := rfl

@[simp] theorem run_cons (s : Service) (r : Request) (rs : List Request) :
    s.run (r :: rs) = (s.handle r).2.run rs := rfl

@[simp] theorem replies_cons (s : Service) (r : Request) (rs : List Request) :
    s.replies (r :: rs) = (s.handle r).1 :: (s.handle r).2.replies rs := rfl

theorem run_append (s : Service) (rs qs : List Request) : s.run (rs ++ qs) = (s.run rs).run qs := by
  simp [run, List.foldl_append]

/-- Requests with the replies that they got, in the order in which they were handled. -/
abbrev Transcript := List (Request × Reply)

/-- The transcript of a run. -/
def transcript (s : Service) (rs : List Request) : Transcript := rs.zip (s.replies rs)

@[simp] theorem transcript_nil (s : Service) : s.transcript [] = [] := rfl

@[simp] theorem transcript_cons (s : Service) (r : Request) (rs : List Request) :
    s.transcript (r :: rs) = (r, (s.handle r).1) :: (s.handle r).2.transcript rs := rfl

/-- What every request preserves, with its reply put at the end of a log, is preserved by a run with
    its transcript. -/
theorem transcript_induction {P : Transcript → Service → Prop}
    (step : ∀ {log s} (r : Request), P log s → P (log ++ [(r, (s.handle r).1)]) (s.handle r).2)
    {log : Transcript} {s : Service} (h : P log s) (rs : List Request) :
    P (log ++ s.transcript rs) (s.run rs) := by
  -- induction over what is still to be asked, with all that was answered before in `log`
  induction rs generalizing s log with
  | nil => simpa using h
  | cons r rs ih => simpa using ih (step r h)

/-! ## Consistency -/

/-- Every plate is kept under the identifier in its header, and below that of the next plate. -/
structure Consistent (s : Service) : Prop where
  identified : ∀ {p : PlateId} {st : Store}, s.plates.find? p = some st → st.header.id = some p
  assigned : ∀ {p : PlateId} {st : Store}, s.plates.find? p = some st → p < s.nextPlate

theorem Consistent.new (root : String) : (Service.new root).Consistent where
  identified h := by simp [Service.new] at h
  assigned h := by simp [Service.new] at h

/-- An update keeps a service consistent. -/
theorem Consistent.apply {s : Service} (h : s.Consistent) (u : Update) : (s.apply u).Consistent := by
  -- the store that the update changes keeps its header
  have key : ∀ {p : PlateId} {st : Store}, (s.apply u).plates.find? p = some st →
      ∃ st₀, s.plates.find? p = some st₀ ∧ st.header = st₀.header := by
    intro p st hf
    simp only [Service.apply, SortedMap.find?_adjust] at hf
    split at hf
    · obtain ⟨st₀, h₀, rfl⟩ := Option.map_eq_some_iff.1 hf
      exact ⟨st₀, h₀, rfl⟩
    · exact ⟨st, hf, rfl⟩
  constructor
  · intro p st hf
    obtain ⟨st₀, h₀, he⟩ := key hf
    rw [he]
    exact h.identified h₀
  · intro p st hf
    obtain ⟨st₀, h₀, -⟩ := key hf
    exact h.assigned h₀

/-- So does a batch. -/
theorem Consistent.foldl_apply {s : Service} (h : s.Consistent) (us : List Update) :
    (us.foldl Service.apply s).Consistent := by
  induction us generalizing s with
  | nil => exact h
  | cons u us ih => exact ih (h.apply u)

/-- So does every granted request. -/
theorem Consistent.granted {s s' : Service} {r : Request} {reply : Reply} (h : s.Consistent)
    (g : Granted s r reply s') : s'.Consistent := by
  cases g with
  | opened => exact h
  | @created name header following valid sized free next =>
    -- the new plate is below the identifier that comes next
    have hlt : s.nextPlate < following := Store.lt_of_successor? next
    constructor
    · intro p st hf
      rcases SortedMap.eq_or_find?_of_insert hf with ⟨rfl, rfl⟩ | hf
      · rfl
      · exact h.identified hf
    · intro p st hf
      rcases SortedMap.eq_or_find?_of_insert hf with ⟨rfl, rfl⟩ | hf
      · exact hlt
      · exact Int32.lt_trans (h.assigned hf) hlt
  | written => exact h.foldl_apply _
  | @served q c st₀ st' reply found granted =>
    -- no call changes the header
    have ho : st'.header = st₀.header := (Reply.opened.inj (Store.opened_of_serve granted)).1
    constructor
    · intro p st hf
      rcases SortedMap.eq_or_find?_of_insert hf with ⟨rfl, rfl⟩ | hf
      · rw [ho]
        exact h.identified found
      · exact h.identified hf
    · intro p st hf
      rcases SortedMap.eq_or_find?_of_insert hf with ⟨rfl, rfl⟩ | hf
      · exact h.assigned found
      · exact h.assigned hf

/-- So does every request, granted or not. -/
theorem Consistent.handle {s : Service} (h : s.Consistent) (r : Request) :
    (s.handle r).2.Consistent := by
  rcases s.handle_cases r with g | ⟨refusal, e⟩
  · exact h.granted g
  · rw [e]
    exact h

/-- The plates of a service stay consistent, whatever is asked of it. -/
theorem Consistent.run {s : Service} (h : s.Consistent) (rs : List Request) :
    (s.run rs).Consistent := by
  induction rs generalizing s with
  | nil => exact h
  | cons r rs ih => exact ih (h.handle r)

theorem Consistent.ne_nextPlate {s : Service} (h : s.Consistent) {p : PlateId}
    (hp : s.plates.contains p = true) : p ≠ s.nextPlate := by
  obtain ⟨st, hst⟩ := Option.isSome_iff_exists.1 hp
  exact KeyOrder.ne_of_lt (h.assigned hst)

/-! ## Known plates -/

/-- A batch makes no plate known. -/
theorem contains_foldl_apply (s : Service) (us : List Update) (p : PlateId) :
    (us.foldl apply s).plates.contains p = s.plates.contains p := by
  induction us generalizing s with
  | nil => rfl
  | cons u us ih =>
    rw [List.foldl_cons, ih]
    exact SortedMap.contains_adjust ..

/-- A batch changes stores and nothing else. -/
theorem foldl_apply_eq (s : Service) (us : List Update) :
    us.foldl apply s = { s with plates := (us.foldl apply s).plates } := by
  -- by induction on the batch: each update adjusts one store
  induction us generalizing s with
  | nil => rfl
  | cons u us ih => exact ih (s.apply u)

/-- A known plate stays known, whatever is asked for. -/
theorem contains_handle {s : Service} {p : PlateId} (h : s.plates.contains p = true)
    (r : Request) : (s.handle r).2.plates.contains p = true := by
  rcases s.handle_cases r with g | ⟨refusal, e⟩
  · generalize (s.handle r).1 = reply at g
    generalize (s.handle r).2 = s' at g ⊢
    -- no request takes a plate away
    cases g with
    | opened => exact h
    | created => simp [SortedMap.contains_insert, h]
    | written => rw [contains_foldl_apply, h]
    | served => simp [SortedMap.contains_insert, h]
  · rw [e]
    exact h

/-- It is known after every run. -/
theorem contains_run {s : Service} {p : PlateId} (h : s.plates.contains p = true)
    (rs : List Request) : (s.run rs).plates.contains p = true := by
  induction rs generalizing s with
  | nil => exact h
  | cons r rs ih => exact ih (contains_handle h r)

/-- A plate that was opened or created is known from then on. -/
theorem Consistent.contains_of_opened {s : Service} (h : s.Consistent) {r : Request}
    {header : Plate.Header} {shortName fullName : String} {p : PlateId}
    (hr : (s.handle r).1 = .opened header shortName fullName) (hp : header.id = some p) :
    (s.handle r).2.plates.contains p = true := by
  rcases s.handle_cases r with g | ⟨refusal, e⟩
  · rw [hr] at g
    generalize (s.handle r).2 = s' at g ⊢
    generalize hreply : Reply.opened header shortName fullName = reply at g
    cases g with
    | @opened name q st named found =>
      obtain ⟨rfl, -, -⟩ := Reply.opened.inj hreply
      obtain rfl : q = p := Option.some.inj ((h.identified found).symm.trans hp)
      simp [SortedMap.contains, found]
    -- the identifier in the header of a new plate is the one that it was given
    | created =>
      obtain ⟨rfl, -, -⟩ := Reply.opened.inj hreply
      obtain rfl : s.nextPlate = p := Option.some.inj hp
      simp [SortedMap.contains_insert]
    | written => simp at hreply
    | @served q c st st' _ found granted =>
      -- no call is answered in this way
      obtain ⟨a, ha⟩ := Store.exists_answer_of_serve granted
      rw [← hreply] at ha
      cases c <;> simp [Answer.ofReply] at ha
  · rw [e] at hr
    simp at hr

end Service

end TileIndex
