import TileIndex.Proofs.Service.Log

/-!
# Plates that do not see each other

What a service does about a plate depends on that plate alone. A request that does not carry the
identifier of a plate leaves the plate as it is, whether it is granted or not, and a request that
does carry it is answered by what is kept under the identifier. So the requests of others, however
they are mixed with those about a plate, show neither in the replies about the plate nor in the
plate.

## Main statements

- `Service.Agree.foreign`: a request about other plates leaves a plate alone.
- `Service.Agree.share`: of a run, a plate sees no more than its share.
- `Service.isolated_of_contains`: plates are isolated.
-/

namespace TileIndex

/-! ## What requests are about -/

/-- Whether a request is a call on a plate. -/
def Request.isCallOn (p : PlateId) : Request → Bool
  | .onPlate q _ => q = p
  | _ => false

/-- Whether a request carries the identifier of a plate: it is a call on the plate, or a batch with
    an update for it. -/
def Request.concerns (p : PlateId) : Request → Bool
  | .onPlate q _ => q = p
  | .applyUpdates us => us.any (·.plate = p)
  | _ => false

namespace Service

/-- What a request comes to for one plate: a call on the plate, or the updates for it in a batch
    that is granted. -/
def part (s : Service) (p : PlateId) : Request → Option Request
  | .onPlate q c => if q = p then some (.onPlate q c) else none
  | .applyUpdates us =>
    if (s.handle (.applyUpdates us)).1 = .done ∧ ∃ u ∈ us, u.plate = p then
      some (.applyUpdates (us.filter (·.plate = p)))
    else none
  | _ => none

/-- What the requests of a run come to for one plate. -/
def share (s : Service) (p : PlateId) : List Request → List Request
  | [] => []
  | r :: rs => (s.part p r).toList ++ (s.handle r).2.share p rs

/-- The calls on a plate in a run, with their replies. -/
def seen (s : Service) (p : PlateId) (rs : List Request) : List (Request × Reply) :=
  (rs.zip (s.replies rs)).filter (·.1.isCallOn p)

theorem seen_cons (s : Service) (p : PlateId) (r : Request) (rs : List Request) :
    s.seen p (r :: rs) =
      [(r, (s.handle r).1)].filter (·.1.isCallOn p) ++ (s.handle r).2.seen p rs := by
  rw [seen, seen, replies_cons, List.zip_cons_cons, ← List.filter_append, List.singleton_append]

/-! ## Services that agree on a plate -/

/-- Two services that keep the same store for a plate. Nothing that the first one will create takes
    its place. -/
structure Agree (p : PlateId) (s s' : Service) : Prop where
  consistent : s.Consistent
  same : ∃ st, s.plates.find? p = some st ∧ s'.plates.find? p = some st

variable {s s' : Service} {p : PlateId}

theorem Agree.refl (h : s.Consistent) (hp : s.plates.contains p = true) : Agree p s s where
  consistent := h
  same := by
    obtain ⟨st, hst⟩ := Option.isSome_iff_exists.1 hp
    exact ⟨st, hst, hst⟩

theorem Agree.contains (h : Agree p s s') : s'.plates.contains p = true := by
  obtain ⟨st, -, hst⟩ := h.same
  simp [SortedMap.contains, hst]

/-- The first service can be exchanged for one that keeps the same for the plate. -/
theorem Agree.trans_left {s₁ : Service} (h : Agree p s s') (h₁ : s₁.Consistent)
    (hsame : s₁.plates.find? p = s.plates.find? p) : Agree p s₁ s' where
  consistent := h₁
  same := by
    rw [hsame]
    exact h.same

/-- A batch without updates for a plate leaves the plate alone. -/
theorem find?_foldl_apply_of_ne {us : List Update} (h : ∀ u ∈ us, u.plate ≠ p) :
    (us.foldl apply s).plates.find? p = s.plates.find? p := by
  have hnone : us.filter (·.plate = p) = [] := by
    simpa [List.filter_eq_nil_iff] using h
  rw [find?_foldl_apply, hnone]
  exact Option.map_id'

/-- A request that does not carry the identifier of a plate leaves the plate as it is. -/
theorem Agree.foreign (h : Agree p s s') {r : Request} (hr : r.concerns p = false) :
    Agree p (s.handle r).2 s' := by
  refine h.trans_left (h.consistent.handle r) ?_
  rcases s.handle_cases r with g | ⟨refusal, e⟩
  · generalize (s.handle r).1 = reply at g
    generalize (s.handle r).2 = s₁ at g ⊢
    cases g with
    | opened named found => rfl
    | created valid sized free next =>
      -- the plate was there before, so the new one is another
      obtain ⟨st, hst, -⟩ := h.same
      exact SortedMap.find?_insert_of_ne _ _ (KeyOrder.ne_of_lt (h.consistent.assigned hst))
    | written known => exact find?_foldl_apply_of_ne (by simpa [Request.concerns] using hr)
    | served found granted =>
      have hne := of_decide_eq_false hr
      exact SortedMap.find?_insert_of_ne _ _ (Ne.symm hne)
  · rw [e]

/-- A call on a plate is answered alike, and has the same effect on the plate. -/
theorem Agree.call (h : Agree p s s') (c : PlateCall) :
    (s'.handle (.onPlate p c)).1 = (s.handle (.onPlate p c)).1 ∧
      Agree p (s.handle (.onPlate p c)).2 (s'.handle (.onPlate p c)).2 := by
  have hconsistent := h.consistent.handle (.onPlate p c)
  obtain ⟨st, hst, hst'⟩ := h.same
  rw [handle_onPlate_of_found hst] at hconsistent ⊢
  rw [handle_onPlate_of_found hst']
  -- both services ask the same store, so one split settles both
  cases hserve : st.serve c with
  | error refusal => exact ⟨rfl, h⟩
  | ok answer =>
    simp only [hserve] at hconsistent
    exact ⟨rfl, hconsistent, answer.2, SortedMap.find?_insert_self .., SortedMap.find?_insert_self ..⟩

/-- A batch that is granted does to a plate what the updates for the plate do by themselves, which
    are granted too. -/
theorem Agree.batch (h : Agree p s s') {us : List Update}
    (hdone : (s.handle (.applyUpdates us)).1 = .done) :
    (s'.handle (.applyUpdates (us.filter (·.plate = p)))).1 = .done ∧
      Agree p (s.handle (.applyUpdates us)).2
        (s'.handle (.applyUpdates (us.filter (·.plate = p)))).2 := by
  -- the updates for the plate name no other, and the second service knows it
  have hown : ∀ u ∈ us.filter (·.plate = p), s'.plates.contains u.plate = true := by
    intro u hu
    rw [of_decide_eq_true (List.mem_filter.1 hu).2]
    exact h.contains
  have hconsistent := h.consistent.handle (.applyUpdates us)
  rw [handle_applyUpdates_of_known (known_of_done hdone)] at hconsistent ⊢
  rw [handle_applyUpdates_of_known hown]
  obtain ⟨st, hst, hst'⟩ := h.same
  -- of a batch, a plate takes what is for it, and of that part it takes everything
  refine ⟨rfl, hconsistent, (us.filter (·.plate = p)).foldl Store.apply st, ?_, ?_⟩
  · rw [find?_foldl_apply, hst]
    rfl
  · rw [find?_foldl_apply, hst', List.filter_filter]
    simp

/-! ## Runs -/

/-- What comes to nothing for a plate leaves the plate as it is, and is no call on it. -/
theorem Agree.of_part_eq_none (h : Agree p s s') {r : Request} (hr : s.part p r = none) :
    r.isCallOn p = false ∧ Agree p (s.handle r).2 s' := by
  cases r with
  | openPlate name => exact ⟨rfl, h.foreign rfl⟩
  | createPlate name header => exact ⟨rfl, h.foreign rfl⟩
  | onPlate q c =>
    have hq : decide (q = p) = false := by simpa [part] using hr
    exact ⟨hq, h.foreign hq⟩
  | applyUpdates us =>
    refine ⟨rfl, ?_⟩
    by_cases hown : ∃ u ∈ us, u.plate = p
    · -- a batch with updates for the plate that comes to nothing was refused
      have hrefused : ¬ (s.handle (.applyUpdates us)).1 = .done := by
        intro hdone
        simp [part, hdone, hown] at hr
      rcases s.handle_cases (.applyUpdates us) with g | ⟨refusal, e⟩
      · generalize (s.handle (.applyUpdates us)).1 = reply at g hrefused
        generalize (s.handle (.applyUpdates us)).2 = s₁ at g
        cases g with
        | written known => exact absurd rfl hrefused
      · rw [e]
        exact h
    · exact h.foreign (by simpa [Request.concerns] using hown)

/-- What a request comes to for a plate is seen as the request is, and leads to the same plate. -/
theorem Agree.of_part_eq_some (h : Agree p s s') {r r' : Request} (hr : s.part p r = some r') :
    [(r, (s.handle r).1)].filter (·.1.isCallOn p) =
        [(r', (s'.handle r').1)].filter (·.1.isCallOn p) ∧
      Agree p (s.handle r).2 (s'.handle r').2 := by
  cases r with
  | openPlate name => simp [part] at hr
  | createPlate name header => simp [part] at hr
  | onPlate q c =>
    obtain ⟨rfl, rfl⟩ : q = p ∧ .onPlate q c = r' := by simpa [part] using hr
    obtain ⟨hreply, hagree⟩ := h.call c
    exact ⟨by rw [hreply], hagree⟩
  | applyUpdates us =>
    -- the batch was granted, and comes to the updates for the plate
    obtain ⟨⟨hdone, -⟩, rfl⟩ : ((s.handle (.applyUpdates us)).1 = .done ∧ ∃ u ∈ us, u.plate = p) ∧
        .applyUpdates (us.filter (·.plate = p)) = r' := by simpa [part] using hr
    exact ⟨rfl, (h.batch hdone).2⟩

/-- Of a run, a plate sees no more than what the run comes to for it. -/
theorem Agree.share (h : Agree p s s') (rs : List Request) :
    s.seen p rs = s'.seen p (s.share p rs) ∧ Agree p (s.run rs) (s'.run (s.share p rs)) := by
  -- the first service takes every request, the second one moves with the share only
  induction rs generalizing s s' with
  | nil => exact ⟨rfl, h⟩
  | cons r rs ih =>
    rw [seen_cons, Service.share]
    cases hr : s.part p r with
    | none =>
      obtain ⟨hcall, hagree⟩ := h.of_part_eq_none hr
      obtain ⟨hseen, hlast⟩ := ih hagree
      exact ⟨by simpa [hcall] using hseen, hlast⟩
    | some r' =>
      obtain ⟨hfirst, hagree⟩ := h.of_part_eq_some hr
      obtain ⟨hseen, hlast⟩ := ih hagree
      exact ⟨by rw [hfirst, hseen, ← seen_cons]; rfl, hlast⟩

/-! ## Requests of others -/

/-- A request that carries the identifier of a plate and that of no other plate is answered alike,
    and has the same effect on the plate. -/
theorem Agree.own (h : Agree p s s') {r : Request} (hr : r.concerns p = true)
    (hpure : ∀ us, r = .applyUpdates us → ∀ u ∈ us, u.plate = p) :
    (s'.handle r).1 = (s.handle r).1 ∧ Agree p (s.handle r).2 (s'.handle r).2 := by
  cases r with
  | openPlate name => simp [Request.concerns] at hr
  | createPlate name header => simp [Request.concerns] at hr
  | onPlate q c =>
    obtain rfl : q = p := of_decide_eq_true hr
    exact h.call c
  | applyUpdates us =>
    -- the batch has no update for another plate, so all of it is for this one
    have hall : us.filter (·.plate = p) = us := by
      simpa [List.filter_eq_self] using hpure us rfl
    have hknown : ∀ u ∈ us, s.plates.contains u.plate = true := by
      obtain ⟨st, hst, -⟩ := h.same
      intro u hu
      simp [hpure us rfl u hu, SortedMap.contains, hst]
    have hdone : (s.handle (.applyUpdates us)).1 = .done := by
      rw [handle_applyUpdates_of_known hknown]
    have hbatch := h.batch hdone
    rw [hall] at hbatch
    exact ⟨hbatch.1.trans hdone.symm, hbatch.2⟩

/-- The requests about a plate, in a run in which no batch mixes the plate with others, are answered
    as they are by themselves. -/
theorem Agree.filter (h : Agree p s s') {rs : List Request}
    (hpure : ∀ us, .applyUpdates us ∈ rs → (∃ u ∈ us, u.plate = p) → ∀ u ∈ us, u.plate = p) :
    let own := rs.filter (·.concerns p)
    (rs.zip (s.replies rs)).filter (·.1.concerns p) = own.zip (s'.replies own) ∧
      Agree p (s.run rs) (s'.run own) := by
  -- the first service takes every request, the second those about the plate
  induction rs generalizing s s' with
  | nil => exact ⟨rfl, h⟩
  | cons r rs ih =>
    have hlater := fun us hus => hpure us (List.mem_cons_of_mem _ hus)
    cases hr : r.concerns p with
    | false =>
      obtain ⟨hreplies, hlast⟩ := ih (h.foreign hr) hlater
      exact ⟨by simpa [hr] using hreplies, by simpa [hr] using hlast⟩
    | true =>
      -- a batch with one update for the plate has no others
      have hown : ∀ us, r = .applyUpdates us → ∀ u ∈ us, u.plate = p := by
        rintro us rfl
        exact hpure us (List.mem_cons_self ..) (by simpa [Request.concerns] using hr)
      obtain ⟨hreply, hagree⟩ := h.own hr hown
      obtain ⟨hreplies, hlast⟩ := ih hagree hlater
      exact ⟨by simpa [hr, hreply] using hreplies, by simpa [hr] using hlast⟩

/-- How little a plate sees of a run of requests to its service. -/
structure Isolated (p : PlateId) (s : Service) (rs : List Request) : Prop where
  /-- The calls on the plate get the replies that they get in the share of the plate alone. -/
  replies : s.seen p rs = s.seen p (s.share p rs)
  /-- The plate ends up as its share alone leaves it. -/
  store : ∃ st, (s.run rs).plates.find? p = some st ∧ (s.run (s.share p rs)).plates.find? p = some st
  /-- If no batch mixes the plate with others, every request about the plate gets the reply that it
      gets when nobody asks for anything else, and the plate ends up the same. -/
  others : (∀ us, .applyUpdates us ∈ rs → (∃ u ∈ us, u.plate = p) → ∀ u ∈ us, u.plate = p) →
    let own := rs.filter (·.concerns p)
    (rs.zip (s.replies rs)).filter (·.1.concerns p) = own.zip (s.replies own) ∧
      (s.run rs).plates.find? p = (s.run own).plates.find? p

/-- **Plates are isolated.** Take a service after any past, a plate that it has, and any requests:
    plates opened and created, calls on this plate, on others and on unknown ones, and batches that
    mix them. -/
theorem isolated_of_contains (root : String) (past : List Request)
    (hp : ((Service.new root).run past).plates.contains p = true) (rs : List Request) :
    Isolated p ((Service.new root).run past) rs := by
  have h := Agree.refl ((Consistent.new root).run past) hp
  obtain ⟨hseen, hagree⟩ := h.share rs
  refine ⟨hseen, hagree.same, fun hpure => ?_⟩
  obtain ⟨hreplies, hlast⟩ := h.filter hpure
  obtain ⟨st, hst, hst'⟩ := hlast.same
  exact ⟨hreplies, hst.trans hst'.symm⟩

/-- A plate beside another one, with a batch for both, and a batch that is refused since it names a
    plate that nobody has created. -/
theorem isolated_of_contains_two :
    let header : Plate.Header := .unassigned 256 "png" .rgba .uint8
    let past : List Request := [.createPlate "mars" header, .createPlate "venus" header]
    let update (p : PlateId) (t : TransactionId) : Update := ⟨p, ⟨0, 0, 1, t, "png"⟩, .stored 0 0 9⟩
    ((Service.new "/plates").run past).plates.contains 1 = true ∧
      Isolated 1 ((Service.new "/plates").run past)
        [.onPlate 2 (.beginTransaction "other" (some 7)), .onPlate 1 (.beginTransaction "own" none),
          .applyUpdates [update 2 7, update 1 1], .applyUpdates [update 1 2, update 9 2],
          .createPlate "moon" header, .onPlate 2 (.failTransaction 7), .onPlate 9 .numLevels,
          .onPlate 1 (.multiRead ⟨0, 0, 1⟩ 0 9)] := by
  intro header past update
  exact ⟨rfl, isolated_of_contains "/plates" past rfl _⟩

end Service

end TileIndex
