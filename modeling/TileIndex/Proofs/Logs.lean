/-!
# Results and logs

A step of a system has a result, and is noted at the end of a log. What a mapped result comes from,
and what a log with one more entry holds.
-/

universe u v w

namespace TileIndex

/-! ## Results -/

/-- A mapped result that is fine comes from one that is. -/
theorem exists_of_map_eq_ok {ε α β : Type} {f : α → β} {x : Except ε α} {b : β}
    (h : x.map f = .ok b) : ∃ a, x = .ok a ∧ f a = b := by
  cases x with
  | error e => simp [Except.map] at h
  | ok a => exact ⟨a, rfl, by simpa [Except.map] using h⟩

/-- A mapped result that is an error is the error that was mapped. -/
theorem error_of_map_eq_error {ε : Type u} {α : Type v} {β : Type w} {f : α → β}
    {x : Except ε α} {e : ε} (h : x.map f = .error e) : x = .error e := by
  cases x with
  | error e' => exact congrArg _ (Except.error.inj h)
  -- a mapped value is no error
  | ok a => cases h

/-! ## Logs -/

/-- What is picked from a list with one more element is what is picked from the list, and from the
    element. -/
theorem filterMap_concat {α β : Type} (f : α → Option β) (l : List α) (a : α) :
    (l ++ [a]).filterMap f = l.filterMap f ++ (f a).toList := by
  rw [List.filterMap_append]
  cases h : f a <;> simp [h]

/-- What stands in a list with one more element at the end is that element or stands in the list. -/
theorem concat_eq_append_cons {α : Type u} {l before after : List α} {a x : α}
    (h : l ++ [a] = before ++ x :: after) :
    l = before ∧ a = x ∧ after = [] ∨ ∃ after', l = before ++ x :: after' ∧ after = after' ++ [a] := by
  -- the part after the element is empty, or ends in the new element
  rcases List.eq_nil_or_concat after with rfl | ⟨after', last, rfl⟩
  · obtain ⟨rfl, hlast⟩ := List.append_inj' h rfl
    exact .inl ⟨rfl, List.singleton_inj.1 hlast, rfl⟩
  · rw [List.concat_eq_append, ← List.cons_append, ← List.append_assoc] at h
    obtain ⟨rfl, hlast⟩ := List.append_inj' h rfl
    exact .inr ⟨after', rfl, by rw [List.concat_eq_append, hlast]⟩

theorem exists_mem_concat {α : Type} {P : α → Prop} {l : List α} {a : α} :
    (∃ x ∈ l ++ [a], P x) ↔ (∃ x ∈ l, P x) ∨ P a := by
  simp [or_and_right, exists_or]

/-- A relation that holds throughout a list goes on to hold if all its elements are related to the
    new one. -/
theorem pairwise_concat {α : Type} {R : α → α → Prop} {l : List α} {a : α} (h : l.Pairwise R)
    (hnew : ∀ i ∈ l, R i a) : (l ++ [a]).Pairwise R := by
  rw [List.pairwise_append]
  refine ⟨h, List.pairwise_singleton R a, fun i hi j hj => ?_⟩
  rw [List.mem_singleton.1 hj]
  exact hnew i hi

end TileIndex
