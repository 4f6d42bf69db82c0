import TileIndex.SortedMap

/-!
# Laws of sorted maps

Changes at two keys of a map do not disturb each other, and a change at a key takes the place of an
earlier one there.
-/

universe u v

namespace TileIndex.SortedMap

variable {κ : Type u} {α : Type v} [LT κ] [DecidableEq κ] [DecidableLT κ] [KeyOrder κ]

/-! ## Keys -/

/-- To change a value adds no key and takes none away. -/
theorem contains_adjust (m : SortedMap κ α) (k : κ) (f : α → α) (j : κ) :
    (m.adjust k f).contains j = m.contains j := by
  unfold contains
  rw [find?_adjust]
  split
  · exact Option.isSome_map
  · rfl

/-- An insertion adds its own key, and no other. -/
theorem contains_insert (m : SortedMap κ α) (k : κ) (a : α) (j : κ) :
    (m.insert k a).contains j = (decide (j = k) || m.contains j) := by
  unfold contains
  rw [find?_insert]
  by_cases hj : j = k
  · simp [hj]
  · simp [hj]

omit [DecidableLT κ] [KeyOrder κ] in
/-- A removal takes its own key away, and no other. -/
theorem contains_erase (m : SortedMap κ α) (k j : κ) :
    (m.erase k).contains j = (decide (j ≠ k) && m.contains j) := by
  unfold contains
  rw [find?_erase]
  by_cases hj : j = k
  · simp [hj]
  · simp [hj]

/-- What is found after an insertion is what was put in, or was there before. -/
theorem eq_or_find?_of_insert {m : SortedMap κ α} {k j : κ} {a b : α}
    (h : (m.insert k a).find? j = some b) : (j = k ∧ b = a) ∨ m.find? j = some b := by
  rw [find?_insert] at h
  -- the key that was put in, or another
  by_cases hj : j = k
  · rw [if_pos hj] at h
    exact .inl ⟨hj, (Option.some.inj h).symm⟩
  · rw [if_neg hj] at h
    exact .inr h

/-! ## Changes that change nothing -/

/-- To put in a value that is there already changes nothing. -/
theorem insert_of_find? {m : SortedMap κ α} {k : κ} {a : α} (h : m.find? k = some a) :
    m.insert k a = m := by
  -- equal maps are those that answer every look-up alike, here and below
  refine ext_find? fun j => ?_
  rw [find?_insert]
  by_cases hj : j = k
  · rw [if_pos hj, hj, h]
  · rw [if_neg hj]

omit [DecidableLT κ] in
/-- To take out a key that is not there changes nothing. -/
theorem erase_of_not_contains {m : SortedMap κ α} {k : κ} (h : m.contains k = false) :
    m.erase k = m := by
  refine ext_find? fun j => ?_
  rw [find?_erase]
  by_cases hj : j = k
  · have hnone : m.find? k = none := by simpa [contains] using h
    rw [if_pos hj, hj, hnone]
  · rw [if_neg hj]

/-! ## Two changes -/

/-- To change a value that was just put in is to put in the changed value. -/
theorem adjust_insert_self (m : SortedMap κ α) (k : κ) (a : α) (f : α → α) :
    (m.insert k a).adjust k f = m.insert k (f a) := by
  refine ext_find? fun j => ?_
  rw [find?_adjust, find?_insert, find?_insert]
  by_cases hj : j = k
  · simp [hj]
  · simp [hj]

/-- A value that is put in replaces the one that was just changed. -/
theorem insert_adjust_self (m : SortedMap κ α) (k : κ) (a : α) (f : α → α) :
    (m.adjust k f).insert k a = m.insert k a := by
  refine ext_find? fun j => ?_
  rw [find?_insert, find?_insert, find?_adjust]
  by_cases hj : j = k
  · simp [hj]
  · simp [hj]

/-- A change at one key commutes with an insertion at another. -/
theorem adjust_insert_of_ne (m : SortedMap κ α) {k l : κ} (a : α) (f : α → α) (h : k ≠ l) :
    (m.insert l a).adjust k f = (m.adjust k f).insert l a := by
  refine ext_find? fun j => ?_
  rw [find?_adjust, find?_insert, find?_insert, find?_adjust]
  by_cases hk : j = k
  · -- a key is not both that of the change and that of the insertion
    have hl : j ≠ l := fun e => h (hk ▸ e)
    simp [hk, h]
  · simp [hk]

/-- Changes at two keys commute. -/
theorem adjust_adjust_of_ne (m : SortedMap κ α) {k l : κ} (f g : α → α) (h : k ≠ l) :
    (m.adjust k f).adjust l g = (m.adjust l g).adjust k f := by
  refine ext_find? fun j => ?_
  rw [find?_adjust, find?_adjust, find?_adjust, find?_adjust]
  by_cases hk : j = k
  · have hl : j ≠ l := fun e => h (hk ▸ e)
    simp [hk, h]
  · simp [hk]

end TileIndex.SortedMap
