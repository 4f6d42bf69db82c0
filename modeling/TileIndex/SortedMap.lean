/-!
# Sorted maps

A finite map as the list of its entries in strictly ascending key order. The order is part of the
type, so two maps with the same entries are equal, and a listing of a map is sorted without further
work.

## Main statements

- `SortedMap.find?_insert`: what a look-up finds after an insertion.
- `SortedMap.find?_erase`: what a look-up finds after a removal.
- `SortedMap.ext_find?`: two maps that answer every look-up alike are equal.
-/

universe u v w

namespace TileIndex

/-- A strict total order on keys. -/
class KeyOrder (κ : Type u) [LT κ] : Prop where
  irrefl : ∀ a : κ, ¬ a < a
  trans : ∀ {a b c : κ}, a < b → b < c → a < c
  connected : ∀ a b : κ, a < b ∨ a = b ∨ b < a

namespace KeyOrder

variable {κ : Type u} [LT κ] [KeyOrder κ]

theorem asymm {a b : κ} (h : a < b) : ¬ b < a := fun h' => irrefl a (trans h h')

theorem ne_of_lt {a b : κ} (h : a < b) : a ≠ b := fun e => irrefl b (e ▸ h)

/-- Keys of which neither is below the other are equal. -/
theorem eq_of_not_lt {a b : κ} (h₁ : ¬ a < b) (h₂ : ¬ b < a) : a = b := by
  rcases connected a b with h | h | h
  · exact absurd h h₁
  · exact h
  · exact absurd h h₂

end KeyOrder

instance : KeyOrder Int32 where
  irrefl _ := Int32.lt_irrefl
  trans := Int32.lt_trans
  connected a b := by
    rcases Int.lt_trichotomy a.toInt b.toInt with h | h | h
    · exact Or.inl (Int32.lt_iff_toInt_lt.2 h)
    · exact Or.inr (Or.inl (Int32.toInt_inj.1 h))
    · exact Or.inr (Or.inr (Int32.lt_iff_toInt_lt.2 h))

instance : KeyOrder String where
  irrefl _ := String.lt_irrefl _
  trans := String.lt_trans
  connected a b := by
    by_cases h₁ : a < b
    · exact Or.inl h₁
    · by_cases h₂ : b < a
      · exact Or.inr (Or.inr h₂)
      · exact Or.inr (Or.inl (String.le_antisymm (String.not_lt.1 h₂) (String.not_lt.1 h₁)))

/-! ## Entry lists -/

namespace Entries

variable {κ : Type u} {α : Type v}

/-- Every key of the list is greater than `k`. -/
def Above [LT κ] (k : κ) (l : List (κ × α)) : Prop := ∀ e ∈ l, k < e.1

/-- Put a value under a key, keeping the order and replacing an earlier value. -/
def insert [LT κ] [DecidableLT κ] (k : κ) (a : α) : List (κ × α) → List (κ × α)
  | [] => [(k, a)]
  | e :: rest =>
    if k < e.1 then (k, a) :: e :: rest
    else if e.1 < k then e :: insert k a rest
    else (k, a) :: rest

variable [LT κ] [DecidableLT κ]

/-- After an insertion there is nothing but the new entry and the old ones. -/
theorem mem_insert {k : κ} {a : α} {l : List (κ × α)} {e : κ × α} (h : e ∈ insert k a l) :
    e = (k, a) ∨ e ∈ l := by
  induction l with
  | nil => simpa [insert] using h
  | cons x rest ih =>
    rw [insert] at h
    split at h
    · simpa using h
    · split at h
      · rcases List.mem_cons.1 h with h | h
        · exact Or.inr (h ▸ List.mem_cons_self ..)
        · exact (ih h).imp id (List.mem_cons_of_mem _)
      · rcases List.mem_cons.1 h with h | h
        · exact Or.inl h
        · exact Or.inr (List.mem_cons_of_mem _ h)

/-- An insertion keeps the order. -/
theorem pairwise_insert [KeyOrder κ] {k : κ} {a : α} {l : List (κ × α)} (h : l.Pairwise (·.1 < ·.1)) :
    (insert k a l).Pairwise (·.1 < ·.1) := by
  induction l with
  | nil => simp [insert]
  | cons x rest ih =>
    obtain ⟨hx, hrest⟩ := List.pairwise_cons.1 h
    rw [insert]
    split
    · rename_i hk
      -- smaller than the head, so smaller than everything after it
      refine List.pairwise_cons.2 ⟨fun e he => ?_, h⟩
      rcases List.mem_cons.1 he with he | he
      · exact he ▸ hk
      · exact KeyOrder.trans hk (hx e he)
    · split
      · rename_i hk
        -- greater than the head, so it goes somewhere behind it
        refine List.pairwise_cons.2 ⟨fun e he => ?_, ih hrest⟩
        rcases mem_insert he with he | he
        · exact he ▸ hk
        · exact hx e he
      · rename_i h₁ h₂
        -- neither smaller nor greater: the key itself, so the value is replaced
        have hk : k = x.1 := KeyOrder.eq_of_not_lt h₁ h₂
        refine List.pairwise_cons.2 ⟨fun e he => ?_, hrest⟩
        exact hk ▸ hx e he

end Entries

/-! ## Maps -/

/-- A finite map with its entries in strictly ascending key order. -/
structure SortedMap (κ : Type u) (α : Type v) [LT κ] where
  entries : List (κ × α)
  sorted : entries.Pairwise (·.1 < ·.1)
  deriving DecidableEq

namespace SortedMap

variable {κ : Type u} {α : Type v} [LT κ]

theorem ext_entries {m n : SortedMap κ α} (h : m.entries = n.entries) : m = n := by
  cases m; cases n; cases h; rfl

/-- The map without entries. -/
def empty : SortedMap κ α := ⟨[], List.Pairwise.nil⟩

instance : Inhabited (SortedMap κ α) := ⟨empty⟩

/-- The keys, ascending. -/
def keys (m : SortedMap κ α) : List κ := m.entries.map (·.1)

/-- The entries whose key passes a test, ascending. -/
def entriesWhere (m : SortedMap κ α) (p : κ → Bool) : List (κ × α) := m.entries.filter (p ·.1)

section Operations

variable [DecidableEq κ]

/-- The value under a key. -/
def find? (m : SortedMap κ α) (k : κ) : Option α :=
  (m.entries.find? (·.1 = k)).map (·.2)

/-- Whether a key has a value. -/
def contains (m : SortedMap κ α) (k : κ) : Bool := (m.find? k).isSome

/-- Take a key out. -/
def erase (m : SortedMap κ α) (k : κ) : SortedMap κ α :=
  ⟨m.entries.filter (·.1 ≠ k), m.sorted.filter _⟩

variable [DecidableLT κ] [KeyOrder κ]

/-- Put a value under a key, replacing an earlier one. -/
def insert (m : SortedMap κ α) (k : κ) (a : α) : SortedMap κ α :=
  ⟨Entries.insert k a m.entries, Entries.pairwise_insert m.sorted⟩

/-- Change the value under a key; a key without a value stays without one. -/
def adjust (m : SortedMap κ α) (k : κ) (f : α → α) : SortedMap κ α :=
  match m.find? k with
  | some a => m.insert k (f a)
  | none => m

/-- The map of a list of entries, where a later entry replaces an earlier one with its key. -/
def ofList (l : List (κ × α)) : SortedMap κ α :=
  l.foldl (fun m e => m.insert e.1 e.2) empty

end Operations

/-! ## Look-ups -/

section Lookup

variable [DecidableEq κ]

@[simp] theorem find?_empty (k : κ) : (empty : SortedMap κ α).find? k = none := rfl

/-- A look-up finds exactly the entry under its key. -/
theorem find?_eq_some_iff [KeyOrder κ] {m : SortedMap κ α} {k : κ} {a : α} :
    m.find? k = some a ↔ (k, a) ∈ m.entries := by
  obtain ⟨l, h⟩ := m
  simp only [find?]
  -- by induction on the entries; the order says that no key comes twice
  induction l with
  | nil => simp
  | cons e rest ih =>
    obtain ⟨hx, hrest⟩ := List.pairwise_cons.1 h
    rw [List.find?_cons]
    by_cases hk : e.1 = k
    · subst hk
      obtain ⟨k, b⟩ := e
      simp only [decide_true, Option.map_some, Option.some.injEq, List.mem_cons, Prod.mk.injEq,
        true_and]
      refine ⟨fun h => Or.inl h.symm, fun h => ?_⟩
      -- the tail holds no second entry with this key
      rcases h with h | h
      · exact h.symm
      · exact absurd (hx _ h) (KeyOrder.irrefl _)
    · have : ¬ (k, a) = e := fun he => hk (by rw [← he])
      simp [hk, this, ih hrest]

/-- The keys are those that have a value. -/
theorem contains_iff_mem_keys [KeyOrder κ] {m : SortedMap κ α} {k : κ} :
    m.contains k = true ↔ k ∈ m.keys := by
  rw [contains, Option.isSome_iff_exists, keys, List.mem_map]
  -- an entry is found by its key, and what is found is an entry
  constructor
  · rintro ⟨a, h⟩
    exact ⟨(k, a), find?_eq_some_iff.1 h, rfl⟩
  · rintro ⟨⟨k', a⟩, h, rfl⟩
    exact ⟨a, find?_eq_some_iff.2 h⟩

/-- After a removal a look-up finds nothing under its key, and what it found before under every
    other. -/
theorem find?_erase (m : SortedMap κ α) (k j : κ) :
    (m.erase k).find? j = if j = k then none else m.find? j := by
  obtain ⟨l, h⟩ := m
  simp only [find?, erase, List.find?_filter]
  clear h
  -- a search for another key passes over what was taken out
  by_cases hj : j = k
  · subst hj
    simp
  · rw [if_neg hj]
    congr 2
    funext e
    by_cases he : e.1 = j
    · simp [he, hj]
    · simp [he]

variable [DecidableLT κ] [KeyOrder κ]

/-- After an insertion a look-up finds the value under its key, and what it found before under every
    other. -/
theorem find?_insert (m : SortedMap κ α) (k : κ) (a : α) (j : κ) :
    (m.insert k a).find? j = if j = k then some a else m.find? j := by
  obtain ⟨l, h⟩ := m
  simp only [find?, insert]
  -- the order plays no part in what a look-up finds after an insertion
  clear h
  -- by induction on the entries, with the three places that the new entry can take
  induction l with
  | nil =>
    by_cases hj : j = k
    · simp [Entries.insert, hj]
    · simp [Entries.insert, hj, Ne.symm hj]
  | cons e rest ih =>
    rw [Entries.insert]
    split
    · -- before the head
      by_cases hj : j = k
      · simp [hj]
      · simp [hj, List.find?_cons, Ne.symm hj]
    · split
      · -- behind the head
        rename_i hlt
        by_cases hj : j = k
        · have : ¬ e.1 = k := KeyOrder.ne_of_lt hlt
          rw [hj] at ih ⊢
          simpa [List.find?_cons, this] using ih
        · by_cases he : e.1 = j
          · simp [he, hj]
          · simpa [List.find?_cons, he, hj] using ih
      · -- in place of the head
        rename_i h₁ h₂
        have hk : k = e.1 := KeyOrder.eq_of_not_lt h₁ h₂
        by_cases hj : j = k
        · simp [hj]
        · have : ¬ e.1 = j := fun he => hj (he.symm.trans hk.symm)
          simp [Ne.symm hj, hj, this]

theorem find?_insert_self (m : SortedMap κ α) (k : κ) (a : α) :
    (m.insert k a).find? k = some a := by simp [find?_insert]

theorem find?_insert_of_ne (m : SortedMap κ α) {k j : κ} (a : α) (h : j ≠ k) :
    (m.insert k a).find? j = m.find? j := by simp [find?_insert, h]

/-- After a change a look-up finds the changed value under its key, and what it found before under
    every other. -/
theorem find?_adjust (m : SortedMap κ α) (k : κ) (f : α → α) (j : κ) :
    (m.adjust k f).find? j = if j = k then (m.find? j).map f else m.find? j := by
  rw [adjust]
  split
  · -- there is a value to change
    rename_i a h
    rw [find?_insert]
    split
    · rename_i hj
      rw [hj, h]; rfl
    · rfl
  · rename_i h
    split
    · rename_i hj
      rw [hj, h]; rfl
    · rfl

end Lookup

/-! ## Extensionality -/

/-- Sorted lists with the same members are equal. -/
theorem entries_eq_of_mem_iff [KeyOrder κ] {l₁ l₂ : List (κ × α)}
    (h₁ : l₁.Pairwise (·.1 < ·.1)) (h₂ : l₂.Pairwise (·.1 < ·.1))
    (h : ∀ e, e ∈ l₁ ↔ e ∈ l₂) : l₁ = l₂ := by
  -- by induction on both lists: their heads are equal, and then their tails have the same members
  induction l₁ generalizing l₂ with
  | nil =>
    cases l₂ with
    | nil => rfl
    | cons y _ => exact absurd ((h y).2 (List.mem_cons_self ..)) List.not_mem_nil
  | cons x xs ih =>
    cases l₂ with
    | nil => exact absurd ((h x).1 (List.mem_cons_self ..)) List.not_mem_nil
    | cons y ys =>
      obtain ⟨hx, hxs⟩ := List.pairwise_cons.1 h₁
      obtain ⟨hy, hys⟩ := List.pairwise_cons.1 h₂
      -- each head is in the other list, and neither can come after the other
      have hxy : x = y := by
        rcases List.mem_cons.1 ((h x).1 (List.mem_cons_self ..)) with e | m₁
        · exact e
        · rcases List.mem_cons.1 ((h y).2 (List.mem_cons_self ..)) with e | m₂
          · exact e.symm
          · exact absurd (hx y m₂) (KeyOrder.asymm (hy x m₁))
      subst hxy
      refine congrArg (x :: ·) (ih hxs hys fun e => ⟨fun m => ?_, fun m => ?_⟩)
      · rcases List.mem_cons.1 ((h e).1 (List.mem_cons_of_mem _ m)) with e' | m'
        · exact absurd (hx e m) (e' ▸ KeyOrder.irrefl _)
        · exact m'
      · rcases List.mem_cons.1 ((h e).2 (List.mem_cons_of_mem _ m)) with e' | m'
        · exact absurd (hy e m) (e' ▸ KeyOrder.irrefl _)
        · exact m'

/-- Two maps that answer every look-up alike are equal. -/
theorem ext_find? [DecidableEq κ] [KeyOrder κ] {m n : SortedMap κ α}
    (h : ∀ k, m.find? k = n.find? k) : m = n := by
  refine ext_entries (entries_eq_of_mem_iff m.sorted n.sorted fun ⟨k, a⟩ => ?_)
  rw [← find?_eq_some_iff, ← find?_eq_some_iff, h]

end SortedMap

end TileIndex
