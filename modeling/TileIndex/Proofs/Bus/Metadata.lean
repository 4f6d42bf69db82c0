import TileIndex.Bus.Message

/-!
# Metadata of a message

The metadata of a message is a list in which the first entry of a key counts, whoever made the list.
A key is set in that entry, or in a new one at the end, so a list to which keys have been set one
after another is read as a map, and the entries that were there stay in their places.

## Main statements

- `Message.Annotated.withMetadata`: what setting one key does to what was set before.
- `Message.Annotated.withAll`: what setting any keys does.
- `Message.mapped_withAll`: metadata is a map, whatever the message had and whatever is set.
-/

namespace TileIndex.Message

variable {m m' : Message} {calls : List (String × String)} {k key value : String}
  {l : List (String × String)}

/-! ## Entries -/

/-- The entries of the metadata, none where there is no metadata. -/
def entries (m : Message) : List (String × String) := m.metadata.getD []

/-- The keys of the entries, in order. -/
def keys (m : Message) : List String := m.entries.map (·.1)

theorem lookup_cons (e : String × String) (l : List (String × String)) (k : String) :
    (e :: l).lookup k = if e.1 = k then some e.2 else l.lookup k := by
  by_cases h : e.1 = k
  · rw [if_pos h, ← h, List.lookup_cons_self]
  · have hne : (k == e.1) = false := beq_eq_false_iff_ne.2 (Ne.symm h)
    rw [if_neg h, List.lookup_cons, hne]

/-- The first entry of a key counts. -/
theorem metadata?_eq_lookup (m : Message) (k : String) : m.metadata? k = m.entries.lookup k := by
  unfold metadata? entries
  induction m.metadata.getD [] with
  | nil => rfl
  | cons e l ih =>
    rw [lookup_cons, ← ih]
    by_cases h : e.1 = k <;> simp [h]

theorem entries_withMetadata (m : Message) (key value : String) :
    (m.withMetadata key value).entries = setEntry key value m.entries := rfl

/-- Setting a key gives it the value, and leaves all other keys theirs. -/
theorem lookup_setEntry (key value k : String) (l : List (String × String)) :
    (setEntry key value l).lookup k = if key = k then some value else l.lookup k := by
  -- to the first entry of the key that is set, and otherwise to the end
  induction l with
  | nil => rw [setEntry, lookup_cons]
  | cons e l ih =>
    by_cases he : e.1 = key
    · rw [setEntry, if_pos he, lookup_cons, lookup_cons, he]
      by_cases h : key = k
      · rw [if_pos h, if_pos h]
      · rw [if_neg h, if_neg h, if_neg h]
    · rw [setEntry, if_neg he, lookup_cons, lookup_cons, ih]
      by_cases h : key = k
      · rw [if_pos h, if_pos h, if_neg (h ▸ he)]
      · rw [if_neg h, if_neg h]

/-- A key that has no entry gets one at the end, and otherwise the keys stay as they are. -/
theorem map_fst_setEntry (key value : String) (l : List (String × String)) :
    (setEntry key value l).map (·.1) =
      if key ∈ l.map (·.1) then l.map (·.1) else l.map (·.1) ++ [key] := by
  induction l with
  | nil => rfl
  | cons e l ih =>
    by_cases he : e.1 = key
    · simp [setEntry, he]
    · simp only [setEntry, if_neg he, List.map_cons, ih, List.mem_cons, Ne.symm he, false_or]
      split <;> rfl

theorem count_setEntry (key value k : String) (l : List (String × String)) :
    ((setEntry key value l).map (·.1)).count k =
      max ((l.map (·.1)).count k) (if k = key then 1 else 0) := by
  rw [map_fst_setEntry]
  by_cases hk : k = key
  · subst hk
    split
    · -- the key has an entry already, so the maximum is its count
      rename_i hmem
      have hpos := List.count_pos_iff.2 hmem
      rw [if_pos rfl]
      omega
    · rename_i hmem
      rw [List.count_append, List.count_eq_zero_of_not_mem hmem, List.count_singleton_self, if_pos rfl]
      rfl
  · -- another key is counted as before, as the one that may be added differs from it
    rw [if_neg hk, Nat.max_zero]
    split
    · rfl
    · rw [List.count_append, List.count_singleton, beq_eq_false_iff_ne.2 (Ne.symm hk)]
      rfl

/-- An entry stays in its place, and has a new value if it is the first of the key that is set. -/
theorem getElem?_setEntry {i : Nat} {e : String × String} (h : l[i]? = some e) (key value : String) :
    (setEntry key value l)[i]? =
      some (e.1, if e.1 = key ∧ key ∉ (l.take i).map (·.1) then value else e.2) := by
  induction l generalizing i with
  | nil => cases h
  | cons e' l ih =>
    cases i with
    | zero =>
      obtain rfl := Option.some.inj h
      by_cases he : e'.1 = key <;> simp [setEntry, he]
    | succ i =>
      by_cases he : e'.1 = key
      · simpa [setEntry, he] using h
      · simpa [setEntry, he, Ne.symm he] using ih h

/-! ## Keys that are set -/

/-- The value that some calls, each with a key and its value, set last for a key. -/
def lastSet? (calls : List (String × String)) (k : String) : Option String := calls.reverse.lookup k

/-- The keys of some calls that a message has no entry for, each where it comes first. -/
def newKeys (m : Message) (calls : List (String × String)) : List String :=
  ((calls.map (·.1)).filter (· ∉ m.keys)).eraseDups

theorem lastSet?_concat (calls : List (String × String)) (key value k : String) :
    lastSet? (calls ++ [(key, value)]) k = if key = k then some value else lastSet? calls k := by
  rw [lastSet?, List.reverse_concat, lookup_cons]
  rfl

theorem eraseDups_concat (l : List String) (a : String) :
    (l ++ [a]).eraseDups = if a ∈ l then l.eraseDups else l.eraseDups ++ [a] := by
  rw [List.eraseDups_append]
  by_cases h : a ∈ l <;> simp [List.removeAll, List.eraseDups_cons, h]

/-- A key that is set is new if it neither was there nor has been set before. -/
theorem newKeys_concat (m : Message) (calls : List (String × String)) (key value : String) :
    m.newKeys (calls ++ [(key, value)]) =
      if key ∈ m.keys ++ m.newKeys calls then m.newKeys calls else m.newKeys calls ++ [key] := by
  have hmem : key ∈ m.newKeys calls ↔ key ∈ (calls.map (·.1)).filter (· ∉ m.keys) :=
    List.mem_eraseDups
  simp only [List.mem_append, hmem]
  rw [newKeys, List.map_append, List.filter_append, List.map_singleton]
  -- an old key is filtered out; another one is put at the end unless it is there
  by_cases hold : key ∈ m.keys
  · simp [newKeys, hold]
  · have hkept : [key].filter (· ∉ m.keys) = [key] := by simp [hold]
    rw [hkept, eraseDups_concat]
    simp only [hold, false_or]
    rfl

/-- What a message has become when calls have set keys of its metadata. -/
structure Annotated (m : Message) (calls : List (String × String)) (m' : Message) : Prop where
  /-- A key has the value that was set last, and if there is none, the one that counted before. -/
  value : ∀ k, m'.metadata? k = (lastSet? calls k).or (m.entries.lookup k)
  /-- New keys follow the old ones in the order of their first use. -/
  keys : m'.keys = m.keys ++ m.newKeys calls
  /-- A key has as many entries as before, but one at least if it was set. -/
  count : ∀ k, m'.keys.count k = max (m.keys.count k) (if k ∈ calls.map (·.1) then 1 else 0)
  /-- Entries stay in their places. The first of a key has the value that was set last, and all
      others are as they were. -/
  kept : ∀ i e, m.entries[i]? = some e → m'.entries[i]? = some (e.1,
    if e.1 ∈ (m.entries.take i).map (·.1) then e.2 else (lastSet? calls e.1).getD e.2)
  /-- The rest of the message is untouched. -/
  rest : m'.id = m.id ∧ m'.type = m.type ∧ m'.payload = m.payload

theorem Annotated.refl (m : Message) : Annotated m [] m where
  value k := m.metadata?_eq_lookup k
  keys := (List.append_nil _).symm
  count k := (Nat.max_zero _).symm
  kept i e h := by simpa [lastSet?] using h
  rest := ⟨rfl, rfl, rfl⟩

/-- The keys before a place are the old ones, where there was an entry before. -/
theorem Annotated.map_fst_take (h : Annotated m calls m') {i : Nat} {e : String × String}
    (he : m.entries[i]? = some e) :
    (m'.entries.take i).map (·.1) = (m.entries.take i).map (·.1) := by
  have hi : i ≤ m.keys.length := by
    rw [Message.keys, List.length_map]
    exact Nat.le_of_lt (List.getElem?_eq_some_iff.1 he).1
  simp only [List.map_take]
  exact (congrArg (List.take i) h.keys).trans (List.take_append_of_le_length hi)

/-- Setting one key more keeps the account of the calls. -/
theorem Annotated.withMetadata (h : Annotated m calls m') (key value : String) :
    Annotated m (calls ++ [(key, value)]) (m'.withMetadata key value) := by
  have hkeys : (m'.withMetadata key value).keys =
      if key ∈ m'.keys then m'.keys else m'.keys ++ [key] := map_fst_setEntry key value m'.entries
  constructor
  case value =>
    intro k
    rw [metadata?_eq_lookup, entries_withMetadata, lookup_setEntry, lastSet?_concat,
      ← metadata?_eq_lookup, h.value]
    split <;> rfl
  case keys =>
    rw [hkeys, newKeys_concat, h.keys]
    split
    · rfl
    · rw [List.append_assoc]
  -- a count that was raised to one is raised only once
  case count =>
    intro k
    have hgrown : (m'.withMetadata key value).keys.count k =
        max (m'.keys.count k) (if k = key then 1 else 0) := count_setEntry key value k m'.entries
    rw [hgrown, h.count, Nat.max_assoc]
    by_cases hset : k ∈ calls.map (·.1) <;> by_cases hk : k = key <;> simp_all
  case kept =>
    intro i e he
    rw [entries_withMetadata, getElem?_setEntry (h.kept i e he), h.map_fst_take he, lastSet?_concat]
    simp only [Option.some_inj, Prod.mk.injEq, true_and]
    by_cases hkey : e.1 = key
    · -- the entry is of the key that is set: it changes where no other comes before it
      subst hkey
      by_cases hbefore : e.1 ∈ (m.entries.take i).map (·.1)
      · simp only [hbefore, not_true_eq_false, and_false, if_false, if_true]
      · simp only [hbefore, not_false_eq_true, and_self, if_true, if_false, Option.getD_some]
    · simp only [hkey, Ne.symm hkey, false_and, if_false]
  case rest => exact h.rest

/-- So does setting any keys one after another. -/
theorem Annotated.withAll (h : Annotated m calls m') (more : List (String × String)) :
    Annotated m (calls ++ more) (m'.withAll more) := by
  -- along the calls that follow, with those before them gathered in `calls`
  induction more generalizing calls m' with
  | nil => rwa [List.append_nil]
  | cons c more ih =>
    have hnext := ih (h.withMetadata c.1 c.2)
    rwa [List.append_assoc] at hnext

/-! ## Maps -/

theorem lookup_filter (k : String) (l : List (String × String)) :
    (l.filter (·.1 = k)).lookup k = l.lookup k := by
  induction l with
  | nil => rfl
  | cons e l ih =>
    -- entries of other keys are passed over in any case
    by_cases h : e.1 = k
    · rw [List.filter_cons, if_pos (decide_eq_true h), lookup_cons, lookup_cons, if_pos h, if_pos h]
    · rw [List.filter_cons, if_neg (by simpa using h), ih, lookup_cons, if_neg h]

theorem lastSet?_filter (calls : List (String × String)) (k : String) :
    lastSet? (calls.filter (·.1 = k)) k = lastSet? calls k := by
  rw [lastSet?, ← List.filter_reverse, lookup_filter]
  rfl

/-- What the metadata of a message is when calls have set keys of it, one after another. -/
structure Mapped (m : Message) (calls : List (String × String)) : Prop
    extends Annotated m calls (m.withAll calls) where
  /-- Distinct keys stay distinct. -/
  distinct : m.keys.Nodup → (m.withAll calls).keys.Nodup
  /-- The value of a key depends on the calls that set that key only. -/
  own : ∀ k, (m.withAll calls).metadata? k = (m.withAll (calls.filter (·.1 = k))).metadata? k
  /-- The reply goes to the queue that was set last, and if there is none, where it went before. -/
  replyTo : (m.withAll calls).replyTo? = (lastSet? calls replyToKey).or m.replyTo?
  /-- No call that sets another key has a say in it. -/
  replyToOwn : (m.withAll calls).replyTo? =
    (m.withAll (calls.filter (·.1 = replyToKey))).replyTo?

/-- **Metadata is a map under any history.** Whatever entries a message has, and whatever keys of
    its metadata are set one after another. -/
theorem mapped_withAll (m : Message) (calls : List (String × String)) : Mapped m calls := by
  have hafter (cs : List (String × String)) : Annotated m cs (m.withAll cs) :=
    (Annotated.refl m).withAll cs
  have hown (k : String) :
      (m.withAll calls).metadata? k = (m.withAll (calls.filter (·.1 = k))).metadata? k := by
    rw [(hafter calls).value, (hafter _).value, lastSet?_filter]
  refine ⟨hafter calls, ?distinct, hown, ?replyTo, hown replyToKey⟩
  case distinct =>
    intro h
    rw [List.nodup_iff_count] at h ⊢
    intro k
    rw [(hafter calls).count]
    -- no count exceeds one, and setting a key raises none above it
    have hone := h k
    split <;> omega
  case replyTo =>
    rw [replyTo?, (hafter calls).value, replyTo?, metadata?_eq_lookup]

/-- A list that has a key twice: the first entry is set, and the second one stays. -/
example :
    ((Message.mk "1" "index.read" [] (some [("a", "1"), ("a", "2")])).withAll
      [("b", "3"), ("a", "4")]).metadata = some [("a", "4"), ("a", "2"), ("b", "3")] := by decide

end TileIndex.Message
