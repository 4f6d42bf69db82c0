import Mathlib.Data.List.Nodup
import TileIndex.Proofs.Json.Literals
import TileIndex.Proofs.Logs
import TileIndex.Settings.Document

/-!
# Documents of settings

An object may give each field once, in any order, with blanks between its tokens and with escapes in
its keys. The entries of such an object are read one by one as what they give. Conversely, what has
been read of any document leaves no doubt about what stood there, up to the text that was not read.

## Main statements

- `Settings.Members.read`: entries that give distinct fields are read as what they give.
- `Settings.readEntries_cases`: what can have been read, one entry at a time.
-/

namespace TileIndex.Settings

open Json

/-! ## Documents -/

/-- The field that is given its value. -/
def Assignment.field : Assignment → Field
  | maxPending _ => .maxPending
  | replyTimeoutMs _ => .replyTimeoutMs
  | queueStem _ => .queueStem

/-- How the value of a field is written: a number in plain decimals, a text with any escapes. -/
inductive Assignment.Value : Assignment → List Char → Prop
  | maxPending (n : UInt64) : Value (.maxPending n) (Text.decimal n.toNat)
  | replyTimeoutMs (n : UInt64) : Value (.replyTimeoutMs n) (Text.decimal n.toNat)
  | queueStem {s : String} {body : List Char} (h : Spells body s.toList) :
      Value (.queueStem s) ('"' :: (body ++ ['"']))

/-- A place of an object. -/
inductive Slot
  | entry (a : Assignment)
  /-- A key with something behind it. -/
  | other (key : String)

/-- The key at a place. -/
def Slot.key : Slot → String
  | entry a => a.field.key
  | other key => key

/-- How a place is written. Nothing is asked of what stands behind the key of another entry, it need
    not even be a value. -/
inductive Slot.Writes : Slot → List Char → Prop
  | entry {a : Assignment} {b₁ b₂ b₃ b₄ body value : List Char} (h₁ : Blank b₁) (h₂ : Blank b₂)
      (h₃ : Blank b₃) (h₄ : Blank b₄) (hkey : Spells body a.field.key.toList)
      (hvalue : a.Value value) :
      Writes (.entry a) (b₁ ++ '"' :: (body ++ '"' :: (b₂ ++ ':' :: (b₃ ++ (value ++ b₄)))))
  | other {key : String} {b body : List Char} (hb : Blank b) (hkey : Spells body key.toList)
      (behind : List Char) : Writes (.other key) (b ++ '"' :: (body ++ '"' :: behind))

/-- How the places of an object are written, with commas between them. -/
inductive Members : List Slot → List Char → Prop
  | one {x : Slot} {l : List Char} (h : x.Writes l) : Members [x] l
  | cons {x : Slot} {xs : List Slot} {l m : List Char} (h : x.Writes l) (hxs : Members xs m) :
      Members (x :: xs) (l ++ ',' :: m)

/-- How an object with some places is written as a document. -/
inductive Document : List Slot → List Char → Prop
  | empty {b₁ b₂ b₃ : List Char} (h₁ : Blank b₁) (h₂ : Blank b₂) (h₃ : Blank b₃) :
      Document [] (b₁ ++ '\x7b' :: (b₂ ++ '\x7d' :: b₃))
  | members {xs : List Slot} {b₁ b₂ l : List Char} (h₁ : Blank b₁) (h₂ : Blank b₂)
      (h : Members xs l) : Document xs (b₁ ++ '\x7b' :: (l ++ '\x7d' :: b₂))

variable {left : List Field} {s s' : Settings} {first : Bool} {l b m r tail rest : List Char}

/-- Every assignment has a value that can be written. -/
theorem exists_value (a : Assignment) : ∃ value, a.Value value := by
  cases a with
  | maxPending n => exact ⟨_, .maxPending n⟩
  | replyTimeoutMs n => exact ⟨_, .replyTimeoutMs n⟩
  | queueStem t =>
    obtain ⟨body, h⟩ := exists_spells t.toList
    exact ⟨_, .queueStem h⟩

/-- So entries can be written in any order. -/
theorem exists_members (a : Assignment) (as : List Assignment) :
    ∃ l, Members ((a :: as).map .entry) l := by
  have hentry : ∀ a : Assignment, ∃ l, Slot.Writes (.entry a) l := by
    intro a
    obtain ⟨body, hkey⟩ := exists_spells a.field.key.toList
    obtain ⟨value, hvalue⟩ := exists_value a
    -- nothing is as good as blanks
    have hb : Blank [] := fun c hc => absurd hc List.not_mem_nil
    exact ⟨_, .entry hb hb hb hb hkey hvalue⟩
  induction as generalizing a with
  | nil =>
    obtain ⟨l, hl⟩ := hentry a
    exact ⟨l, .one hl⟩
  | cons a' as ih =>
    obtain ⟨l, hl⟩ := hentry a
    obtain ⟨m, hm⟩ := ih a'
    exact ⟨_, .cons hl hm⟩

/-- Fields can be given in any order. -/
theorem exists_document (as : List Assignment) : ∃ l, Document (as.map .entry) l := by
  have hb : Blank [] := fun c hc => absurd hc List.not_mem_nil
  cases as with
  | nil => exact ⟨_, .empty hb hb hb⟩
  | cons a as =>
    obtain ⟨l, hl⟩ := exists_members a as
    exact ⟨_, .members hb hb hl⟩

/-! ## Places -/

/-- A place begins with its key, in quotes and behind blanks. -/
theorem Slot.Writes.opens {x : Slot} (h : x.Writes l) :
    ∃ b body rest, Blank b ∧ Spells body x.key.toList ∧ l = b ++ '"' :: (body ++ '"' :: rest) := by
  cases h with
  | entry h₁ h₂ h₃ h₄ hkey hvalue => exact ⟨_, _, _, h₁, hkey, rfl⟩
  | other hb hkey behind => exact ⟨_, _, _, hb, hkey, rfl⟩

theorem Members.ne_nil {xs : List Slot} (h : Members xs l) : xs ≠ [] := by
  cases h <;> exact List.cons_ne_nil _ _

/-- The first place stands alone, or before a comma and the others. -/
theorem Members.cons_cases {x : Slot} {xs : List Slot} (h : Members (x :: xs) l) :
    xs = [] ∧ x.Writes l ∨ ∃ k m, l = k ++ ',' :: m ∧ x.Writes k ∧ Members xs m := by
  cases h with
  | one h => exact .inl ⟨rfl, h⟩
  | cons h hxs => exact .inr ⟨_, _, rfl, h, hxs⟩

/-- Places are cut in two at a comma. -/
theorem Members.of_append {xs ys : List Slot} (h : Members (xs ++ ys) l) (hxs : xs ≠ [])
    (hys : ys ≠ []) : ∃ k m, l = k ++ ',' :: m ∧ Members xs k ∧ Members ys m := by
  -- by induction on the places before the cut; it is made behind the last of them
  induction xs generalizing l with
  | nil => exact absurd rfl hxs
  | cons x xs ih =>
    rcases h.cons_cases with ⟨hnil, -⟩ | ⟨k, m, rfl, hx, h⟩
    · exact absurd (List.append_eq_nil_iff.1 hnil).2 hys
    · cases xs with
      | nil => exact ⟨k, m, rfl, .one hx, h⟩
      | cons x' xs =>
        obtain ⟨k', m', rfl, hxs', hys'⟩ := ih h (List.cons_ne_nil _ _)
        exact ⟨k ++ ',' :: k', m', by simp, .cons hx hxs', hys'⟩

/-- Places begin with a quoted key. -/
theorem Members.opens {x : Slot} {xs : List Slot} (h : Members (x :: xs) l) :
    ∃ b body rest, Blank b ∧ Spells body x.key.toList ∧ l = b ++ '"' :: (body ++ '"' :: rest) := by
  rcases h.cons_cases with ⟨-, hx⟩ | ⟨k, m, rfl, hx, -⟩
  · exact hx.opens
  · obtain ⟨b, body, rest, hb, hkey, rfl⟩ := hx.opens
    refine ⟨b, body, rest ++ ',' :: m, hb, hkey, ?_⟩
    simp only [List.append_assoc, List.cons_append]

/-! ## Keys and punctuation -/

theorem ofKey?_key (f : Field) : Field.ofKey? f.key = some f := by
  cases f <;> rfl

theorem ofKey?_eq_none {key : String} (h : ∀ f : Field, f.key ≠ key) : Field.ofKey? key = none :=
  List.find?_eq_none.2 fun f _ => by simpa using h f

/-- A key is read however it is spelled: it is refused if no field has it, or if its field was given
    before. -/
theorem readKey_of_spells {body : List Char} {key : String} (h : Spells body key.toList)
    (left : List Field) (rest : List Char) :
    readKey left (body ++ '"' :: rest) =
      match Field.ofKey? key with
      | none => .error (.unknownField key)
      | some f => if hf : f ∈ left then .ok (⟨f, hf⟩, rest) else .error (.duplicateField f) := by
  cases hf : Field.ofKey? key <;> simp only [readKey, h.read, String.ofList_toList, hf]

/-- The key of a field that is left is read as that field. -/
theorem readKey_of_mem {body : List Char} {f : Field} (h : Spells body f.key.toList) (hf : f ∈ left)
    (rest : List Char) : readKey left (body ++ '"' :: rest) = .ok (⟨f, hf⟩, rest) := by
  simp only [readKey_of_spells h, ofKey?_key, hf, dif_pos]

theorem afterColon_blank (hb : Blank b) (l : List Char) : afterColon (b ++ ':' :: l) = .ok l := by
  simp only [afterColon, skipBlanks_append hb, skipBlanks_cons (c := ':') rfl]

/-- Blanks before an entry do not count. -/
theorem nextEntry_blank (hb : Blank b) (first : Bool) (l : List Char) :
    nextEntry first (b ++ l) = nextEntry first l := by
  simp only [nextEntry, skipBlanks_append hb]

theorem nextEntry_close (first : Bool) (l : List Char) :
    nextEntry first ('\x7d' :: l) = .ok (.close l) := by
  simp only [nextEntry, skipBlanks_cons (c := '\x7d') rfl]

/-- A first entry begins with a quote. -/
theorem nextEntry_open (hb : Blank b) (l : List Char) :
    nextEntry true (b ++ '"' :: l) = .ok (.item l) := by
  rw [nextEntry_blank hb]
  rfl

/-- A later entry begins with a comma. -/
theorem nextEntry_comma (hb : Blank b) (l : List Char) :
    nextEntry false (',' :: (b ++ '"' :: l)) = .ok (.item l) := by
  show openKey (skipBlanks (b ++ '"' :: l)) = .ok (.item l)
  rw [skipBlanks_append hb]
  rfl

/-! ## Values -/

/-- What can stand behind an entry. -/
def EndsEntry (l : List Char) : Prop := ∃ t, l = ',' :: t ∨ l = '\x7d' :: t

/-- An integer ends where its entry does. -/
theorem EndsEntry.endsInteger (h : EndsEntry tail) (hb : Blank b) : EndsInteger (b ++ tail) := by
  intro c hc
  cases b with
  -- without blanks the entry ends with a comma or a brace, and neither is part of an integer
  | nil => obtain ⟨t, rfl | rfl⟩ := h <;> obtain rfl := Option.some.inj hc <;> decide
  -- nor is a blank
  | cons d b =>
    obtain rfl := Option.some.inj hc
    obtain rfl | rfl | rfl | rfl := hb d (List.mem_cons_self ..) <;> decide

/-- A word is read from its decimals. -/
theorem readUInt64_decimal (hb : Blank b) (hrest : EndsInteger rest) (expected : String)
    (n : UInt64) :
    readUInt64 expected (skipBlanks (b ++ (Text.decimal n.toNat ++ rest))) = .ok (n, rest) := by
  -- a word fits the significand
  have hle : n.toNat ≤ maxSignificand := Nat.le_sub_one_of_lt n.toNat_lt
  obtain ⟨c, ds, hcons, hdigit⟩ := exists_decimal_eq_cons n.toNat
  -- no digit is a blank, so nothing of the number is skipped
  have hblank : isBlank c = false := by
    by_contra h
    rcases isBlank_iff.1 (by simpa using h) with rfl | rfl | rfl | rfl <;> cases hdigit
  have hskip : skipBlanks (b ++ (Text.decimal n.toNat ++ rest)) = Text.decimal n.toNat ++ rest := by
    rw [skipBlanks_append hb, hcons, List.cons_append, skipBlanks_cons hblank]
  have hstarts : startsNumber (Text.decimal n.toNat ++ rest) = true := by
    rw [startsNumber, hcons]
    simp [hdigit]
  simp only [readUInt64, hskip, hstarts, if_true, readNumber_decimal hle hrest, UInt64.ofNat_toNat]

/-- A value is read as what it writes. -/
theorem Assignment.Value.read {a : Assignment} {value : List Char} (h : a.Value value)
    (hb : Blank b) (hrest : EndsInteger rest) :
    readValue a.field (b ++ (value ++ rest)) = .ok (a, rest) := by
  cases h with
  | maxPending n =>
    simp only [readValue, field, readUInt64_decimal hb hrest]
    rfl
  | replyTimeoutMs n =>
    simp only [readValue, field, readUInt64_decimal hb hrest]
    rfl
  | @queueStem s body h =>
    have hskip :
        skipBlanks (b ++ ('"' :: (body ++ ['"']) ++ rest)) = '"' :: (body ++ '"' :: rest) := by
      rw [skipBlanks_append hb, List.cons_append, skipBlanks_cons (c := '"') rfl, List.append_assoc]
      rfl
    simp only [readValue, field, hskip, readString, h.read, String.ofList_toList]
    rfl

/-! ## Entries -/

/-- Only what comes next matters to the reading of entries. -/
theorem readEntries_of_nextEntry {first' : Bool} {l' : List Char}
    (h : nextEntry first l = nextEntry first' l') (left : List Field) (s : Settings) :
    readEntries left s first l = readEntries left s first' l' := by
  rw [readEntries, readEntries, h]

/-- Entries end at a brace, with the settings as they are then. -/
theorem readEntries_close (left : List Field) (s : Settings) (first : Bool) (l : List Char) :
    readEntries left s first ('\x7d' :: l) = .ok (s, l) := by
  rw [readEntries, nextEntry_close]

/-- Behind a comma entries are read as from the start. -/
theorem readEntries_comma {xs : List Slot} (h : Members xs l) (left : List Field) (s : Settings)
    (tail : List Char) :
    readEntries left s false (',' :: (l ++ tail)) = readEntries left s true (l ++ tail) := by
  obtain ⟨x, xs, rfl⟩ := List.exists_cons_of_ne_nil h.ne_nil
  obtain ⟨b, body, rest, hb, -, rfl⟩ := h.opens
  refine readEntries_of_nextEntry ?_ left s
  rw [List.append_assoc, List.cons_append, nextEntry_comma hb, nextEntry_open hb]

/-- An entry whose parts are read one by one gives its field a value. -/
theorem readEntries_of_item {f : Field} {a : Assignment} {l₁ l₂ l₃ : List Char} (hf : f ∈ left)
    (hnext : nextEntry first l = .ok (.item l₁)) (hkey : readKey left l₁ = .ok (⟨f, hf⟩, l₂))
    (hcolon : afterColon l₂ = .ok l₃) (hvalue : readValue f l₃ = .ok (a, rest)) :
    readEntries left s first l = readEntries (left.erase f) (s.assign a) false rest := by
  rw [readEntries, hnext]
  simp only [hkey, hcolon, hvalue]

/-- An entry whose field is left is read as its assignment. -/
theorem Slot.Writes.read {a : Assignment} (h : Slot.Writes (.entry a) l) (ha : a.field ∈ left)
    (htail : EndsEntry tail) (s : Settings) :
    readEntries left s true (l ++ tail) =
      readEntries (left.erase a.field) (s.assign a) false tail := by
  cases h with
  | @entry a b₁ b₂ b₃ b₄ body value h₁ h₂ h₃ h₄ hkey hvalue =>
    simp only [List.append_assoc, List.cons_append]
    rw [readEntries_of_item ha (nextEntry_open h₁ _) (readKey_of_mem hkey ha _)
      (afterColon_blank h₂ _) (hvalue.read h₃ (htail.endsInteger h₄))]
    exact readEntries_of_nextEntry (nextEntry_blank h₄ false tail) _ _

/-- Entries whose fields are left and distinct are read as their assignments. -/
theorem Members.read {as : List Assignment} (h : Members (as.map .entry) l)
    (hleft : ∀ a ∈ as, a.field ∈ left) (hdistinct : (as.map Assignment.field).Nodup)
    (htail : EndsEntry tail) (s : Settings) :
    readEntries left s true (l ++ tail) =
      readEntries (left.diff (as.map Assignment.field)) (as.foldl assign s) false tail := by
  -- by induction on the entries; each takes its field from those that are left
  induction as generalizing l left s with
  | nil => exact absurd rfl h.ne_nil
  | cons a as ih =>
    obtain ⟨hnew, hdistinct⟩ := List.nodup_cons.1 hdistinct
    have ha := hleft a (List.mem_cons_self ..)
    rw [List.map_cons, List.diff_cons, List.foldl_cons]
    rcases h.cons_cases with ⟨has, hw⟩ | ⟨l, m, rfl, hw, hxs⟩
    · -- the last entry
      obtain rfl := List.map_eq_nil_iff.1 has
      exact hw.read ha htail s
    · rw [List.append_assoc, List.cons_append, hw.read ha ⟨_, .inl rfl⟩, readEntries_comma hxs]
      -- the fields that come later are still left
      refine ih hxs (fun a' ha' => ?_) hdistinct _
      have hne : a'.field ≠ a.field := fun heq => hnew (heq ▸ List.mem_map_of_mem ha')
      exact (List.mem_erase_of_ne hne).2 (hleft a' (List.mem_cons_of_mem _ ha'))

/-- Entries before another place are read, and that place comes next. -/
theorem Members.read_before {as : List Assignment} {x : Slot} {xs : List Slot}
    (h : Members (as.map .entry ++ x :: xs) l) (hleft : ∀ a ∈ as, a.field ∈ left)
    (hdistinct : (as.map Assignment.field).Nodup) (s : Settings) :
    ∃ k s', Members (x :: xs) k ∧ ∀ tail, readEntries left s true (l ++ tail) =
      readEntries (left.diff (as.map Assignment.field)) s' true (k ++ tail) := by
  cases as with
  -- there is no entry before the place
  | nil => exact ⟨l, s, h, fun _ => rfl⟩
  | cons a as =>
    obtain ⟨k, m, rfl, hk, hm⟩ := h.of_append (List.cons_ne_nil _ _) (List.cons_ne_nil _ _)
    refine ⟨m, (a :: as).foldl assign s, hm, fun tail => ?_⟩
    rw [List.append_assoc, List.cons_append, hk.read hleft hdistinct ⟨_, .inl rfl⟩,
      readEntries_comma hm]

/-! ## What has been read -/

/-- Where entries end there is a brace, behind blanks. -/
theorem skipBlanks_of_close (h : nextEntry first l = .ok (.close rest)) :
    skipBlanks l = '\x7d' :: rest := by
  unfold nextEntry openKey at h
  split at h
  · rename_i heq
    rw [heq]
    cases h
    rfl
  · split at h
    · split at h <;> cases h
    · split at h
      · split at h <;> cases h
      · cases h

/-- Where an entry begins there is a quote, for a later one behind a comma. -/
theorem skipBlanks_of_item (h : nextEntry first l = .ok (.item rest)) :
    skipBlanks l = '"' :: rest ∨ ∃ l', skipBlanks l = ',' :: l' ∧ skipBlanks l' = '"' :: rest := by
  -- both a first entry and a later one open with a quote
  have hopen : ∀ {l}, openKey l = .ok (.item rest) → l = '"' :: rest := by
    intro l h
    unfold openKey at h
    split at h <;> cases h
    rfl
  unfold nextEntry at h
  split at h
  · cases h
  split at h
  · exact .inl (hopen h)
  split at h
  · rename_i l' heq
    exact .inr ⟨l', heq, hopen h⟩
  · cases h

/-- A key that was read is a text. -/
theorem readText_of_readKey {f : { f // f ∈ left }} (h : readKey left l = .ok (f, rest)) :
    ∃ t, readText l = some (t, rest) := by
  unfold readKey at h
  split at h
  · cases h
  · rename_i t rest' hread
    split at h
    · cases h
    split at h
    · obtain ⟨-, rfl⟩ := Prod.mk.inj (Except.ok.inj h)
      exact ⟨t, hread⟩
    · cases h

/-- A colon that was passed stood behind blanks. -/
theorem skipBlanks_of_afterColon (h : afterColon l = .ok rest) : skipBlanks l = ':' :: rest := by
  unfold afterColon at h
  split at h
  · rename_i heq
    rw [heq, Except.ok.inj h]
  · cases h

theorem refuse_ne_ok {α : Type} {expected : String} {x : α} : refuse expected l ≠ .ok x := by
  intro h
  unfold refuse at h
  split at h <;> cases h

/-- A word that was read is all the digits that stood there. -/
theorem dropWhile_of_readUInt64 {expected : String} {n : UInt64}
    (h : readUInt64 expected l = .ok (n, rest)) : rest = l.dropWhile Char.isDigit := by
  unfold readUInt64 at h
  split at h
  · split at h
    · cases h
    · rename_i hread
      obtain ⟨-, rfl⟩ := Prod.mk.inj (Except.ok.inj h)
      exact dropWhile_of_readNumber hread
    · cases h
    · cases h
  · exact absurd h refuse_ne_ok

/-- A string that was read is a text in quotes. -/
theorem readText_of_readString {expected t : String} (h : readString expected l = .ok (t, rest)) :
    ∃ l', l = '"' :: l' ∧ readText l' = some (t.toList, rest) := by
  unfold readString at h
  split at h
  · split at h
    · rename_i hread
      obtain ⟨rfl, rfl⟩ := Prod.mk.inj (Except.ok.inj h)
      exact ⟨_, rfl, by rw [hread, String.toList_ofList]⟩
    · cases h
  · exact absurd h refuse_ne_ok

/-- A value that is read is made of digits or is a text. -/
theorem readValue_cases {f : Field} {a : Assignment} (h : readValue f l = .ok (a, rest)) :
    rest = (skipBlanks l).dropWhile Char.isDigit ∨
      ∃ l' t, skipBlanks l = '"' :: l' ∧ readText l' = some (t, rest) := by
  cases f with
  | maxPending =>
    obtain ⟨⟨n, rest'⟩, hread, hpair⟩ := exists_of_map_eq_ok h
    obtain ⟨-, rfl⟩ := Prod.mk.inj hpair
    exact .inl (dropWhile_of_readUInt64 hread)
  | replyTimeoutMs =>
    obtain ⟨⟨n, rest'⟩, hread, hpair⟩ := exists_of_map_eq_ok h
    obtain ⟨-, rfl⟩ := Prod.mk.inj hpair
    exact .inl (dropWhile_of_readUInt64 hread)
  | queueStem =>
    obtain ⟨⟨t, rest'⟩, hread, hpair⟩ := exists_of_map_eq_ok h
    obtain ⟨-, rfl⟩ := Prod.mk.inj hpair
    obtain ⟨l', hskip, hread⟩ := readText_of_readString hread
    exact .inr ⟨l', _, hskip, hread⟩

/-- Entries are read to their end, or one entry is read and the rest after it. -/
theorem readEntries_cases (h : readEntries left s first l = .ok (s', rest)) :
    (s = s' ∧ nextEntry first l = .ok (.close rest)) ∨
      ∃ (f : Field) (hf : f ∈ left) (l₁ l₂ l₃ l₄ : List Char) (a : Assignment),
        nextEntry first l = .ok (.item l₁) ∧ readKey left l₁ = .ok (⟨f, hf⟩, l₂) ∧
          afterColon l₂ = .ok l₃ ∧ readValue f l₃ = .ok (a, l₄) ∧
            readEntries (left.erase f) (s.assign a) false l₄ = .ok (s', rest) := by
  rw [readEntries] at h
  split at h
  · cases h
  · rename_i hnext
    -- the entries are closed
    obtain ⟨rfl, rfl⟩ := Prod.mk.inj (Except.ok.inj h)
    exact .inl ⟨rfl, hnext⟩
  · rename_i hnext
    split at h
    · cases h
    -- each part was read, or reading would have stopped there
    rename_i hkey
    split at h
    · cases h
    rename_i hcolon
    split at h
    · cases h
    rename_i hvalue
    exact .inr ⟨_, _, _, _, _, _, _, hnext, hkey, hcolon, hvalue, h⟩

end TileIndex.Settings
