import Mathlib.Data.List.Perm.Basic
import TileIndex.Proofs.Settings.Documents

/-!
# Loading settings

An object that gives some fields is read as the standard settings with these fields replaced. A
further key makes any object unreadable, wherever it stands and whatever follows it. If it is
unknown or its field has been given, reading stops at the key. If its field is given again by a
later entry, reading stops there at the latest: no value before that entry can hide it.

## Main statements

- `Settings.Repeats.suffix_of_readEntries`: nothing is read past the entry that repeats a field.
- `Settings.Document.read`: what a document that gives fields is read as.
- `Settings.Document.refused`: a document with a further key is not read.
- `Settings.loads_documents`: which documents load, and that all settings that load can be used.
-/

namespace TileIndex.Settings

open Json

variable {left : List Field} {s s' : Settings} {first : Bool} {l b m r tail rest : List Char}

/-! ## Keys that are refused -/

/-- Reading stops at a key that no field has. -/
theorem readEntries_unknown {body : List Char} {key : String} (hb : Blank b)
    (hkey : Spells body key.toList) (hunknown : ∀ f : Field, f.key ≠ key) (left : List Field)
    (s : Settings) (rest : List Char) :
    readEntries left s true (b ++ '"' :: (body ++ '"' :: rest)) = .error (.unknownField key) := by
  rw [readEntries, nextEntry_open hb]
  simp only [readKey_of_spells hkey, ofKey?_eq_none hunknown]

/-- Reading stops at the key of a field that has been given. -/
theorem readEntries_given {body : List Char} {f : Field} (hb : Blank b)
    (hkey : Spells body f.key.toList) (hf : f ∉ left) (s : Settings) (rest : List Char) :
    readEntries left s true (b ++ '"' :: (body ++ '"' :: rest)) = .error (.duplicateField f) := by
  rw [readEntries, nextEntry_open hb]
  simp only [readKey_of_spells hkey, ofKey?_key, hf, dif_neg, not_false_eq_true]

/-- Entries of which one gives a field that is not left are refused. -/
theorem Members.refused {as : List Assignment} (h : Members (as.map .entry) l) {f : Field}
    (hgiven : f ∈ as.map Assignment.field) (hleft : f ∉ left) (s : Settings) (tail : List Char) :
    ∃ p, readEntries left s true (l ++ tail) = .error p := by
  induction as generalizing l left s with
  | nil => cases hgiven
  | cons a as ih =>
    -- an entry of a field that is left is read, and the field is then gone
    by_cases ha : a.field ∈ left
    · have hgiven : f ∈ as.map Assignment.field := by
        rcases List.mem_cons.1 hgiven with rfl | hgiven
        · exact absurd ha hleft
        · exact hgiven
      rcases h.cons_cases with ⟨has, -⟩ | ⟨l, m, rfl, hw, hxs⟩
      · rw [List.map_eq_nil_iff.1 has] at hgiven
        cases hgiven
      · rw [List.append_assoc, List.cons_append, hw.read ha ⟨_, .inl rfl⟩, readEntries_comma hxs]
        exact ih hxs hgiven (fun h => hleft (List.mem_of_mem_erase h)) _
    · obtain ⟨b, body, rest, hb, hkey, rfl⟩ := Members.opens (x := .entry a) h
      refine ⟨.duplicateField a.field, ?_⟩
      simp only [List.append_assoc, List.cons_append]
      exact readEntries_given hb hkey ha s _

/-! ## Entries that repeat a field -/

/-- What does not begin with a token of an object. -/
def Inert (l : List Char) : Prop :=
  ∀ c ∈ l.head?, isBlank c = false ∧ c ∉ [':', ',', '"', '\x7d']

theorem Inert.skipBlanks_ne {c : Char} (h : Inert l) (hc : c ∈ [':', ',', '"', '\x7d'])
    (rest : List Char) : skipBlanks l ≠ c :: rest := by
  intro heq
  cases l with
  | nil => cases heq
  | cons d l =>
    rw [skipBlanks_cons (h d rfl).1] at heq
    obtain rfl := (List.cons.inj heq).1
    exact (h d rfl).2 hc

/-- The key of a field begins with a letter, or with the backslash of an escape. -/
theorem inert_of_spells {body : List Char} {f : Field} (h : Spells body f.key.toList)
    (rest : List Char) : Inert (body ++ rest) := by
  obtain ⟨c, k, hc, hinert⟩ : ∃ c k, f.key.toList = c :: k ∧
      (isBlank c = false ∧ c ∉ [':', ',', '"', '\x7d']) := by
    cases f <;> exact ⟨_, _, rfl, by decide⟩
  rw [hc] at h
  -- the key begins as the name of its field does, unless an escape spells the first letter
  cases h with
  | plain =>
    intro c' hc'
    obtain rfl := Option.some.inj hc'
    exact hinert
  | _ =>
    intro c' hc'
    obtain rfl := Option.some.inj hc'
    decide

/-- Members, up to the quote of their first key and from there on, of which one gives a field. -/
structure Repeats (f : Field) (b r : List Char) : Prop where
  blank : Blank b
  inert : Inert r
  refused : ∀ {left s}, f ∉ left → ∃ p, readEntries left s true (b ++ '"' :: r) = .error p

/-- Members of which one gives a field cannot be read where the field has been given. -/
theorem Members.repeats {as : List Assignment} (h : Members (as.map .entry) l) {f : Field}
    (hgiven : f ∈ as.map Assignment.field) (tail : List Char) :
    ∃ b r, l ++ tail = b ++ '"' :: r ∧ Repeats f b r := by
  cases as with
  | nil => cases hgiven
  | cons a as =>
    obtain ⟨b, body, rest, hb, hkey, hl⟩ := Members.opens (x := .entry a) h
    have heq : l ++ tail = b ++ '"' :: (body ++ '"' :: (rest ++ tail)) := by
      simp only [hl, List.append_assoc, List.cons_append]
    refine ⟨b, _, heq, hb, inert_of_spells hkey _, fun {left s} hleft => ?_⟩
    rw [← heq]
    exact h.refused hgiven hleft s tail

/-- What has members ahead, or stands in the first key of these. -/
def Upstream (b r l : List Char) : Prop := ',' :: (b ++ '"' :: r) <:+ l ∨ l = r

theorem suffix_skipBlanks (h : ',' :: m <:+ l) : ',' :: m <:+ skipBlanks l :=
  suffix_dropWhile rfl h

theorem suffix_of_skipBlanks {c : Char} (h : ',' :: m <:+ l) (hskip : skipBlanks l = c :: rest)
    (hc : c ≠ ',') : ',' :: m <:+ rest := by
  have h := suffix_skipBlanks h
  rw [hskip] at h
  -- the members begin with a comma, so the character before the rest is not theirs
  rcases List.suffix_cons_iff.1 h with heq | h
  · exact absurd (List.cons.inj heq).1.symm hc
  · exact h

/-- Members stay ahead where the entries before them end. -/
theorem Upstream.close (h : Upstream b r l) (hr : Inert r)
    (hnext : nextEntry first l = .ok (.close rest)) : ',' :: (b ++ '"' :: r) <:+ rest := by
  have hskip := skipBlanks_of_close hnext
  rcases h with h | rfl
  · exact suffix_of_skipBlanks h hskip (by decide)
  · exact absurd hskip (hr.skipBlanks_ne (by simp) rest)

/-- Members stay ahead of an entry that is opened, unless it is the first of them. -/
theorem Upstream.item (h : Upstream b r l) (hb : Blank b) (hr : Inert r)
    (hnext : nextEntry first l = .ok (.item rest)) : Upstream b r rest := by
  rcases h with h | rfl
  · rcases skipBlanks_of_item hnext with hskip | ⟨l', hskip, hskip'⟩
    · exact .inl (suffix_of_skipBlanks h hskip (by decide))
    have h := suffix_skipBlanks h
    rw [hskip] at h
    rcases List.suffix_cons_iff.1 h with heq | h
    -- the comma is the one before the members
    · obtain rfl := (List.cons.inj heq).2
      rw [skipBlanks_append hb, skipBlanks_cons (c := '"') rfl] at hskip'
      exact .inr (List.cons.inj hskip').2.symm
    · exact .inl (suffix_of_skipBlanks h hskip' (by decide))
  · rcases skipBlanks_of_item hnext with hskip | ⟨l', hskip, -⟩
    · exact absurd hskip (hr.skipBlanks_ne (by simp) rest)
    · exact absurd hskip (hr.skipBlanks_ne (by simp) l')

/-- Members stay ahead of what follows a value, unless the value is a text that their first quote
    closes. -/
theorem Upstream.value {f : Field} {a : Assignment} {l' : List Char} (h : Upstream b r l)
    (hb : Blank b) (hr : Inert r) (hcolon : afterColon l = .ok l')
    (hvalue : readValue f l' = .ok (a, rest)) : Upstream b r rest := by
  have hskip := skipBlanks_of_afterColon hcolon
  rcases h with h | rfl
  · have h := suffix_of_skipBlanks h hskip (by decide)
    -- a number ends before the next comma, and a text at its closing quote
    rcases readValue_cases hvalue with rfl | ⟨l'', t, hquote, hread⟩
    · exact .inl (suffix_dropWhile rfl (suffix_skipBlanks h))
    · exact suffix_of_readText hb (suffix_of_skipBlanks h hquote (by decide)) hread
  · exact absurd hskip (hr.skipBlanks_ne (by simp) l')

/-- No entries are read past members that repeat a field which has been given. -/
theorem Repeats.suffix_of_readEntries {f : Field} (hm : Repeats f b r) (hleft : f ∉ left)
    (hl : Upstream b r l) (h : readEntries left s first l = .ok (s', rest)) :
    ',' :: (b ++ '"' :: r) <:+ rest := by
  -- along the entries read before the members: these stay ahead until one of them is opened
  fun_induction readEntries left s first l with
  -- the entries end
  | case2 left s first l rest' hnext =>
    obtain ⟨-, rfl⟩ := Prod.mk.inj (Except.ok.inj h)
    exact hl.close hm.inert hnext
  -- an entry is read, before the members or as the first of them
  | case6 left s first l l₁ hnext f' hf' l₂ hkey l₃ hcolon a l₄ hvalue ih =>
    rcases hl.item hm.blank hm.inert hnext with hahead | rfl
    · obtain ⟨t, hread⟩ := readText_of_readKey hkey
      have hkeyEnd : Upstream b r l₂ := suffix_of_readText hm.blank hahead hread
      have hvalueEnd : Upstream b r l₄ := hkeyEnd.value hm.blank hm.inert hcolon hvalue
      exact ih (fun hmem => hleft (List.mem_of_mem_erase hmem)) hvalueEnd h
    · obtain ⟨p, hp⟩ := hm.refused (s := s) hleft
      rw [readEntries_of_item hf' (nextEntry_open hm.blank _) hkey hcolon hvalue, h] at hp
      cases hp
  | _ => cases h

/-- A document is not read to its end if something is left ahead. -/
theorem atEnd_of_suffix (h : ',' :: m <:+ rest) (s : Settings) :
    atEnd (.ok (s, rest)) = .error .malformed := by
  have hne : skipBlanks rest ≠ [] := by
    intro hnil
    have hsuffix := suffix_skipBlanks h
    rw [hnil] at hsuffix
    cases List.suffix_nil.1 hsuffix
  rw [atEnd, if_neg hne]

/-- A field is refused if members that repeat it follow, whatever stands between. -/
theorem Repeats.refused_before {f : Field} (hm : Repeats f b r) (hleft : left.Nodup) (hf : f ∈ left)
    {b' body : List Char} (hb' : Blank b') (hbody : Spells body f.key.toList) (s : Settings)
    (behind : List Char) :
    ∃ p, atEnd (readEntries left s true
      (b' ++ '"' :: (body ++ '"' :: (behind ++ ',' :: (b ++ '"' :: r))))) = .error p := by
  generalize hresult : readEntries left s true _ = result
  rcases result with p | ⟨s', rest⟩
  · exact ⟨p, rfl⟩
  refine ⟨.malformed, atEnd_of_suffix (m := b ++ '"' :: r) ?_ s'⟩
  -- what is opened first is the field itself
  rcases readEntries_cases hresult with
    ⟨-, hnext⟩ | ⟨f', hf', l₁, l₂, l₃, l₄, a, hnext, hkey, hcolon, hvalue, hrest⟩
  · rw [nextEntry_open hb'] at hnext
    cases hnext
  rw [nextEntry_open hb'] at hnext
  cases hnext
  rw [readKey_of_mem hbody hf] at hkey
  cases hkey
  have hkeyEnd : Upstream b r (behind ++ ',' :: (b ++ '"' :: r)) := .inl (List.suffix_append ..)
  have hvalueEnd := hkeyEnd.value hm.blank hm.inert hcolon hvalue
  exact hm.suffix_of_readEntries hleft.not_mem_erase hvalueEnd hrest

/-- A key that is unknown or names a field again is refused, before or after that field. -/
theorem Members.refused_other {as : List Assignment} {key : String}
    (h : Members (.other key :: as.map .entry) l) (hleft : left.Nodup)
    (hkey : (∀ f : Field, f.key ≠ key) ∨
      ∃ f : Field, f.key = key ∧ (f ∈ left → f ∈ as.map Assignment.field))
    (s : Settings) (tail : List Char) :
    ∃ p, atEnd (readEntries left s true (l ++ tail)) = .error p := by
  obtain ⟨b, body, rest, hb, hbody, hl⟩ := h.opens
  rcases hkey with hunknown | ⟨f, rfl, hagain⟩
  · refine ⟨.unknownField key, ?_⟩
    simp only [hl, List.append_assoc, List.cons_append]
    rw [readEntries_unknown hb hbody hunknown]
    rfl
  -- the field may have been given by an entry before the key
  by_cases hf : f ∈ left
  · have hgiven := hagain hf
    rcases h.cons_cases with ⟨has, -⟩ | ⟨k, m, rfl, hk, hm⟩
    · rw [List.map_eq_nil_iff.1 has] at hgiven
      cases hgiven
    cases hk with
    | @other _ b body hb hbody behind =>
      obtain ⟨b', r, heq, hrepeats⟩ := hm.repeats hgiven tail
      simp only [List.append_assoc, List.cons_append, heq]
      exact hrepeats.refused_before hleft hf hb hbody s behind
  · refine ⟨.duplicateField f, ?_⟩
    simp only [hl, List.append_assoc, List.cons_append]
    rw [readEntries_given hb hbody hf]
    rfl

/-! ## Whole documents -/

theorem mem_all (f : Field) : f ∈ Field.all := by
  cases f <;> decide

theorem nodup_all : Field.all.Nodup := by decide

/-- A document is read as the entries between its braces, over the standard settings. -/
theorem read_object (hb : Blank b) {text : String} (htext : text.toList = b ++ '\x7b' :: l) :
    Settings.read text = atEnd (readEntries Field.all standard true l) := by
  simp only [Settings.read, htext, skipBlanks_append hb, skipBlanks_cons (c := '\x7b') rfl]

/-- A document that gives fields is read as what it gives, if only blanks follow it. -/
theorem Document.read {as : List Assignment} (h : Document (as.map .entry) l)
    (hdistinct : (as.map Assignment.field).Nodup) {text : String}
    (htext : text.toList = l ++ tail) :
    Settings.read text =
      if skipBlanks tail = [] then .ok (as.foldl assign standard) else .error .malformed := by
  have hentries : ∃ b₁ b₂ k, Blank b₁ ∧ Blank b₂ ∧ l = b₁ ++ '\x7b' :: (k ++ '\x7d' :: b₂) ∧
      ∀ rest, readEntries Field.all standard true (k ++ '\x7d' :: rest) =
        .ok (as.foldl assign standard, rest) := by
    -- the members are told from no members by the form of the document
    generalize hslots : as.map Slot.entry = slots at h
    cases h with
    | @empty b₁ b₂ b₃ h₁ h₂ h₃ =>
      obtain rfl := List.map_eq_nil_iff.1 hslots
      refine ⟨b₁, b₃, b₂, h₁, h₃, rfl, fun rest => ?_⟩
      rw [readEntries_of_nextEntry (nextEntry_blank h₂ true _), readEntries_close]
      rfl
    | @members _ b₁ b₂ k h₁ h₂ h =>
      obtain rfl := hslots
      refine ⟨b₁, b₂, k, h₁, h₂, rfl, fun rest => ?_⟩
      rw [h.read (fun a _ => mem_all a.field) hdistinct ⟨rest, .inr rfl⟩, readEntries_close]
  obtain ⟨b₁, b₂, k, h₁, h₂, rfl, hread⟩ := hentries
  have htext : text.toList = b₁ ++ '\x7b' :: (k ++ '\x7d' :: (b₂ ++ tail)) := by
    simpa using htext
  rw [read_object h₁ htext, hread, atEnd, skipBlanks_append h₂]

/-- A document with a further key that is unknown or repeated is refused. -/
theorem Document.refused {before after : List Assignment} {key : String} {text : String}
    (h : Document (before.map .entry ++ .other key :: after.map .entry) text.toList)
    (hdistinct : ((before ++ after).map Assignment.field).Nodup)
    (hkey : (∀ f : Field, f.key ≠ key) ∨
      ∃ f ∈ (before ++ after).map Assignment.field, f.key = key) :
    ∃ p, Settings.read text = .error p := by
  rw [List.map_append] at hdistinct hkey
  generalize hslots : before.map Slot.entry ++ .other key :: after.map .entry = slots at h
  generalize hl : text.toList = l at h
  cases h with
  | empty => simp at hslots
  | @members _ b₁ b₂ k h₁ h₂ h =>
    obtain rfl := hslots
    -- the entries before the further key are read first
    obtain ⟨k', s', h', hread⟩ := h.read_before (fun a _ => mem_all a.field)
      (List.nodup_append.1 hdistinct).1 standard
    rw [read_object h₁ hl, hread]
    refine h'.refused_other nodup_all.diff ?_ s' _
    refine hkey.imp_right fun ⟨f, hf, hfkey⟩ => ⟨f, hfkey, fun hleft => ?_⟩
    rcases List.mem_append.1 hf with hf | hf
    · exact absurd hf (nodup_all.mem_sdiff_iff.1 hleft).2
    · exact hf

theorem error_of_read {text : String} {p : Problem} (h : Settings.read text = .error p) :
    ∃ t, ofJson text = .error (.argument t) := by
  simp only [ofJson, h]
  exact ⟨_, rfl⟩

/-- What loads has been found usable. -/
theorem validate_of_ofJson {text : String} (h : ofJson text = .ok s) : s.validate = .ok () := by
  unfold ofJson at h
  split at h
  · cases h
  split at h
  · cases h
  · rename_i hvalid
    rwa [← Except.ok.inj h]

/-! ## Overrides -/

/-- Values for some of the fields, none of them a number that cannot be used. -/
structure Overrides where
  maxPending : Option UInt64
  replyTimeoutMs : Option UInt64
  queueStem : Option String
  maxPending_ne : ∀ n ∈ maxPending, n ≠ 0
  replyTimeoutMs_ne : ∀ n ∈ replyTimeoutMs, n ≠ 0

namespace Overrides

/-- The standard settings with some fields replaced. -/
def settings (o : Overrides) : Settings :=
  ⟨o.maxPending.getD standard.maxPending, o.replyTimeoutMs.getD standard.replyTimeoutMs,
    o.queueStem.getD standard.queueStem⟩

/-- The fields that are replaced, with their values. -/
def assignments (o : Overrides) : List Assignment :=
  (o.maxPending.map .maxPending).toList ++ (o.replyTimeoutMs.map .replyTimeoutMs).toList ++
    (o.queueStem.map .queueStem).toList

theorem foldl_assignments (o : Overrides) : o.assignments.foldl assign standard = o.settings := by
  obtain ⟨_ | n, _ | t, _ | stem, -, -⟩ := o <;> rfl

theorem nodup_assignments (o : Overrides) : (o.assignments.map Assignment.field).Nodup := by
  obtain ⟨_ | n, _ | t, _ | stem, -, -⟩ := o <;> simp [assignments, Assignment.field]

theorem validate_settings (o : Overrides) : o.settings.validate = .ok () := by
  -- a field that is not replaced has the standard value, which can be used
  have hpending : o.settings.maxPending ≠ 0 := by
    cases h : o.maxPending with
    | none => simp [settings, h, standard]
    | some n => simpa [settings, h] using o.maxPending_ne n h
  have htimeout : o.settings.replyTimeoutMs ≠ 0 := by
    cases h : o.replyTimeoutMs with
    | none => simp [settings, h, standard]
    | some n => simpa [settings, h] using o.replyTimeoutMs_ne n h
  simp only [validate, flaw?, if_neg hpending, if_neg htimeout]

/-- The order in which fields are replaced does not matter. -/
theorem foldl_of_perm {o : Overrides} {as : List Assignment} (h : as.Perm o.assignments) :
    as.foldl assign standard = o.settings := by
  have hdistinct := (h.map Assignment.field).nodup_iff.2 o.nodup_assignments
  rw [← o.foldl_assignments]
  refine h.foldl_eq' (fun a ha a' ha' s => ?_) standard
  -- assignments of different fields commute, and of one field there is only one
  by_cases heq : a.field = a'.field
  · rw [List.inj_on_of_nodup_map hdistinct ha ha' heq]
  · cases a <;> cases a' <;> first | rfl | exact absurd rfl heq

/-- What comes of the documents that give some fields, and of those with more in or after them. -/
structure Loads (o : Overrides) : Prop where
  /-- There are such documents for every order. -/
  written : ∀ {as : List Assignment}, as.Perm o.assignments →
    ∃ text : String, Document (as.map .entry) text.toList
  anyOrder : ∀ {as : List Assignment} {text : String}, as.Perm o.assignments →
    Document (as.map .entry) text.toList → ofJson text = .ok o.settings
  unknown : ∀ {before after : List Assignment} {key text : String},
    (before ++ after).Perm o.assignments → (∀ f : Field, f.key ≠ key) →
    Document (before.map .entry ++ .other key :: after.map .entry) text.toList →
    ∃ t, ofJson text = .error (.argument t)
  repeated : ∀ {before after : List Assignment} {f : Field} {text : String},
    (before ++ after).Perm o.assignments → f ∈ (before ++ after).map Assignment.field →
    Document (before.map .entry ++ .other f.key :: after.map .entry) text.toList →
    ∃ t, ofJson text = .error (.argument t)
  trailing : ∀ {as : List Assignment} {text tail : String}, as.Perm o.assignments →
    Document (as.map .entry) text.toList → ¬ Blank tail.toList →
    ∃ t, ofJson (text ++ tail) = .error (.argument t)

end Overrides

/-- **Settings load however they are written, and with nothing more.** Every document that gives
    some fields, in any order, loads as the standard settings with these fields replaced; with a
    further key or with text behind it, it does not load. What loads can always be used. -/
theorem loads_documents :
    (∀ o : Overrides, o.Loads) ∧
      ∀ (text : String) (s : Settings), ofJson text = .ok s → s.validate = .ok () := by
  refine ⟨fun o => ?_, fun text s h => validate_of_ofJson h⟩
  have hdistinct : ∀ {as : List Assignment}, as.Perm o.assignments →
      (as.map Assignment.field).Nodup :=
    fun h => (h.map Assignment.field).nodup_iff.2 o.nodup_assignments
  refine ⟨?written, ?anyOrder, ?unknown, ?repeated, ?trailing⟩
  case written =>
    intro as _
    obtain ⟨l, hl⟩ := exists_document as
    exact ⟨String.ofList l, by rwa [String.toList_ofList]⟩
  case anyOrder =>
    intro as text h hdoc
    have hread := hdoc.read (hdistinct h) (List.append_nil _).symm
    have hnil : skipBlanks [] = [] := rfl
    rw [if_pos hnil, Overrides.foldl_of_perm h] at hread
    simp only [ofJson, hread, o.validate_settings]
  case unknown =>
    intro before after key text h hkey hdoc
    obtain ⟨p, hp⟩ := hdoc.refused (hdistinct h) (.inl hkey)
    exact error_of_read hp
  case repeated =>
    intro before after f text h hf hdoc
    obtain ⟨p, hp⟩ := hdoc.refused (hdistinct h) (.inr ⟨f, hf, rfl⟩)
    exact error_of_read hp
  case trailing =>
    intro as text tail h hdoc htail
    have htext : (text ++ tail).toList = text.toList ++ tail.toList := String.toList_append
    have hread := hdoc.read (hdistinct h) htext
    rw [if_neg (mt skipBlanks_eq_nil_iff.1 htail)] at hread
    exact error_of_read hread

/-- An escape in a key, and a value that contains a comma before its key comes again. -/
example :
    (ofJson "\x7b \"queue\\u005fprefix\" : \"a\\/b\",\n\"reply_timeout_ms\":3\x7d ").toOption =
        some ⟨10, 3, "a/b"⟩ ∧
      (ofJson "\x7b\"queue_prefix\":\",\",\"queue\\u005fprefix\":\"\"\x7d").toOption = none :=
  ⟨by decide +kernel, by decide +kernel⟩

end TileIndex.Settings
