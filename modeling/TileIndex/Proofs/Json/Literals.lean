import Mathlib.Data.List.TakeWhile
import TileIndex.Json.Number
import TileIndex.Json.Text
import TileIndex.Text.Decimal

/-!
# Literals of a document

What the literals of a JSON document spell, said apart from how they are read: the four digits of a
16-bit unit, the characters of a text literal, and integers. A text literal is read exactly as what
it spells, so a quote within it always has a backslash before it.

## Main statements

- `Json.unit?_eq_some_iff`: four hexadecimal digits are read as the number that they write.
- `Json.readText_eq_some_iff`: a text literal is read as what it spells, up to its closing quote.
- `Json.readNumber_decimal`: an integer is read as itself.
-/

namespace TileIndex.Json

/-! ## Blanks -/

/-- White space between the tokens of a document. -/
def Blank (l : List Char) : Prop := ∀ c ∈ l, c = ' ' ∨ c = '\n' ∨ c = '\t' ∨ c = '\r'

theorem isBlank_iff {c : Char} : isBlank c = true ↔ c = ' ' ∨ c = '\n' ∨ c = '\t' ∨ c = '\r' := by
  simp [isBlank, or_assoc]

theorem skipBlanks_append {b : List Char} (hb : Blank b) (l : List Char) :
    skipBlanks (b ++ l) = skipBlanks l :=
  List.dropWhile_append_of_pos fun c hc => isBlank_iff.2 (hb c hc)

theorem skipBlanks_cons {c : Char} (hc : isBlank c = false) (l : List Char) :
    skipBlanks (c :: l) = c :: l :=
  List.dropWhile_cons_of_neg (by simp [hc])

theorem skipBlanks_eq_nil_iff {l : List Char} : skipBlanks l = [] ↔ Blank l := by
  simp only [skipBlanks, List.dropWhile_eq_nil_iff, isBlank_iff, Blank]

/-- What begins with a character that is not dropped is not dropped. -/
theorem suffix_dropWhile {p : Char → Bool} {c : Char} (hc : p c = false) {r l : List Char}
    (h : c :: r <:+ l) : c :: r <:+ l.dropWhile p := by
  obtain ⟨v, rfl⟩ := h
  -- by induction on what stands before the character
  induction v with
  | nil => simp [hc]
  | cons d v ih =>
    rw [List.cons_append, List.dropWhile_cons]
    split
    · exact ih
    · exact ⟨d :: v, rfl⟩

/-! ## Hexadecimal units -/

/-- A hexadecimal digit of either case, with its value. -/
def IsHexDigit (c : Char) (n : Nat) : Prop :=
  n < 16 ∧ (c = Nat.digitChar n ∨ c = (Nat.digitChar n).toUpper)

/-- Four hexadecimal digits that write a number, most significant first. -/
inductive HexUnit : List Char → Nat → Prop
  | digits {a b c d : Char} {i j k n : Nat} (ha : IsHexDigit a i) (hb : IsHexDigit b j)
      (hc : IsHexDigit c k) (hd : IsHexDigit d n) :
      HexUnit [a, b, c, d] (((i * 16 + j) * 16 + k) * 16 + n)

/-- A hexadecimal digit is read as its value. -/
theorem IsHexDigit.value {c : Char} {n : Nat} (h : IsHexDigit c n) : hexDigit? c = some n := by
  -- there are sixteen digits, in two cases
  have hall : ∀ n : Fin 16, hexDigit? (Nat.digitChar n) = some n.val ∧
      hexDigit? (Nat.digitChar n).toUpper = some n.val := by decide
  obtain ⟨hn, rfl | rfl⟩ := h
  · exact (hall ⟨n, hn⟩).1
  · exact (hall ⟨n, hn⟩).2

/-- The characters of a range are those that follow its first. -/
theorem eq_of_range (f : Nat → Char) (count : Nat) {low high c : Char}
    (hf : ∀ i : Fin count, f i = Char.ofNat (low.toNat + i))
    (hcount : high.toNat < low.toNat + count)
    (hc : low ≤ c ∧ c ≤ high) : c.toNat - low.toNat < count ∧ c = f (c.toNat - low.toNat) := by
  have hlow : low.toNat ≤ c.toNat := UInt32.le_iff_toNat_le.1 hc.1
  have hhigh : c.toNat ≤ high.toNat := UInt32.le_iff_toNat_le.1 hc.2
  have hlt : c.toNat - low.toNat < count := by omega
  have := hf ⟨c.toNat - low.toNat, hlt⟩
  rw [Nat.add_sub_of_le hlow, Char.ofNat_toNat] at this
  exact ⟨hlt, this.symm⟩

/-- What is read as a hexadecimal digit is one. -/
theorem isHexDigit_of_value {c : Char} {n : Nat} (h : hexDigit? c = some n) : IsHexDigit c n := by
  unfold hexDigit? at h
  split at h
  · rename_i hc
    -- a decimal digit
    obtain ⟨hlt, heq⟩ := eq_of_range Nat.digitChar 10 (by decide) (by decide) hc
    obtain rfl := Option.some.inj h
    exact ⟨by omega, .inl heq⟩
  split at h
  · rename_i hc
    -- a small letter
    obtain ⟨hlt, heq⟩ :=
      eq_of_range (fun i => Nat.digitChar (i + 10)) 6 (by decide) (by decide) hc
    obtain rfl := Option.some.inj h
    exact ⟨by omega, .inl heq⟩
  split at h
  · rename_i hc
    -- a capital letter
    obtain ⟨hlt, heq⟩ :=
      eq_of_range (fun i => (Nat.digitChar (i + 10)).toUpper) 6 (by decide) (by decide) hc
    obtain rfl := Option.some.inj h
    exact ⟨by omega, .inr heq⟩
  · cases h

/-- Four hexadecimal digits are read as the number that they write. -/
theorem unit?_eq_some_iff {a b c d : Char} {n : Nat} :
    unit? a b c d = some n ↔ HexUnit [a, b, c, d] n := by
  constructor
  · intro h
    simp only [unit?, Option.bind_eq_bind, Option.bind_eq_some_iff, Option.pure_def,
      Option.some.injEq] at h
    obtain ⟨i, ha, j, hb, k, hc, m, hd, rfl⟩ := h
    exact .digits (isHexDigit_of_value ha) (isHexDigit_of_value hb)
      (isHexDigit_of_value hc) (isHexDigit_of_value hd)
  · rintro ⟨ha, hb, hc, hd⟩
    simp [unit?, ha.value, hb.value, hc.value, hd.value]

/-- A unit has four digits, which are read as its number. -/
theorem HexUnit.exists_unit? {digits : List Char} {n : Nat} (h : HexUnit digits n) :
    ∃ a b c d, digits = [a, b, c, d] ∧ unit? a b c d = some n := by
  obtain ⟨ha, hb, hc, hd⟩ := h
  exact ⟨_, _, _, _, rfl, unit?_eq_some_iff.2 (.digits ha hb hc hd)⟩

theorem HexUnit.lt {digits : List Char} {n : Nat} (h : HexUnit digits n) : n < 0x10000 := by
  obtain ⟨⟨ha, -⟩, ⟨hb, -⟩, ⟨hc, -⟩, ⟨hd, -⟩⟩ := h
  omega

/-- Every number of 16 bits can be written as a unit. -/
theorem exists_hexUnit {n : Nat} (hn : n < 0x10000) : ∃ digits, HexUnit digits n := by
  have hdigit : ∀ m, IsHexDigit (Nat.digitChar (m % 16)) (m % 16) :=
    fun m => ⟨Nat.mod_lt m (by decide), .inl rfl⟩
  -- the four digits in base sixteen
  have hvalue :
      ((n / 4096 % 16 * 16 + n / 256 % 16) * 16 + n / 16 % 16) * 16 + n % 16 = n := by omega
  have hunit := HexUnit.digits (hdigit (n / 4096)) (hdigit (n / 256)) (hdigit (n / 16)) (hdigit n)
  rw [hvalue] at hunit
  exact ⟨_, hunit⟩

/-! ## Texts -/

/-- The escapes with one letter, with the characters that they stand for. -/
def shortEscapes : List (Char × Char) :=
  [('"', '"'), ('\\', '\\'), ('/', '/'), ('b', '\x08'), ('f', '\x0c'), ('n', '\n'), ('r', '\r'),
    ('t', '\t')]

/-- What a text literal has between its quotes, with the characters that it spells. -/
inductive Spells : List Char → List Char → Prop
  | nil : Spells [] []
  | plain {c : Char} {l s : List Char} (hcontrol : ' ' ≤ c) (hquote : c ≠ '"') (hescape : c ≠ '\\')
      (h : Spells l s) : Spells (c :: l) (c :: s)
  | short {letter c : Char} {l s : List Char} (hletter : (letter, c) ∈ shortEscapes)
      (h : Spells l s) : Spells ('\\' :: letter :: l) (c :: s)
  | unit {digits l s : List Char} {c : Char} (hunit : HexUnit digits c.toNat) (h : Spells l s) :
      Spells ('\\' :: 'u' :: (digits ++ l)) (c :: s)
  | pair {first second l s : List Char} {c : Char} {high low : Nat} (hhigh : high < 0x400)
      (hlow : low < 0x400) (hc : c.toNat = 0x10000 + high * 0x400 + low)
      (hfirst : HexUnit first (0xD800 + high)) (hsecond : HexUnit second (0xDC00 + low))
      (h : Spells l s) :
      Spells ('\\' :: 'u' :: (first ++ '\\' :: 'u' :: (second ++ l))) (c :: s)

/-- Every text can be spelled, with hexadecimal units alone. -/
theorem exists_spells (s : List Char) : ∃ l, Spells l s := by
  induction s with
  | nil => exact ⟨[], .nil⟩
  | cons c s ih =>
    obtain ⟨l, hl⟩ := ih
    have hvalid : c.toNat < 0xD800 ∨ 0xDFFF < c.toNat ∧ c.toNat < 0x110000 := c.valid
    by_cases hc : c.toNat < 0x10000
    · -- a character of one unit
      obtain ⟨digits, hunit⟩ := exists_hexUnit hc
      exact ⟨_, .unit hunit hl⟩
    · -- a character that takes a pair of surrogates
      let high := (c.toNat - 0x10000) / 0x400
      let low := (c.toNat - 0x10000) % 0x400
      have hhigh : high < 0x400 := by omega
      have hlow : low < 0x400 := by omega
      obtain ⟨first, hfirst⟩ := exists_hexUnit (n := 0xD800 + high) (by omega)
      obtain ⟨second, hsecond⟩ := exists_hexUnit (n := 0xDC00 + low) (by omega)
      exact ⟨_, .pair hhigh hlow (by omega) hfirst hsecond hl⟩

variable {l s rest : List Char}

/-- A letter is read as the escape that the list has for it. -/
theorem shortEscape?_eq_some_iff {letter c : Char} :
    shortEscape? letter = some c ↔ (letter, c) ∈ shortEscapes := by
  constructor
  · intro h
    unfold shortEscape? at h
    -- one case for each letter
    split at h <;> simp_all [shortEscapes, eq_comm]
  · intro h
    have hall : ∀ e ∈ shortEscapes, shortEscape? e.1 = some e.2 := by decide
    exact hall _ h

theorem not_isSurrogate (c : Char) :
    isHighSurrogate c.toNat = false ∧ isLowSurrogate c.toNat = false := by
  have hvalid : c.toNat < 0xD800 ∨ 0xDFFF < c.toNat ∧ c.toNat < 0x110000 := c.valid
  simp only [isHighSurrogate, isLowSurrogate, Bool.and_eq_false_iff, decide_eq_false_iff_not]
  omega

/-- A text literal is read as what it spells, up to its closing quote. -/
theorem Spells.read (h : Spells l s) (rest : List Char) :
    readText (l ++ '"' :: rest) = some (s, rest) := by
  induction h with
  | nil => simp [readText]
  -- a plain character is neither the quote nor the start of an escape, so the last equation of the
  -- reader applies to it
  | @plain c l s hcontrol hquote hescape h ih =>
    have hc : ¬ (c = '\\' ∨ c < ' ') := by
      rintro (hc | hc)
      · exact hescape hc
      · exact absurd hcontrol (by simpa using hc)
    rw [List.cons_append, readText.eq_5 _ _ hquote (by simp [hescape]) (by simp [hescape]),
      if_neg hc, ih]
    rfl
  | @short letter c l s hletter h ih =>
    -- an escape with one letter is not the escape of a unit
    have hu : letter ≠ 'u' := by
      rintro rfl
      simp [shortEscapes] at hletter
    rw [List.cons_append, List.cons_append, readText.eq_4 _ _ (by simp [hu])]
    simp only [shortEscape?_eq_some_iff.2 hletter, ih, Option.map_some]
  | @unit digits l s c hunit h ih =>
    obtain ⟨a, b, d, e, rfl, hread⟩ := hunit.exists_unit?
    obtain ⟨hhigh, hlow⟩ := not_isSurrogate c
    simp only [List.cons_append, List.nil_append, readText, hread, hhigh, hlow, Bool.false_eq_true,
      if_false, ih, Option.map_some, Char.ofNat_toNat]
  | @pair first second l s c high low hhigh hlow hc hfirst hsecond h ih =>
    obtain ⟨a, b, d, e, rfl, hunit⟩ := hfirst.exists_unit?
    obtain ⟨a', b', d', e', rfl, hunit'⟩ := hsecond.exists_unit?
    -- the units are a high and a low surrogate, and together the character
    have hsurrogates :
        isHighSurrogate (0xD800 + high) = true ∧ isLowSurrogate (0xDC00 + low) = true := by
      simp only [isHighSurrogate, isLowSurrogate, Bool.and_eq_true, decide_eq_true_eq]
      omega
    have hcharacter : ofSurrogates (0xD800 + high) (0xDC00 + low) = c := by
      rw [ofSurrogates, Nat.add_sub_cancel_left, Nat.add_sub_cancel_left, ← hc, Char.ofNat_toNat]
    simp only [List.cons_append, List.nil_append, readText, hunit, hunit', hsurrogates, if_true, ih,
      Option.map_some, hcharacter]

/-- The number of the character with a valid number is that number. -/
theorem toNat_ofNat_of_valid {n : Nat} (h : n < 0xD800 ∨ 0xDFFF < n ∧ n < 0x110000) :
    (Char.ofNat n).toNat = n := by
  unfold Char.ofNat
  rw [dif_pos h]
  rfl

/-- Where a character was put before what was read, the rest of the text was read. -/
theorem exists_of_map_cons {c : Char}
    (h : (readText l).map (fun r => (c :: r.1, r.2)) = some (s, rest)) :
    ∃ s', s = c :: s' ∧ readText l = some (s', rest) := by
  obtain ⟨⟨s', rest'⟩, hread, hresult⟩ := Option.map_eq_some_iff.1 h
  obtain ⟨rfl, rfl⟩ := Prod.mk.inj hresult
  exact ⟨s', rfl, hread⟩

/-- What is read of a text literal is what it spells. -/
theorem exists_spells_of_readText (h : readText l = some (s, rest)) :
    ∃ body, Spells body s ∧ l = body ++ '"' :: rest := by
  -- one case for each equation of the reader; in those that are not named it fails
  fun_induction readText l generalizing s rest with
  | case2 rest' =>
    obtain ⟨rfl, rfl⟩ := Prod.mk.inj (Option.some.inj h)
    exact ⟨[], .nil, rfl⟩
  -- a pair of surrogates
  | case5 a b c d n hn hhigh e f g i rest' m hm hlow ih =>
    obtain ⟨s', rfl, hread⟩ := exists_of_map_cons h
    obtain ⟨body, hbody, rfl⟩ := ih hread
    simp only [isHighSurrogate, isLowSurrogate, Bool.and_eq_true, decide_eq_true_eq] at hhigh hlow
    have hchar : (ofSurrogates n m).toNat = 0x10000 + (n - 0xD800) * 0x400 + (m - 0xDC00) :=
      toNat_ofNat_of_valid (by omega)
    have hfirst : HexUnit [a, b, c, d] (0xD800 + (n - 0xD800)) := by
      rw [Nat.add_sub_of_le hhigh.1]
      exact unit?_eq_some_iff.1 hn
    have hsecond : HexUnit [e, f, g, i] (0xDC00 + (m - 0xDC00)) := by
      rw [Nat.add_sub_of_le hlow.1]
      exact unit?_eq_some_iff.1 hm
    exact ⟨_, .pair (by omega) (by omega) hchar hfirst hsecond hbody, rfl⟩
  -- a unit that is no surrogate
  | case9 a b c d rest' n hn hhigh hlow ih =>
    obtain ⟨s', rfl, hread⟩ := exists_of_map_cons h
    obtain ⟨body, hbody, rfl⟩ := ih hread
    have hunit := unit?_eq_some_iff.1 hn
    have hlt := hunit.lt
    simp only [isHighSurrogate, isLowSurrogate, Bool.and_eq_true, decide_eq_true_eq] at hhigh hlow
    rw [← toNat_ofNat_of_valid (n := n) (by omega)] at hunit
    exact ⟨_, .unit hunit hbody, rfl⟩
  -- an escape with one letter
  | case11 letter rest' hu c hletter ih =>
    obtain ⟨s', rfl, hread⟩ := exists_of_map_cons h
    obtain ⟨body, hbody, rfl⟩ := ih hread
    exact ⟨_, .short (shortEscape?_eq_some_iff.1 hletter) hbody, rfl⟩
  -- a character that stands for itself
  | case13 c rest' hquote hu hescape hc ih =>
    obtain ⟨s', rfl, hread⟩ := exists_of_map_cons h
    obtain ⟨body, hbody, rfl⟩ := ih hread
    rw [not_or] at hc
    exact ⟨_, .plain (by simpa using hc.2) hquote hc.1 hbody, rfl⟩
  | _ => cases h

/-- A text literal is read as what it spells, up to its closing quote. -/
theorem readText_eq_some_iff :
    readText l = some (s, rest) ↔ ∃ body, Spells body s ∧ l = body ++ '"' :: rest := by
  constructor
  · exact exists_spells_of_readText
  · rintro ⟨body, hbody, rfl⟩
    exact hbody.read rest

/-! ## Quotes within texts -/

/-- No quote stands in a unit. -/
theorem HexUnit.quote_not_mem {digits : List Char} {n : Nat} (h : HexUnit digits n) :
    '"' ∉ digits := by
  have hquote : ∀ k, ¬ IsHexDigit '"' k := by
    intro k hk
    have : hexDigit? '"' = none := rfl
    simp [hk.value] at this
  obtain ⟨ha, hb, hc, hd⟩ := h
  simp only [List.mem_cons, List.not_mem_nil, or_false, not_or]
  exact ⟨fun e => hquote _ (e ▸ ha), fun e => hquote _ (e ▸ hb), fun e => hquote _ (e ▸ hc),
    fun e => hquote _ (e ▸ hd)⟩

/-- A character that does not occur in the beginning of a text occurs behind it. -/
theorem exists_of_append_eq {d v w : List Char} {c : Char} (hc : c ∉ d) (h : d ++ l = v ++ c :: w) :
    ∃ v', v = d ++ v' ∧ l = v' ++ c :: w := by
  rcases List.append_eq_append_iff.1 h with h | ⟨e, rfl, he⟩
  · exact h
  · cases e with
    | nil => exact ⟨[], by simp, he.symm⟩
    | cons x e =>
      obtain rfl := (List.cons.inj he).1
      exact absurd (List.mem_append_right v (List.mem_cons_self ..)) hc

/-- A quote within a text literal has a backslash before it. -/
theorem Spells.backslash_of_quote (h : Spells l s) {v w : List Char} (hl : l = v ++ '"' :: w) :
    ∃ u, v = u ++ ['\\'] := by
  -- what has no quote can be taken off the front
  have hfront : ∀ (front : List Char) {l v : List Char}, '"' ∉ front → front ++ l = v ++ '"' :: w →
      (∀ {v}, l = v ++ '"' :: w → ∃ u, v = u ++ ['\\']) → ∃ u, v = u ++ ['\\'] := by
    intro front l v hquote heq ih
    obtain ⟨v', rfl, hl⟩ := exists_of_append_eq hquote heq
    obtain ⟨u, rfl⟩ := ih hl
    exact ⟨front ++ u, (List.append_assoc ..).symm⟩
  induction h generalizing v with
  | nil => simp at hl
  | @plain c l s hcontrol hquote hescape h ih =>
    exact hfront [c] (by simpa using Ne.symm hquote) hl ih
  | @short letter c l s hletter h ih =>
    by_cases hquote : letter = '"'
    · -- the quote is the letter of the escape, or stands behind the escape
      cases v with
      | nil => simp at hl
      | cons x v =>
        obtain ⟨rfl, hl⟩ := List.cons.inj hl
        cases v with
        | nil => exact ⟨[], rfl⟩
        | cons y v =>
          simp only [List.cons_append, List.cons.injEq] at hl
          obtain ⟨u, rfl⟩ := ih hl.2.2
          exact ⟨'\\' :: y :: u, rfl⟩
    · exact hfront ['\\', letter] (by simp [Ne.symm hquote]) hl ih
  | @unit digits l s c hunit h ih =>
    exact hfront ('\\' :: 'u' :: digits) (by simp [hunit.quote_not_mem]) hl ih
  | @pair first second l s c high low hhigh hlow hc hfirst hsecond h ih =>
    refine hfront ('\\' :: 'u' :: (first ++ '\\' :: 'u' :: second)) ?_ (by simpa using hl) ih
    simp [hfirst.quote_not_mem, hsecond.quote_not_mem]

/-- Where a text literal ends that is read from before a comma: before that comma too, or else at
    the quote that only blanks part from the comma. -/
theorem suffix_of_readText {b r : List Char} (hb : Blank b) (hl : ',' :: (b ++ '"' :: r) <:+ l)
    (h : readText l = some (s, rest)) : ',' :: (b ++ '"' :: r) <:+ rest ∨ rest = r := by
  obtain ⟨body, hbody, rfl⟩ := exists_spells_of_readText h
  obtain ⟨v, hv⟩ := hl
  -- nothing between the comma and the quote could make the quote part of the literal
  have hblank : ∀ c ∈ ',' :: b, c ≠ '"' ∧ c ≠ '\\' := by
    intro c hc
    rcases List.mem_cons.1 hc with rfl | hc
    · decide
    · rcases hb c hc with rfl | rfl | rfl | rfl <;> decide
  rcases List.append_eq_append_iff.1 hv with ⟨e, rfl, he⟩ | ⟨e, rfl, he⟩
  -- the literal ends behind the comma
  · obtain ⟨e', rfl, he'⟩ :=
      exists_of_append_eq (d := ',' :: b) (fun hmem => (hblank _ hmem).1 rfl) he
    -- the closing quote is the one behind the blanks, or the literal would contain that quote
    cases e' with
    | nil => exact .inr (List.cons.inj he').2.symm
    | cons x e' =>
      obtain ⟨rfl, -⟩ := List.cons.inj he'
      obtain ⟨u, hu⟩ := hbody.backslash_of_quote (v := v ++ ',' :: b) (w := e') (by simp)
      have hlast : (',' :: b).getLast? = some '\\' := by
        simpa [List.getLast?_append] using congrArg List.getLast? hu
      exact absurd rfl (hblank _ (List.mem_of_getLast? hlast)).2
  -- the literal ends before the comma
  · cases e with
    | nil => simp at he
    | cons x e => exact .inl ⟨e, (List.cons.inj he).2.symm⟩

/-! ## Integers -/

/-- What can follow an integer: neither another digit nor what makes it a floating-point number. -/
def EndsInteger (l : List Char) : Prop :=
  ∀ c ∈ l.head?, c.isDigit = false ∧ c ≠ '.' ∧ isExponentLetter c = false

/-- Digits whose value fits are all taken up. -/
theorem extendSignificand_eq {n m : Nat} (hm : m ≤ maxSignificand)
    (hl : Nat.ofDigitChars 10 l n = m) :
    extendSignificand n l = (m, 0) := by
  -- by induction on the digits that are left
  induction l generalizing n with
  | nil => exact congrArg (·, 0) hl
  | cons d l ih =>
    rw [Nat.ofDigitChars_cons] at hl
    -- the value only grows with further digits
    have hle : 10 * n + (d.toNat - '0'.toNat) ≤ m := by
      rw [← hl, Nat.ofDigitChars_eq_ofDigitChars_zero]
      exact (Nat.le_mul_of_pos_left _ (Nat.pow_pos (by decide))).trans (Nat.le_add_right ..)
    rw [extendSignificand, if_pos (hle.trans hm)]
    exact ih hl

/-- Only zero begins with a zero. -/
theorem eq_zero_of_head?_decimal {n : Nat} (h : (Text.decimal n).head? = some '0') : n = 0 := by
  induction n using Nat.strongRecOn with
  | ind n ih =>
    by_cases hn : n < 10
    · -- one digit
      rw [Text.decimal, Nat.toDigits_of_lt_base hn] at h
      exact Nat.digitChar_eq_zero.1 (Option.some.inj h)
    · -- the first digit is that of the number without its last one
      rw [Text.decimal, Nat.toDigits_of_base_le (by decide) (by omega), List.head?_append,
        List.head?_eq_some_head Nat.toDigits_ne_nil, Option.some_or,
        ← List.head?_eq_some_head] at h
      have := ih (n / 10) (by omega) h
      omega

/-- Decimals begin with a digit. -/
theorem exists_decimal_eq_cons (n : Nat) :
    ∃ c ds, Text.decimal n = c :: ds ∧ c.isDigit = true := by
  have hdigits : ∀ c ∈ Text.decimal n, c.isDigit = true :=
    fun c hc => Nat.isDigit_of_mem_toDigits (by decide) (by decide) hc
  cases hcons : Text.decimal n with
  | nil => exact absurd hcons Nat.toDigits_ne_nil
  | cons c ds => exact ⟨c, ds, rfl, hdigits c (hcons ▸ List.mem_cons_self ..)⟩

/-- No digit stands in front of what ends an integer. -/
theorem EndsInteger.digits (hl : EndsInteger l) :
    l.takeWhile Char.isDigit = [] ∧ l.dropWhile Char.isDigit = l := by
  cases l with
  | nil => exact ⟨rfl, rfl⟩
  | cons c l => simp [(hl c rfl).1]

/-- Nothing more belongs to an integer where it ends. -/
theorem EndsInteger.readTail (hl : EndsInteger l) (n : Nat) :
    readTail false n 0 l = some (.unsigned n, l) := by
  have hexponent : ¬ l.head?.any isExponentLetter := by
    cases l with
    | nil => simp
    | cons c l => simp [(hl c rfl).2.2]
  unfold Json.readTail
  split
  · -- no fraction follows
    exact absurd rfl (hl '.' rfl).2.1
  · rw [if_pos ⟨rfl, hexponent⟩]
    rfl

/-- A number that begins with a digit has no sign. -/
theorem readNumber_of_isDigit {c : Char} (hc : c.isDigit = true) (l : List Char) :
    readNumber (c :: l) = readUnsigned false (c :: l) := by
  unfold readNumber
  split
  · rename_i heq
    rw [(List.cons.inj heq).1] at hc
    cases hc
  · rfl

/-- An integer is read as itself. -/
theorem readNumber_decimal {n : Nat} (hn : n ≤ maxSignificand) (hl : EndsInteger l) :
    readNumber (Text.decimal n ++ l) = some (.unsigned n, l) := by
  have hdigits : ∀ c ∈ Text.decimal n, c.isDigit = true :=
    fun c hc => Nat.isDigit_of_mem_toDigits (by decide) (by decide) hc
  have hne : Text.decimal n ≠ [] := Nat.toDigits_ne_nil
  have hsign : readNumber (Text.decimal n ++ l) = readUnsigned false (Text.decimal n ++ l) := by
    obtain ⟨c, ds, hcons, hdigit⟩ := exists_decimal_eq_cons n
    rw [hcons, List.cons_append, readNumber_of_isDigit hdigit]
  have htake : (Text.decimal n ++ l).takeWhile Char.isDigit = Text.decimal n := by
    rw [List.takeWhile_append_of_pos hdigits, hl.digits.1, List.append_nil]
  have hdrop : (Text.decimal n ++ l).dropWhile Char.isDigit = l := by
    rw [List.dropWhile_append_of_pos hdigits, hl.digits.2]
  have hvalue : extendSignificand 0 (Text.decimal n) = (n, 0) :=
    extendSignificand_eq hn (Nat.ofDigitChars_toDigits (by decide) (by decide))
  -- the only decimal that begins with a zero is zero itself
  have hzero : ¬ ((Text.decimal n).head? = some '0' ∧ (Text.decimal n).length ≠ 1) := by
    rintro ⟨hhead, hlength⟩
    obtain rfl := eq_zero_of_head?_decimal hhead
    exact hlength rfl
  rw [hsign]
  simp only [readUnsigned, htake, hvalue, hne, hzero, if_false, hdrop, hl.readTail]

/-- A number with a fraction or an exponent is a floating-point number. -/
theorem floating_of_finish {significand : Nat} {exponent : Int} {x : Number}
    (h : finish significand exponent l = some (x, rest)) : x = .floating := by
  unfold finish at h
  split at h
  · exact (congrArg Prod.fst (Option.some.inj h)).symm
  · cases h

/-- So is one whose exponent is read. -/
theorem floating_of_readScale {significand : Nat} {exponent : Int} {x : Number}
    (h : readScale significand exponent l = some (x, rest)) : x = .floating := by
  unfold readScale readExponent at h
  split at h
  · exact floating_of_finish h
  split at h
  · -- an exponent follows
    dsimp only at h
    split at h
    · cases h
    · exact floating_of_finish h
  · exact floating_of_finish h

/-- And one whose fraction is read. -/
theorem floating_of_readFraction {significand spare : Nat} {x : Number}
    (h : readFraction significand spare l = some (x, rest)) : x = .floating := by
  unfold readFraction at h
  dsimp only at h
  split at h
  · cases h
  · exact floating_of_readScale h

/-- An integer that is not negative is read off digits alone. -/
theorem dropWhile_of_readNumber {n : Nat} (h : readNumber l = some (.unsigned n, rest)) :
    rest = l.dropWhile Char.isDigit := by
  -- what is behind the sign decides
  have hunsigned : ∀ {minus l}, readUnsigned minus l = some (.unsigned n, rest) →
      minus = false ∧ rest = l.dropWhile Char.isDigit := by
    intro minus l h
    simp only [readUnsigned] at h
    split at h
    · cases h
    split at h
    · cases h
    unfold readTail at h
    split at h
    · cases floating_of_readFraction h
    split at h
    · -- the number is an integer; with a minus it would be negative or floating-point
      obtain ⟨hinteger, hrest⟩ := Prod.mk.inj (Option.some.inj h)
      refine ⟨?_, hrest.symm⟩
      cases minus with
      | false => rfl
      | true =>
        simp only [ofInteger, not_true_eq_false, if_false] at hinteger
        split at hinteger <;> cases hinteger
    · cases floating_of_readScale h
  unfold readNumber at h
  split at h
  · -- with a minus there is no such integer
    cases (hunsigned h).1
  · exact (hunsigned h).2

end TileIndex.Json
