import Mathlib.Data.List.Induction
import TileIndex.Proofs.Address.Reading

/-!
# The grammar of addresses

An address is written in three ways, with or without a host and with or without a port, and reading
accepts these texts and no others. Whether the first segment names a host is told by the number of
segments alone, so a colon in a key or in a name is never taken for the one before a port. Every
address that can be written at all is read back from its full form.

## Main statements

- `Text.decimal?_eq_some_iff`: a run of digits is read as the number that it writes.
- `Address.Writes.parse`, `Address.writes_of_parse`: reading is sound and complete for the grammar.
- `Address.parse_grammar`: what a text is read as, and how any other text is refused.
- `Address.display_canonical`: the full form of an address is its canonical form.
-/

namespace TileIndex

/-! ## Numerals -/

namespace Text

/-- Digits that write a number, most significant first, with or without zeros in front. -/
inductive Numeral : List Char → Nat → Prop
  | digit {d : Nat} (h : d < 10) : Numeral [Nat.digitChar d] d
  | append {l : List Char} {n d : Nat} (hl : Numeral l n) (h : d < 10) :
      Numeral (l ++ [Nat.digitChar d]) (10 * n + d)

variable {l : List Char} {n : Nat}

theorem exists_digitChar_of_isDigit {c : Char} (h : c.isDigit = true) :
    ∃ d < 10, c = Nat.digitChar d := by
  simp only [Char.isDigit, Bool.and_eq_true, decide_eq_true_eq, ge_iff_le,
    UInt32.le_iff_toNat_le] at h
  obtain ⟨hlow, hhigh⟩ := h
  change 48 ≤ c.toNat at hlow
  change c.toNat ≤ 57 at hhigh
  -- the digits stand in a row from the code of zero on
  refine ⟨c.toNat - 48, by omega, Char.toNat_inj.1 ?_⟩
  rw [Nat.toNat_digitChar_of_lt_ten (by omega)]
  omega

theorem ofDigitChars_concat (l : List Char) {d : Nat} (h : d < 10) :
    Nat.ofDigitChars 10 (l ++ [Nat.digitChar d]) 0 = 10 * Nat.ofDigitChars 10 l 0 + d := by
  rw [Nat.ofDigitChars_append, Nat.ofDigitChars_cons_digitChar_of_lt_ten h, Nat.ofDigitChars_nil]

theorem Numeral.ne_nil (h : Numeral l n) : l ≠ [] := by
  cases h <;> simp

theorem Numeral.isDigit (h : Numeral l n) : ∀ c ∈ l, c.isDigit = true := by
  have hdigit : ∀ {d}, d < 10 → (Nat.digitChar d).isDigit = true := by
    intro d hd
    rw [Nat.isDigit_digitChar, decide_eq_true hd]
  induction h with
  | digit hd =>
    intro c hc
    rw [List.mem_singleton.1 hc]
    exact hdigit hd
  | append hl hd ih =>
    intro c hc
    rcases List.mem_append.1 hc with hc | hc
    · exact ih c hc
    · rw [List.mem_singleton.1 hc]
      exact hdigit hd

theorem Numeral.ofDigitChars (h : Numeral l n) : Nat.ofDigitChars 10 l 0 = n := by
  induction h with
  | digit hd => exact (ofDigitChars_concat [] hd).trans (Nat.zero_add _)
  | append hl hd ih => rw [ofDigitChars_concat _ hd, ih]

/-- Every run of digits is a numeral, of the number that it is read as. -/
theorem numeral_of_isDigit (hne : l ≠ []) (hl : ∀ c ∈ l, c.isDigit = true) :
    Numeral l (Nat.ofDigitChars 10 l 0) := by
  -- the value of a numeral grows with its last digit
  induction l using List.reverseRecOn with
  | nil => exact absurd rfl hne
  | append_singleton l c ih =>
    obtain ⟨d, hd, rfl⟩ := exists_digitChar_of_isDigit (hl c (List.mem_concat_self ..))
    rw [ofDigitChars_concat l hd]
    cases l with
    | nil => simpa using Numeral.digit hd
    | cons b l => exact .append (ih (by nofun) fun c hc => hl c (List.mem_append_left _ hc)) hd

/-- Runs of digits, and no other texts, are read as the numbers that they write. -/
theorem decimal?_eq_some_iff : decimal? l = some n ↔ Numeral l n := by
  unfold decimal?
  constructor
  · intro h
    split at h
    · rename_i hdigits
      obtain rfl := Option.some.inj h
      exact numeral_of_isDigit hdigits.1 (List.all_eq_true.1 hdigits.2)
    · cases h
  · intro h
    rw [if_pos ⟨h.ne_nil, List.all_eq_true.2 h.isDigit⟩, h.ofDigitChars]

end Text

/-! ## Texts that write addresses -/

namespace Address

/-- What can stand between two slashes: a text that is not empty and has no slash. -/
def IsSegment (s : String) : Prop := s ≠ "" ∧ '/' ∉ s.toList

/-- What can stand for a host: a segment without a colon. -/
def IsHost (s : String) : Prop := IsSegment s ∧ ':' ∉ s.toList

/-- The texts of a port: a numeral for a number below 2^16, perhaps after one plus sign. -/
inductive WritesPort : String → UInt16 → Prop
  | bare {l : List Char} {port : UInt16} (h : Text.Numeral l port.toNat) :
      WritesPort (String.ofList l) port
  | plus {l : List Char} {port : UInt16} (h : Text.Numeral l port.toNat) :
      WritesPort ("+" ++ String.ofList l) port

/-- The texts of an address. -/
inductive Writes : String → Address → Prop
  | target {key name : String} (hkey : IsSegment key) (hname : IsSegment name) :
      Writes ("pf://" ++ key ++ "/" ++ name) ⟨"localhost", 5672, key, name⟩
  | host {host key name : String} (hhost : IsHost host) (hkey : IsSegment key)
      (hname : IsSegment name) :
      Writes ("pf://" ++ host ++ "/" ++ key ++ "/" ++ name) ⟨host, 5672, key, name⟩
  | port {host digits key name : String} {port : UInt16} (hhost : IsHost host)
      (hport : WritesPort digits port) (hkey : IsSegment key) (hname : IsSegment name) :
      Writes ("pf://" ++ host ++ ":" ++ digits ++ "/" ++ key ++ "/" ++ name) ⟨host, port, key, name⟩

variable {url : String} {a : Address} {host digits key name : String} {port : UInt16}

/-! ## Ports -/

/-- A port is read off the digits after the plus sign, if there is one. -/
theorem port?_eq_some_iff {l : List Char} : Address.port? l = some port ↔
    ∃ ds, (l = '+' :: ds ∨ l = ds ∧ l.head? ≠ some '+') ∧ Text.Numeral ds port.toNat := by
  -- a number is a port if it fits 16 bits
  have hrange : ∀ {n : Nat}, (if n < 65536 then some (UInt16.ofNat n) else none) = some port →
      n = port.toNat := by
    intro n h
    split at h
    · rename_i hn
      obtain rfl := Option.some.inj h
      exact (UInt16.toNat_ofNat_of_lt hn).symm
    · cases h
  constructor
  · intro h
    unfold Address.port? at h
    dsimp only at h
    split at h
    · rename_i n hn
      obtain rfl := hrange h
      split at hn
      · exact ⟨_, .inl rfl, Text.decimal?_eq_some_iff.1 hn⟩
      · rename_i hplus
        refine ⟨l, .inr ⟨rfl, fun hhead => ?_⟩, Text.decimal?_eq_some_iff.1 hn⟩
        obtain ⟨ds, rfl⟩ := List.head?_eq_some_iff.1 hhead
        exact hplus ds rfl
    · cases h
  · rintro ⟨ds, hl, hds⟩
    have hvalue := Text.decimal?_eq_some_iff.2 hds
    have hlt : port.toNat < 65536 := port.toNat_lt
    rcases hl with rfl | ⟨rfl, hplus⟩
    · simp only [Address.port?, hvalue, if_pos hlt, UInt16.ofNat_toNat]
    · unfold Address.port?
      split
      · exact absurd rfl hplus
      · simp only [hvalue, if_pos hlt, UInt16.ofNat_toNat]

/-- What writes a port is read as the port. -/
theorem WritesPort.port? (h : WritesPort digits port) : port? digits.toList = some port := by
  rw [port?_eq_some_iff]
  cases h with
  | @bare l _ h =>
    refine ⟨l, .inr ⟨String.toList_ofList, fun hplus => ?_⟩, h⟩
    -- a numeral does not begin with a plus sign
    rw [String.toList_ofList] at hplus
    cases h.isDigit '+' (List.mem_of_head? hplus)
  | @plus l _ h => exact ⟨l, .inl (by simp [String.toList_append]), h⟩

/-- What is read as a port writes it. -/
theorem writesPort_of_port? {l : List Char} (h : Address.port? l = some port) :
    WritesPort (String.ofList l) port := by
  obtain ⟨ds, rfl | ⟨rfl, -⟩, hds⟩ := port?_eq_some_iff.1 h
  · have : String.ofList ('+' :: ds) = "+" ++ String.ofList ds := String.toList_inj.1 (by simp)
    rw [this]
    exact .plus hds
  · exact .bare hds

/-! ## Reading what the grammar writes -/

theorem nonEmpty_eq_ok_iff {l : List Char} {p : UInt16} :
    readAuthority.nonEmpty l p = .ok (host, port) ↔ host ≠ "" ∧ l = host.toList ∧ port = p := by
  unfold readAuthority.nonEmpty
  split
  · rename_i hl
    simp only [reduceCtorEq, false_iff]
    rintro ⟨hne, rfl, -⟩
    exact hne (String.toList_eq_nil_iff.1 hl)
  · rename_i hl
    simp only [Except.ok.injEq, Prod.mk.injEq]
    constructor
    · rintro ⟨rfl, rfl⟩
      simpa using hl
    · rintro ⟨-, rfl, rfl⟩
      simp

/-- A first segment of three is read as a host, or as a host and a port. -/
theorem readAuthority_eq_ok_iff {l : List Char} : readAuthority l = .ok (host, port) ↔
    host ≠ "" ∧ ((pieces ':' l = [host.toList] ∧ port = defaultPort) ∨
      ∃ digits, pieces ':' l = [host.toList, digits] ∧ Address.port? digits = some port) := by
  unfold readAuthority
  split
  · -- one piece: a host without a port
    rename_i first hl
    simp [nonEmpty_eq_ok_iff, hl]
  · -- two pieces: a host and its port
    rename_i first digits hl
    simp only [hl]
    cases hp : Address.port? digits with
    | some p =>
      rw [nonEmpty_eq_ok_iff]
      constructor
      · rintro ⟨hne, rfl, rfl⟩
        exact ⟨hne, .inr ⟨digits, rfl, hp⟩⟩
      · rintro ⟨hne, ⟨htwo, -⟩ | ⟨digits', htwo, hp'⟩⟩
        · simp at htwo
        · obtain ⟨rfl, hdigits⟩ := List.cons.inj htwo
          obtain rfl := List.singleton_inj.1 hdigits
          exact ⟨hne, rfl, Option.some.inj (hp'.symm.trans hp)⟩
    | none => simp [hp]
  · -- more than one colon, which no authority has
    rename_i hone htwo
    simp only [reduceCtorEq, false_iff]
    rintro ⟨-, ⟨hl, -⟩ | ⟨digits, hl, -⟩⟩
    · exact hone _ hl
    · exact htwo _ _ hl

theorem WritesPort.not_mem (h : WritesPort digits port) {c : Char} (hdigit : c.isDigit = false)
    (hplus : c ≠ '+') : c ∉ digits.toList := by
  -- a numeral has digits only
  have hnumeral : ∀ {l : List Char} {n : Nat}, Text.Numeral l n → c ∉ l := by
    intro l n hl hc
    simp [hl.isDigit c hc] at hdigit
  cases h with
  | bare h => simpa using hnumeral h
  | plus h => simpa [String.toList_append, hplus] using hnumeral h

/-- Three segments are read as an address if the first of them is read as a host and a port. -/
theorem parse_of_readAuthority {authority : String} (hslash : '/' ∉ authority.toList)
    (hread : readAuthority authority.toList = .ok (host, port)) (hkey : IsSegment key)
    (hname : IsSegment name) :
    parse ("pf://" ++ authority ++ "/" ++ key ++ "/" ++ name) = .ok ⟨host, port, key, name⟩ := by
  rw [parse_eq_ok_iff, read_eq_ok_iff]
  refine ⟨authority.toList ++ '/' :: (key.toList ++ '/' :: name.toList), ?scheme, .inr
    ⟨authority.toList, host, port, key.toList, name.toList, ?pieces, hread, ?target⟩⟩
  case scheme =>
    rw [afterScheme?_eq_some_iff]
    simp [String.toList_append]
  case pieces =>
    rw [pieces_eq_iff]
    simp [hslash, hkey.2, hname.2, List.intercalate]
  case target =>
    rw [target_eq_ok_iff]
    simp [hkey.1, hname.1]

/-- What the grammar writes is read. -/
theorem Writes.parse (h : Writes url a) : parse url = .ok a := by
  cases h with
  | target hkey hname => exact parse_key_name hkey.1 hkey.2 hname.1 hname.2
  | @host host key name hhost hkey hname =>
    refine parse_of_readAuthority hhost.1.2 ?_ hkey hname
    rw [readAuthority_eq_ok_iff, pieces_eq_iff]
    exact ⟨hhost.1.1, .inl ⟨by simp [hhost.2, List.intercalate], rfl⟩⟩
  | @port host digits key name port hhost hport hkey hname =>
    have hauthority : readAuthority (host ++ ":" ++ digits).toList = .ok (host, port) := by
      rw [readAuthority_eq_ok_iff]
      refine ⟨hhost.1.1, .inr ⟨digits.toList, ?_, hport.port?⟩⟩
      rw [pieces_eq_iff]
      simp [hhost.2, hport.not_mem (c := ':') rfl (by decide), List.intercalate,
        String.toList_append]
    -- no slash gets into the first segment, so there are three segments and not more
    have hslash : '/' ∉ (host ++ ":" ++ digits).toList := by
      simp [String.toList_append, hhost.1.2, hport.not_mem (c := '/') rfl (by decide)]
    simpa [String.append_assoc] using parse_of_readAuthority hslash hauthority hkey hname

theorem isSegment_ofList {l : List Char} (hne : l ≠ []) (hslash : '/' ∉ l) :
    IsSegment (String.ofList l) := by
  simpa [IsSegment] using And.intro hne hslash

/-- What is read is written by the grammar. -/
theorem writes_of_parse (h : Address.parse url = .ok a) : Writes url a := by
  obtain ⟨rest, hscheme, ways⟩ := read_eq_ok_iff.1 (parse_eq_ok_iff.1 h)
  rw [afterScheme?_eq_some_iff] at hscheme
  rcases ways with ⟨key, name, hpieces, htarget⟩ |
    ⟨authority, host, port, key, name, hpieces, hread, htarget⟩
  · -- two segments are a key and a name
    obtain ⟨hkey, hname, rfl⟩ := target_eq_ok_iff.1 htarget
    obtain ⟨-, hslash, rfl⟩ := pieces_eq_iff.1 hpieces
    simp only [List.forall_mem_cons, List.not_mem_nil, false_implies, implies_true,
      and_true] at hslash
    have hurl : url = "pf://" ++ String.ofList key ++ "/" ++ String.ofList name :=
      String.toList_inj.1 (by simp [hscheme, List.intercalate, String.toList_append])
    rw [hurl]
    exact .target (isSegment_ofList hkey hslash.1) (isSegment_ofList hname hslash.2)
  · obtain ⟨hkey, hname, rfl⟩ := target_eq_ok_iff.1 htarget
    obtain ⟨-, hslash, rfl⟩ := pieces_eq_iff.1 hpieces
    simp only [List.forall_mem_cons, List.not_mem_nil, false_implies, implies_true,
      and_true] at hslash
    have hkey := isSegment_ofList hkey hslash.2.1
    have hname := isSegment_ofList hname hslash.2.2
    -- the first of three tells by its colon whether there is a port
    obtain ⟨hne, ⟨hcolon, rfl⟩ | ⟨digits, hcolon, hport⟩⟩ := readAuthority_eq_ok_iff.1 hread
    · obtain ⟨-, hhost, rfl⟩ := pieces_eq_iff.1 hcolon
      have hhost : IsHost host :=
        ⟨⟨hne, by simpa [List.intercalate] using hslash.1⟩, by simpa using hhost⟩
      have hurl : url = "pf://" ++ host ++ "/" ++ String.ofList key ++ "/" ++ String.ofList name :=
        String.toList_inj.1 (by simp [hscheme, List.intercalate, String.toList_append])
      rw [hurl]
      exact .host hhost hkey hname
    · obtain ⟨-, hhost, rfl⟩ := pieces_eq_iff.1 hcolon
      simp only [List.forall_mem_cons] at hhost
      have hslash : '/' ∉ host.toList := by
        intro hmem
        exact hslash.1 (by simp [List.intercalate, hmem])
      have hurl : url = "pf://" ++ host ++ ":" ++ String.ofList digits ++ "/" ++
          String.ofList key ++ "/" ++ String.ofList name :=
        String.toList_inj.1 (by simp [hscheme, List.intercalate, String.toList_append])
      rw [hurl]
      exact .port ⟨⟨hne, hslash⟩, hhost.1⟩ (writesPort_of_port? hport) hkey hname

/-! ## Accepting and refusing -/

/-- Every other text is refused, and the refusal tells the text. -/
theorem exists_error_of_parse (h : ∀ a, parse url ≠ .ok a) :
    ∃ opening, parse url = .error (.argument (opening ++ url)) := by
  unfold parse at h ⊢
  cases hread : read url with
  | ok a => exact absurd (by rw [hread]; rfl) (h a)
  -- every failure of reading quotes the text at its end
  | error f => cases f <;> exact ⟨_, rfl⟩

/-- **Reading accepts exactly the grammar of addresses.** A text that no address is written by is
    refused with a failure that repeats it. -/
theorem parse_grammar (url : String) :
    (∀ a, parse url = .ok a ↔ Writes url a) ∧
      ((∃ a, Writes url a) ∨ ∃ opening, parse url = .error (.argument (opening ++ url))) := by
  have haccepts : ∀ a, parse url = .ok a ↔ Writes url a := fun a => ⟨writes_of_parse, Writes.parse⟩
  refine ⟨haccepts, ?_⟩
  by_cases h : ∃ a, Writes url a
  · exact .inl h
  · refine .inr (exists_error_of_parse fun a ha => h ⟨a, (haccepts a).1 ha⟩)

/-- Colons in keys and names, a port with a sign and zeros, and ports that are none. -/
example :
    parse "pf://orbit1:80/mars:1" = .ok ⟨"localhost", 5672, "orbit1:80", "mars:1"⟩ ∧
      parse "pf://h:+005673/k:9/n" = .ok ⟨"h", 5673, "k:9", "n"⟩ ∧
      parse "pf://h:65536/k/n" =
        .error (.argument "could not parse port from URL string: pf://h:65536/k/n") ∧
      parse "pf://h:-0/k/n" =
        .error (.argument "could not parse port from URL string: pf://h:-0/k/n") :=
  ⟨by decide, by decide, by decide, by decide⟩

/-! ## Writing -/

/-- An address that can be written: its host is one, and its key and its name are segments. -/
structure Proper (a : Address) : Prop where
  host : IsHost a.host
  key : IsSegment a.key
  name : IsSegment a.name

theorem isHost_localhost : IsHost "localhost" := ⟨⟨by decide, by decide⟩, by decide⟩

/-- Only proper addresses have texts. -/
theorem Writes.proper (h : Writes url a) : a.Proper := by
  cases h with
  | target hkey hname => exact ⟨isHost_localhost, hkey, hname⟩
  | host hhost hkey hname => exact ⟨hhost, hkey, hname⟩
  | port hhost hport hkey hname => exact ⟨hhost, hkey, hname⟩

/-- The full form of an address is one of its texts. -/
theorem Proper.writes_display (h : a.Proper) : Writes a.display a :=
  .port h.host (.bare (Text.decimal?_eq_some_iff.1 (Text.decimal?_decimal _))) h.key h.name

/-- **The full form of an address is its canonical form.** It is read back exactly for the addresses
    that can be written; every address that was read is one of them, and two that were read are
    equal if their full forms are. -/
theorem display_canonical :
    (∀ a : Address, parse a.display = .ok a ↔ a.Proper) ∧
      (∀ url a, parse url = .ok a → a.Proper ∧ parse a.display = parse url) ∧
      ∀ url url' a b, parse url = .ok a → parse url' = .ok b → (a = b ↔ a.display = b.display) := by
  have hproper : ∀ {url a}, parse url = .ok a → a.Proper := fun h => (writes_of_parse h).proper
  have hdisplay : ∀ {a : Address}, a.Proper → parse a.display = .ok a :=
    fun h => h.writes_display.parse
  refine ⟨fun a => ⟨hproper, hdisplay⟩, ?read, ?canonical⟩
  case read =>
    intro url a ha
    exact ⟨hproper ha, (hdisplay (hproper ha)).trans ha.symm⟩
  case canonical =>
    intro url url' a b ha hb
    constructor
    · rintro rfl
      rfl
    · intro h
      -- both are what their common full form is read as
      have hboth : Except.ok a = .ok b :=
        (hdisplay (hproper ha)).symm.trans (h ▸ hdisplay (hproper hb))
      exact Except.ok.inj hboth

end Address

end TileIndex
