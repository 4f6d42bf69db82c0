import TileIndex.Address

/-!
# Reading addresses

The pieces of a text are the one way to write it as texts without separators that are put together
again with separators between them. An address is read off the pieces between slashes, so no part of
an address that was read holds a slash, and texts without slashes can be read back.

## Main statements

- `Address.pieces_eq_iff`: what the pieces of a text are.
- `Address.read_eq_ok_iff`: the two ways in which an address is read.
- `Address.proper_of_parse`: the key and the name of an address that was read are proper.
- `Address.parse_key_name`: a proper key and a proper name are read back.
-/

namespace TileIndex.Address

/-! ## Pieces -/

/-- Pieces are what the library splits a list into. -/
theorem pieces_eq_splitOn (sep : Char) (l : List Char) : pieces sep l = l.splitOn sep := by
  induction l with
  | nil => rfl
  | cons c cs ih =>
    -- a character that is no separator goes to the front of the first piece, and there is one
    simp only [pieces, List.splitOn_cons_eq_if_modifyHead, ← ih, beq_iff_eq]
    cases hp : pieces sep cs with
    | nil => exact absurd hp (pieces_ne_nil sep cs)
    | cons p ps => rfl

/-- The pieces of a text have no separators and make up the text with separators between them. -/
theorem pieces_eq_iff {sep : Char} {l : List Char} {ps : List (List Char)} :
    pieces sep l = ps ↔ ps ≠ [] ∧ (∀ p ∈ ps, sep ∉ p) ∧ l = [sep].intercalate ps := by
  constructor
  · rintro rfl
    exact ⟨pieces_ne_nil sep l, fun p hp => not_mem_of_mem_pieces hp, (intercalate_pieces sep l).symm⟩
  · rintro ⟨hne, hps, rfl⟩
    rw [pieces_eq_splitOn]
    exact List.splitOn_intercalate sep hps hne

/-! ## Addresses -/

variable {url : String} {a : Address}

theorem afterScheme?_eq_some_iff {l rest : List Char} :
    afterScheme? l = some rest ↔ l = "pf://".toList ++ rest := by
  constructor
  · intro h
    unfold afterScheme? at h
    split at h
    · obtain rfl := Option.some.inj h
      rfl
    · cases h
  · rintro rfl
    rfl

theorem target_eq_ok_iff {host : String} {port : UInt16} {key name : List Char} :
    target host port key name = .ok a ↔
      key ≠ [] ∧ name ≠ [] ∧ a = ⟨host, port, String.ofList key, String.ofList name⟩ := by
  unfold target
  split
  · -- an empty key or name makes no address
    rename_i h
    simp only [reduceCtorEq, false_iff]
    rintro ⟨hkey, hname, -⟩
    exact h.elim hkey hname
  · rename_i h
    rw [not_or] at h
    simp [h, eq_comm]

/-- An address is read off two segments, or off three with a host before them. -/
theorem read_eq_ok_iff : read url = .ok a ↔ ∃ rest, afterScheme? url.toList = some rest ∧
    ((∃ key name, pieces '/' rest = [key, name] ∧
        target defaultHost defaultPort key name = .ok a) ∨
      ∃ authority host port key name, pieces '/' rest = [authority, key, name] ∧
        readAuthority authority = .ok (host, port) ∧ target host port key name = .ok a) := by
  constructor
  · intro h
    unfold read at h
    split at h
    · cases h
    rename_i rest hrest
    refine ⟨rest, hrest, ?_⟩
    split at h
    · -- two segments
      rename_i key name hpieces
      exact .inl ⟨key, name, hpieces, h⟩
    · -- three segments, of which the first has to be a host
      rename_i authority key name hpieces
      split at h
      · rename_i host port hauthority
        exact .inr ⟨authority, host, port, key, name, hpieces, hauthority, h⟩
      · cases h
    · cases h
  · rintro ⟨rest, hrest, ⟨key, name, hpieces, h⟩ |
      ⟨authority, host, port, key, name, hpieces, hauthority, h⟩⟩
    · simp only [read, hrest, hpieces, h]
    · simp only [read, hrest, hpieces, hauthority, h]

/-- Only the wording of failures is added to what is read. -/
theorem parse_eq_ok_iff : parse url = .ok a ↔ read url = .ok a := by
  unfold parse
  cases read url with
  | ok b =>
    show Except.ok b = .ok a ↔ Except.ok b = .ok a
    rw [Except.ok.injEq, Except.ok.injEq]
  | error f =>
    constructor
    · nofun
    · nofun

/-- The key and the name of an address that was read are not empty and have no slashes. -/
theorem proper_of_parse (h : parse url = .ok a) :
    (a.key ≠ "" ∧ '/' ∉ a.key.toList) ∧ a.name ≠ "" ∧ '/' ∉ a.name.toList := by
  obtain ⟨rest, -, ways⟩ := read_eq_ok_iff.1 (parse_eq_ok_iff.1 h)
  -- either way the two are the last segments
  obtain ⟨front, host, port, key, name, hpieces, htarget⟩ :
      ∃ front host port key name, pieces '/' rest = front ++ [key, name] ∧
        target host port key name = .ok a := by
    rcases ways with ⟨key, name, hpieces, htarget⟩ |
      ⟨authority, host, port, key, name, hpieces, -, htarget⟩
    · exact ⟨[], _, _, key, name, hpieces, htarget⟩
    · exact ⟨[authority], host, port, key, name, hpieces, htarget⟩
  obtain ⟨hkey, hname, rfl⟩ := target_eq_ok_iff.1 htarget
  have hproper : ∀ p ∈ [key, name], '/' ∉ p := by
    intro p hp
    refine not_mem_of_mem_pieces (l := rest) ?_
    rw [hpieces]
    exact List.mem_append_right front hp
  simp only [List.forall_mem_cons, List.not_mem_nil, false_implies, implies_true] at hproper
  simpa [hkey, hname] using hproper

/-- A key and a name that are not empty and have no slashes make an address on the default host. -/
theorem parse_key_name {key name : String} (hkey : key ≠ "") (hkey' : '/' ∉ key.toList)
    (hname : name ≠ "") (hname' : '/' ∉ name.toList) :
    parse ("pf://" ++ key ++ "/" ++ name) = .ok ⟨defaultHost, defaultPort, key, name⟩ := by
  rw [parse_eq_ok_iff, read_eq_ok_iff]
  refine ⟨key.toList ++ '/' :: name.toList, ?scheme, .inl ⟨key.toList, name.toList, ?pieces, ?target⟩⟩
  case scheme =>
    rw [afterScheme?_eq_some_iff]
    simp [String.toList_append]
  case pieces =>
    rw [pieces_eq_iff]
    simp [hkey', hname', List.intercalate]
  case target =>
    rw [target_eq_ok_iff]
    simp [hkey, hname]

end TileIndex.Address
