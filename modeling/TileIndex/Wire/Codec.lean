import TileIndex.Wire.Coding

/-!
# Codecs

A codec writes values as bytes so that the bytes can be followed by others: reading takes the value
off the front and returns the rest. That law is a field of the type, so every codec built here
round-trips by construction.

## Main statements

- `Codec.read_encode`: the bytes of a value, and no others after them, read as the value.
- `Codec.roundTrips_coding`: so a codec makes a coding that round-trips.
-/

namespace TileIndex

/-- A way to write values as bytes and to read them off the front of a list of bytes. -/
structure Codec (α : Type) where
  encode : α → List UInt8
  decode : List UInt8 → Option (α × List UInt8)
  decode_encode : ∀ a rest, decode (encode a ++ rest) = some (a, rest)

namespace Codec

variable {α β : Type}

/-- The value that a whole list of bytes stands for. -/
def read (c : Codec α) (bytes : List UInt8) : Option α :=
  match c.decode bytes with
  | some (a, []) => some a
  | _ => none

/-- The bytes of a value are read as the value. -/
theorem read_encode (c : Codec α) (a : α) : c.read (c.encode a) = some a := by
  have h := c.decode_encode a []
  rw [List.append_nil] at h
  simp [read, h]

/-- The coding of a codec: every value can be written, and the text is for bytes that are no value. -/
def coding (c : Codec α) (complaint : String) : Coding α where
  write a := .ok (c.encode a)
  read bytes :=
    match c.read bytes with
    | some a => .ok a
    | none => .error complaint

theorem roundTrips_coding (c : Codec α) (complaint : String) : (c.coding complaint).RoundTrips := by
  intro a
  refine ⟨c.encode a, rfl, ?_⟩
  simp only [coding, c.read_encode]

/-! ## Numbers -/

/-- The `width` low bytes of a number, least significant first. -/
def encodeWord : Nat → Nat → List UInt8
  | 0, _ => []
  | width + 1, n => UInt8.ofNat n :: encodeWord width (n / 256)

/-- The number in `width` bytes, least significant first. -/
def decodeWord : Nat → List UInt8 → Option (Nat × List UInt8)
  | 0, bytes => some (0, bytes)
  | _ + 1, [] => none
  | width + 1, b :: bytes =>
    (decodeWord width bytes).map fun (n, rest) => (b.toNat + 256 * n, rest)

/-- A word keeps as much of a number as its bytes hold. -/
theorem decodeWord_encodeWord (width n : Nat) (rest : List UInt8) :
    decodeWord width (encodeWord width n ++ rest) = some (n % Nat.pow 256 width, rest) := by
  induction width generalizing n with
  | zero => simp [encodeWord, decodeWord, Nat.mod_one]
  | succ width ih =>
    -- the low byte and the bytes above it make up the number
    have hpow : Nat.pow 256 (width + 1) = 256 * Nat.pow 256 width :=
      Nat.mul_comm (Nat.pow 256 width) 256
    have h : n % 256 + 256 * (n / 256 % Nat.pow 256 width) = n % Nat.pow 256 (width + 1) := by
      rw [hpow, Nat.mod_mul]
    simp [-Nat.pow_eq, encodeWord, decodeWord, ih, h]

/-- Values that correspond to numbers of some bytes. -/
def word (width : Nat) (toNat : α → Nat) (ofNat : Nat → α)
    (h : ∀ a, toNat a < Nat.pow 256 width ∧ ofNat (toNat a) = a) : Codec α where
  encode a := encodeWord width (toNat a)
  decode bytes := (decodeWord width bytes).map fun (n, rest) => (ofNat n, rest)
  decode_encode a rest := by
    simp only [decodeWord_encodeWord, Nat.mod_eq_of_lt (h a).1, (h a).2, Option.map_some]

/-- Unsigned 64-bit numbers in eight bytes. -/
def uint64 : Codec UInt64 :=
  word 8 UInt64.toNat UInt64.ofNat fun a => ⟨a.toNat_lt, UInt64.ofNat_toNat⟩

/-- Unsigned 32-bit numbers in four bytes. -/
def uint32 : Codec UInt32 :=
  word 4 UInt32.toNat UInt32.ofNat fun a => ⟨a.toNat_lt, UInt32.ofNat_toNat⟩

/-- Signed 32-bit numbers in four bytes. -/
def int32 : Codec Int32 :=
  word 4 (fun a => a.toUInt32.toNat) (fun n => (UInt32.ofNat n).toInt32) fun a =>
    ⟨a.toUInt32.toNat_lt, by simp⟩

/-- Truth values in one byte. -/
def bool : Codec Bool :=
  word 1 Bool.toNat (fun n => n ≠ 0) fun a => by cases a <;> decide

/-- Characters in three bytes. -/
def char : Codec Char :=
  word 3 Char.toNat Char.ofNat fun c => by
    refine ⟨?_, Char.ofNat_toNat c⟩
    -- no code point reaches 2^21, and three bytes hold 24 bits
    have h := c.valid
    simp only [UInt32.isValidChar, Nat.isValidChar] at h
    have : c.toNat = c.val.toNat := rfl
    show c.toNat < 16777216
    omega

/-! ## Structures -/

/-- One value after another. -/
def pair (c : Codec α) (d : Codec β) : Codec (α × β) where
  encode p := c.encode p.1 ++ d.encode p.2
  decode bytes := do
    let (a, bytes) ← c.decode bytes
    let (b, bytes) ← d.decode bytes
    return ((a, b), bytes)
  decode_encode p rest := by
    simp [c.decode_encode, d.decode_encode]

/-- Values that correspond to values with a codec. -/
def via (c : Codec α) (f : β → α) (g : α → β) (h : ∀ b, g (f b) = b) : Codec β where
  encode b := c.encode (f b)
  decode bytes := (c.decode bytes).map fun (a, rest) => (g a, rest)
  decode_encode b rest := by simp [c.decode_encode, h]

/-- Nothing, or a value after a mark. -/
def option (c : Codec α) : Codec (Option α) where
  encode
    | none => [0]
    | some a => 1 :: c.encode a
  decode
    | 0 :: rest => some (none, rest)
    | 1 :: bytes => (c.decode bytes).map fun (a, rest) => (some a, rest)
    | _ => none
  decode_encode o rest := by
    cases o <;> simp [c.decode_encode]

/-! ## Lists

Every element stands after a mark, and another mark ends the list. Reading takes at least the mark
of an element off the bytes, so the number of bytes bounds the number of elements. -/

/-- The bytes of the elements, each after its mark, and the mark of the end. -/
def encodeList (c : Codec α) : List α → List UInt8
  | [] => [0]
  | a :: l => 1 :: (c.encode a ++ encodeList c l)

/-- At most `fuel` elements off the front of some bytes. -/
def decodeList (c : Codec α) : Nat → List UInt8 → Option (List α × List UInt8)
  | _, 0 :: rest => some ([], rest)
  | fuel + 1, 1 :: bytes => do
    let (a, bytes) ← c.decode bytes
    let (l, rest) ← decodeList c fuel bytes
    return (a :: l, rest)
  | _, _ => none

theorem length_le_encodeList (c : Codec α) (l : List α) :
    l.length ≤ (c.encodeList l).length := by
  induction l with
  | nil => simp [encodeList]
  | cons a l ih => simp only [encodeList, List.length_cons, List.length_append]; omega

theorem decodeList_encodeList (c : Codec α) (l : List α) (rest : List UInt8) (fuel : Nat)
    (h : l.length ≤ fuel) : c.decodeList fuel (c.encodeList l ++ rest) = some (l, rest) := by
  -- every element uses up one unit of fuel
  induction l generalizing fuel with
  | nil => cases fuel <;> simp [encodeList, decodeList]
  | cons a l ih =>
    cases fuel with
    | zero => simp at h
    | succ fuel =>
      have h' : l.length ≤ fuel := Nat.le_of_succ_le_succ h
      simp [encodeList, decodeList, c.decode_encode, ih fuel h']

/-- Lists. -/
def list (c : Codec α) : Codec (List α) where
  encode := c.encodeList
  decode bytes := c.decodeList bytes.length bytes
  decode_encode l rest := by
    -- every element has its mark, so there are at least as many bytes as elements
    refine c.decodeList_encodeList l rest _ ?_
    have := c.length_le_encodeList l
    simp only [List.length_append]
    omega

/-- Texts. -/
def string : Codec String := char.list.via String.toList String.ofList fun _ => String.ofList_toList

end Codec

end TileIndex
