import TileIndex.Text.Decimal

/-!
# Unique names

A unique name is a base with 32 hexadecimal digits after it. The first 24 of them are a nonce, which
whoever makes names settles once, and the other 8 are the number of the name. Names under one nonce
differ by their numbers. Under a nonce that is fresh for a text they also differ from every name
that is a part of the text.

## Main statement

- `uniqueName_inj`: names with one base and one nonce, but different numbers, differ.
-/

namespace TileIndex

/-! ## Names -/

/-- The digits of a nonce. -/
def nonceDigits (nonce : Nat) : List Char := Text.fixedHex 24 nonce

/-- The name with a given number. -/
def uniqueName (base : String) (nonce serial : Nat) : String :=
  base ++ "_" ++ String.ofList (nonceDigits nonce ++ Text.fixedHex 8 serial)

/-- The identifier of a call. -/
def correlationId (nonce serial : Nat) : String := uniqueName "call" nonce serial

/-! ## Nonces -/

/-- Whether one list is a run of characters within another. -/
def occursIn (run : List Char) : List Char → Bool
  | [] => run.isEmpty
  | c :: cs => run.isPrefixOf (c :: cs) || occursIn run cs

/-- A nonce whose digits do not occur in a text. At most one nonce begins at each character, so
    among one more nonces than the text has characters there is such a nonce. -/
def freshNonce (text : String) : Nat :=
  let isFresh (nonce : Nat) : Bool := !occursIn (nonceDigits nonce) text.toList
  ((List.range (text.length + 1)).find? isFresh).getD 0

/-! ## Distinctness -/

theorem uniqueName_inj {base : String} {nonce m n : Nat} (hm : m < Nat.pow 2 32)
    (hn : n < Nat.pow 2 32)
    (h : uniqueName base nonce m = uniqueName base nonce n) : m = n := by
  have hd := congrArg String.toList h
  simp only [uniqueName, String.toList_append, String.toList_ofList, List.append_assoc,
    List.append_cancel_left_eq] at hd
  -- the numbers below 2^32 are those of eight digits
  have hdigits : Nat.pow 2 32 = Nat.pow 16 8 := by decide
  exact Text.fixedHex_inj (hdigits ▸ hm) (hdigits ▸ hn) hd

end TileIndex
