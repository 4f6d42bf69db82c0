/-!
# Digits

Numbers as runs of decimal digits, written without leading zeros and read with or without them, and
the hexadecimal forms that identifiers and escapes use.

## Main statements

- `decimal?_decimal`: reading the decimal form of a number gives the number.
- `length_fixedHex`: a fixed-width form has its width.
- `fixedHex_inj`: forms of one width tell apart the numbers that fit into it.
-/

namespace TileIndex.Text

/-- The decimal digits of a number, most significant first. -/
def decimal (n : Nat) : List Char := Nat.toDigits 10 n

/-- The number that a non-empty run of decimal digits writes; nothing for any other text. -/
def decimal? (l : List Char) : Option Nat :=
  if l ≠ [] ∧ l.all Char.isDigit then some (Nat.ofDigitChars 10 l 0) else none

theorem decimal?_decimal (n : Nat) : decimal? (decimal n) = some n := by
  -- the digits of a number are a non-empty run of digits
  have h₁ : decimal n ≠ [] := Nat.toDigits_ne_nil
  have h₂ : (decimal n).all Char.isDigit = true :=
    List.all_eq_true.2 fun c hc => Nat.isDigit_of_mem_toDigits (by decide) (by decide) hc
  rw [decimal?, if_pos ⟨h₁, h₂⟩, decimal, Nat.ofDigitChars_toDigits (by decide) (by decide)]

/-- The decimal form of an integer, with a minus sign before the digits of a negative one. -/
def integer (i : Int) : List Char :=
  if i < 0 then '-' :: decimal i.natAbs else decimal i.natAbs

/-- The decimal text of a 32-bit integer. -/
def ofInt32 (i : Int32) : String := String.ofList (integer i.toInt)

/-- The hexadecimal digits of a number, lower case, without leading zeros. -/
def hex (n : Nat) : List Char := Nat.toDigits 16 n

/-- The last `width` hexadecimal digits of a number, lower case. -/
def fixedHex : Nat → Nat → List Char
  | 0, _ => []
  | width + 1, n => fixedHex width (n / 16) ++ [Nat.digitChar (n % 16)]

theorem length_fixedHex (width n : Nat) : (fixedHex width n).length = width := by
  induction width generalizing n with
  | zero => rfl
  | succ width ih => simp [fixedHex, ih]

theorem digitChar_inj {m n : Nat} (hm : m < 16) (hn : n < 16)
    (h : Nat.digitChar m = Nat.digitChar n) : m = n := by
  -- there are few enough digits to try all pairs
  have inj : ∀ a b : Fin 16, Nat.digitChar a = Nat.digitChar b → a = b := by decide
  exact congrArg Fin.val (inj ⟨m, hm⟩ ⟨n, hn⟩ h)

theorem fixedHex_inj {width m n : Nat} (hm : m < Nat.pow 16 width) (hn : n < Nat.pow 16 width)
    (h : fixedHex width m = fixedHex width n) : m = n := by
  induction width generalizing m n with
  | zero => exact (Nat.lt_one_iff.1 hm).trans (Nat.lt_one_iff.1 hn).symm
  | succ width ih =>
    -- the last digits agree, and so do the digits before them
    have hl := List.append_inj' h rfl
    have hlow : m % 16 = n % 16 :=
      digitChar_inj (Nat.mod_lt _ (by decide)) (Nat.mod_lt _ (by decide)) (List.singleton_inj.1 hl.2)
    have hpow : Nat.pow 16 (width + 1) = 16 * Nat.pow 16 width :=
      Nat.mul_comm (Nat.pow 16 width) 16
    rw [hpow] at hm hn
    have hhigh : m / 16 = n / 16 :=
      ih (Nat.div_lt_of_lt_mul hm) (Nat.div_lt_of_lt_mul hn) hl.1
    omega

end TileIndex.Text
