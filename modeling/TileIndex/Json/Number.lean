/-!
# JSON numbers

A JSON number is an unsigned 64-bit integer, a negative one of the signed 64-bit range, or, with a
fraction, with an exponent, or outside those ranges, a floating-point number. A number beyond the
greatest double is refused. That test reads as many leading digits as 64 bits hold, rounds them to
a double and scales the double by a power of ten.
-/

namespace TileIndex.Json

/-- The numbers of a document, as far as they are told apart. -/
inductive Number
  | unsigned (n : Nat)
  /-- The number `-n`. -/
  | negative (n : Nat)
  | floating
  deriving DecidableEq, Repr

/-- The greatest significand. -/
def maxSignificand : Nat := Nat.pow 2 64 - 1

/-- Continue a significand with digits while it fits; how many digits did not. -/
def extendSignificand : Nat → List Char → Nat × Nat
  | n, [] => (n, 0)
  | n, d :: ds =>
    let m := 10 * n + (d.toNat - '0'.toNat)
    if m ≤ maxSignificand then extendSignificand m ds else (n, ds.length + 1)

/-- The double nearest to a number, of two equally near the one with the even significand. -/
def nearestDouble (n : Nat) : Nat :=
  let shift := n.log2 - 52
  let unit := Nat.pow 2 shift
  let low := n % unit
  let high := n / unit
  -- a half goes to the even neighbour
  let up := 2 * low > unit || 2 * low = unit && high % 2 = 1
  (if up then high + 1 else high) * unit

/-- Whether a significand scaled by a power of ten stays below the limit of doubles. -/
def isFinite (significand : Nat) (exponent : Int) : Bool :=
  significand = 0 || exponent < 0 ||
    exponent ≤ 308 &&
      nearestDouble significand * nearestDouble (Nat.pow 10 exponent.toNat) <
        Nat.pow 2 1024 - Nat.pow 2 970

/-- A floating-point number with what follows it, unless it is beyond the greatest double. -/
def finish (significand : Nat) (exponent : Int) (rest : List Char) : Option (Number × List Char) :=
  if isFinite significand exponent then some (.floating, rest) else none

/-- The sign of an exponent and what follows it. -/
def exponentSign : List Char → Bool × List Char
  | '+' :: rest => (true, rest)
  | '-' :: rest => (false, rest)
  | rest => (true, rest)

/-- The rest of a number after the letter of its exponent. -/
def readExponent (significand : Nat) (exponent : Int) (l : List Char) :
    Option (Number × List Char) :=
  let (positive, l) := exponentSign l
  let digits := l.takeWhile Char.isDigit
  let rest := l.dropWhile Char.isDigit
  let n : Int := Nat.ofDigitChars 10 digits 0
  if digits = [] then none
  else finish significand (if positive then exponent + n else exponent - n) rest

/-- Whether a letter opens an exponent. -/
def isExponentLetter (c : Char) : Bool := c = 'e' || c = 'E'

/-- The rest of a floating-point number after its digits. -/
def readScale (significand : Nat) (exponent : Int) : List Char → Option (Number × List Char)
  | [] => finish significand exponent []
  | c :: rest =>
    if isExponentLetter c then readExponent significand exponent rest
    else finish significand exponent (c :: rest)

/-- The rest of a number after its point. -/
def readFraction (significand : Nat) (spare : Nat) (l : List Char) : Option (Number × List Char) :=
  let digits := l.takeWhile Char.isDigit
  let (extended, left) := extendSignificand significand digits
  if digits = [] then none
  else readScale extended ((spare : Int) - (digits.length - left : Nat)) (l.dropWhile Char.isDigit)

/-- An integer of a given sign, as the number it is. -/
def ofInteger (minus : Bool) (n : Nat) : Number :=
  if ¬ minus then .unsigned n
  else if n = 0 ∨ n > Nat.pow 2 63 then .floating
  else .negative n

/-- The rest of a number after its integer part: the significand of that part, and how many of its
    digits the significand does not hold. -/
def readTail (minus : Bool) (significand spare : Nat) : List Char → Option (Number × List Char)
  | '.' :: rest => readFraction significand spare rest
  | rest =>
    if spare = 0 ∧ ¬ rest.head?.any isExponentLetter then
      some (ofInteger minus significand, rest)
    else readScale significand spare rest

/-- A number without its sign, and what follows it. -/
def readUnsigned (minus : Bool) (l : List Char) : Option (Number × List Char) :=
  let digits := l.takeWhile Char.isDigit
  let (significand, spare) := extendSignificand 0 digits
  if digits = [] then none
  else if digits.head? = some '0' ∧ digits.length ≠ 1 then none
  else readTail minus significand spare (l.dropWhile Char.isDigit)

/-- A number, and what follows it. -/
def readNumber : List Char → Option (Number × List Char)
  | '-' :: rest => readUnsigned true rest
  | l => readUnsigned false l

end TileIndex.Json
