import TileIndex.Text.Decimal
import TileIndex.Text.Visible

/-!
# Quoted text

A text in double quotes in which every character can be seen: quotes, backslashes and the usual
controls have short escapes, and a character that is invisible or that extends the one before it is
written by its code point.
-/

namespace TileIndex.Text.Quoted

/-- The escape of a character that has no short one. -/
def codePoint (c : Char) : List Char := ['\\', 'u', '\x7b'] ++ hex c.toNat ++ ['\x7d']

/-- How one character is written between the quotes. -/
def escape (c : Char) : List Char :=
  if c = '\x00' then ['\\', '0']
  else if c = '\t' then ['\\', 't']
  else if c = '\r' then ['\\', 'r']
  else if c = '\n' then ['\\', 'n']
  else if c = '"' then ['\\', '"']
  else if c = '\\' then ['\\', '\\']
  else if isExtending c || isInvisible c then codePoint c
  else [c]

/-- The quoted form of a text. -/
def encode (s : String) : String := String.ofList ('"' :: s.toList.flatMap escape ++ ['"'])

end TileIndex.Text.Quoted
