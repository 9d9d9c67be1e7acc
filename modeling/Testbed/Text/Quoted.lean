import Testbed.Text.Picture

/-!
# Quoted text

A text between double quotes, in which whatever would not be seen, or be misread, is escaped with
a backslash: quotes, backslashes, controls, separators, and marks that would attach to the
character before them.

* `quoted` writes a text in quotes.
-/

namespace Testbed.Text

/-- A character by its code point, escaped. -/
def escapedPoint (c : Char) : List Char :=
  ['\\', 'u', '\x7b'] ++ Nat.toDigits 16 c.toNat ++ ['\x7d']

/-- A character as it stands between quotes. -/
def quotedChar (c : Char) : List Char :=
  if c = '\x00' then ['\\', '0']
  else if c = '\t' then ['\\', 't']
  else if c = '\n' then ['\\', 'n']
  else if c = '\r' then ['\\', 'r']
  else if c = '"' then ['\\', '"']
  else if c = '\\' then ['\\', '\\']
  else if inRanges graphemeExtend c.toNat || inRanges unprintable c.toNat then escapedPoint c
  else [c]

/-- A text in quotes. -/
def quoted (s : String) : String := String.ofList ('"' :: s.toList.flatMap quotedChar ++ ['"'])

end Testbed.Text
