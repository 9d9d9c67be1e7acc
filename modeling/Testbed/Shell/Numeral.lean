import Testbed.Bytes

/-!
# Numerals in scripts

Scripts know numbers of 64 bits with a sign. They are written in decimal digits; where other bases
are allowed, a zero in front stands for base 8 and `0x` for base 16.

* `Numeral.split` cuts a numeral off the front of a text;
* `Numeral.integer?` reads a whole text, which blanks may surround;
* `Numeral.print` writes a number.
-/

namespace Testbed.Shell

/-- What stands at the front of a text as a number. -/
structure Numeral where
  value : Int
  /-- How many digits it has. -/
  digits : Nat
  /-- What follows it. -/
  rest : Bytes

namespace Numeral

/-- Whether a byte is white space around a number. -/
def isSpace (b : UInt8) : Bool := b == 32 || (9 ≤ b && b ≤ 13)

/-- The value of a digit or a letter as a digit. -/
def digit? (b : UInt8) : Option Nat :=
  if 48 ≤ b ∧ b ≤ 57 then some (b.toNat - 48)
  else if 97 ≤ b ∧ b ≤ 102 then some (b.toNat - 87)
  else if 65 ≤ b ∧ b ≤ 70 then some (b.toNat - 55)
  else none

/-- Whether a byte is a digit of a base. -/
def isDigitOf (base : Nat) (b : UInt8) : Bool :=
  match digit? b with
  | some d => d < base
  | none => false

/-- The number that digits spell in a base. -/
def valueOf (base : Nat) (digits : Bytes) : Nat :=
  digits.foldl (fun n b => n * base + (digit? b).getD 0) 0

/-- The base of the number at the front of a text, and how many bytes say so. -/
def baseOf (anyBase : Bool) (text : Bytes) : Nat × Nat :=
  match anyBase, text with
  | true, 48 :: x :: b :: _ =>
    if (x = 120 || x = 88) && isDigitOf 16 b then (16, 2) else (8, 0)
  | true, 48 :: _ => (8, 0)
  | _, _ => (10, 0)

/-- Cuts a number off the front of a text, after white space and a sign. A text without one gives
zero, and no digits. -/
def split (anyBase : Bool) (text : Bytes) : Numeral :=
  let trimmed := text.dropWhile isSpace
  let negative := trimmed.head? = some 45
  let unsigned := if negative || trimmed.head? = some 43 then trimmed.drop 1 else trimmed
  let (base, skipped) := baseOf anyBase unsigned
  let body := unsigned.drop skipped
  let digits := body.takeWhile (isDigitOf base)
  if digits.isEmpty then ⟨0, 0, text⟩
  else
    let n := valueOf base digits
    ⟨if negative then -n else n, digits.length, body.drop digits.length⟩

/-- The least number. -/
def least : Int := -9223372036854775808

/-- The greatest number. -/
def greatest : Int := 9223372036854775807

/-- Whether a number has at most 64 bits with its sign. -/
def inRange (n : Int) : Bool := least ≤ n && n ≤ greatest

/-- The nearest number in the range. -/
def clamp (n : Int) : Int := max least (min greatest n)

/-- The number that a text spells. A text without digits spells zero if that is allowed. -/
def integer? (anyBase blankAllowed : Bool) (text : Bytes) : Option Int :=
  let n := split anyBase text
  if !(n.rest.all isSpace) || !inRange n.value || (n.digits = 0 && !blankAllowed) then none
  else some n.value

/-- The number that a text spells if it is not negative and fits into 31 bits. -/
def count? (text : Bytes) : Option Nat :=
  match integer? false false text with
  | some n => if 0 ≤ n ∧ n ≤ 2147483647 then some n.toNat else none
  | none => none

/-- The decimal digits of a number. -/
def print (n : Int) : Bytes := utf8 (toString n)

end Numeral

end Testbed.Shell
