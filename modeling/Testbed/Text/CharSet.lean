/-!
# Sets of characters

A set of characters is kept as ranges of code points in increasing order with gaps between them, so
that sets with the same characters are equal however they are built.

* `CharSet.holds` says which characters are in a set;
* `CharSet.either`, `CharSet.except` and `CharSet.both` combine sets;
* `CharSet.anyCase` adds the other case of the ASCII letters of a set;
* `CharSet.named?` gives the sets of ASCII characters that have names.
-/

namespace Testbed.Text

/-- Whether a character is a decimal digit. -/
def isDigit (c : Char) : Bool := '0' ≤ c && c ≤ '9'

/-- A set of characters. -/
structure CharSet where
  /-- The first and the last code point of each range. -/
  ranges : List (Nat × Nat)
  deriving DecidableEq, Repr

namespace CharSet

/-- Whether a range holds a code point. -/
def within (n : Nat) (r : Nat × Nat) : Bool := r.1 ≤ n && n ≤ r.2

/-- Whether a set holds a character. -/
def holds (s : CharSet) (c : Char) : Bool := s.ranges.any (within c.toNat)

/-- Adds a range to ranges in order, and joins those that it meets. -/
def insertRange (r : Nat × Nat) : List (Nat × Nat) → List (Nat × Nat)
  | [] => [r]
  | s :: rest =>
    if r.2 + 1 < s.1 then r :: s :: rest
    else if s.2 + 1 < r.1 then s :: insertRange r rest
    else insertRange (min r.1 s.1, max r.2 s.2) rest

/-- The gaps between ranges from a code point on. -/
def gapsFrom (first : Nat) : List (Nat × Nat) → List (Nat × Nat)
  | [] => if first ≤ 0x10FFFF then [(first, 0x10FFFF)] else []
  | (a, b) :: rest =>
    if first < a then (first, a - 1) :: gapsFrom (b + 1) rest else gapsFrom (b + 1) rest

/-- No character. -/
def empty : CharSet := ⟨[]⟩

/-- The characters from one to another. -/
def range (first last : Char) : CharSet := ⟨[(first.toNat, last.toNat)]⟩

/-- One character. -/
def one (c : Char) : CharSet := range c c

/-- The characters of two sets. -/
def either (a b : CharSet) : CharSet := ⟨a.ranges.foldr insertRange b.ranges⟩

/-- The characters that are not in a set. -/
def except (a : CharSet) : CharSet := ⟨gapsFrom 0 a.ranges⟩

/-- All characters. -/
def all : CharSet := empty.except

/-- The characters that are in both of two sets. -/
def both (a b : CharSet) : CharSet := (a.except.either b.except).except

/-- The characters of a set that are not in another one. -/
def without (a b : CharSet) : CharSet := a.both b.except

/-- The characters that are in one of two sets only. -/
def differing (a b : CharSet) : CharSet := (a.without b).either (b.without a)

/-- The sets together. -/
def ofList (sets : List CharSet) : CharSet := sets.foldr either empty

/-- The letters of ASCII. -/
def letters : CharSet := (range 'a' 'z').either (range 'A' 'Z')

/-- The other case of the ASCII letters in a range. -/
def otherCases (r : Nat × Nat) : List (Nat × Nat) :=
  [(max r.1 65 + 32, min r.2 90 + 32), (max r.1 97 - 32, min r.2 122 - 32)].filter
    fun s => s.1 ≤ s.2

/-- The characters of a set, and those that differ from one only in being a capital letter of
ASCII or not. -/
def anyCase (a : CharSet) : CharSet := ⟨(a.ranges.flatMap otherCases).foldr insertRange a.ranges⟩

/-- Whether a set holds one character alone. -/
def isSingle (a : CharSet) : Bool :=
  match a.ranges with
  | [(first, last)] => first == last
  | _ => false

/-- The decimal digits. -/
def digits : CharSet := range '0' '9'

/-- The letters, the digits and the underscore. -/
def words : CharSet := letters.either (digits.either (one '_'))

/-- The white space of ASCII. -/
def blanks : CharSet := (range '\t' '\r').either (one ' ')

/-- The sets that have names. -/
def named? (name : String) : Option CharSet :=
  match name with
  | "alnum" => some (letters.either digits)
  | "alpha" => some letters
  | "ascii" => some (range '\x00' '\x7f')
  | "blank" => some ((one '\t').either (one ' '))
  | "cntrl" => some ((range '\x00' '\x1f').either (one '\x7f'))
  | "digit" => some digits
  | "graph" => some (range '!' '~')
  | "lower" => some (range 'a' 'z')
  | "print" => some (range ' ' '~')
  | "punct" => some ((range '!' '~').without (letters.either digits))
  | "space" => some blanks
  | "upper" => some (range 'A' 'Z')
  | "word" => some words
  | "xdigit" => some (digits.either ((range 'a' 'f').either (range 'A' 'F')))
  | _ => none

end CharSet

end Testbed.Text
