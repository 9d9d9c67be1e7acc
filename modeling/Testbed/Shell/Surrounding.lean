import Testbed.Shell.Token

/-!
# What surrounds a part of a word

A word may hold quotes, braces and expressions, which decide where its parts end and what quotes and
backslashes mean in them.

* `Surrounding` says what a part of a word stands in;
* `markParameter?` and `alternative?` say what marks stand for after a dollar sign;
* `withHome` and `quotedPieces` finish the pieces of a word.
-/

namespace Testbed.Shell

/-- What a part of a word stands in. -/
inductive Surrounding
  /-- Nothing: the word ends at a blank. -/
  | word
  /-- The braces of a parameter, outside quotes. -/
  | braces
  /-- Double quotes. -/
  | quotes
  /-- The braces of a parameter inside quotes; `inner` says whether further quotes are open. -/
  | quotedBraces (inner : Bool)
  /-- An expression, with so many open parentheses. -/
  | expression (depth : Nat)
  /-- A text from the script. -/
  | document
  deriving DecidableEq, Repr

namespace Surrounding

/-- Whether bytes that stand there are quoted. -/
def isQuoted : Surrounding → Bool
  | .word => false
  | .braces => false
  | _ => true

/-- Whether a backslash before a byte is left out there. -/
def escapes (s : Surrounding) (b : UInt8) : Bool :=
  !s.isQuoted || b == 92 || b == 96 || b == 36 || (b == 34 && s != .document) ||
    (b == 125 && (s == .quotedBraces true || s == .quotedBraces false))

/-- What is wrong with a text that ends there, if something is. -/
def fault? : Surrounding → Option String
  | .word => none
  | .braces => some "Missing '\x7d'"
  | .quotes => some "Unterminated quoted string"
  | .quotedBraces _ => some "Unterminated quoted string"
  | .expression _ => some "Missing '))'"
  | .document => none

end Surrounding

/-- Whether a byte has no meaning of its own anywhere in a word. -/
def isOrdinary (b : UInt8) : Bool :=
  !(endsWord b || b == 92 || b == 39 || b == 34 || b == 36 || b == 96 || b == 125)

/-- The parameters that are named by a mark. -/
def markParameter? (b : UInt8) : Option Parameter :=
  if b = 64 then some .arguments
  else if b = 42 then some .joinedArguments
  else if b = 35 then some .argumentCount
  else if b = 63 then some .status
  else if b = 45 then some .options
  else if b = 36 then some .process
  else if b = 33 then some .background
  else none

/-- What a word beside a parameter is for, by the mark before it. -/
def alternative? (b : UInt8) : Option Alternative :=
  if b = 45 then some .use
  else if b = 61 then some .assign
  else if b = 63 then some .complain
  else if b = 43 then some .replace
  else none

/-- Pieces in double quotes. The quotes make a field of their own, unless they hold nothing but all
arguments. -/
def quotedPieces : List Piece → List Piece
  | [.value true .arguments .none] => [.value true .arguments .none]
  | pieces => .literal true [] :: pieces

/-- A word with the home directory in place of a sign for it. -/
def withHome : Word → Word
  | .literal false [126] :: rest => if rest.isEmpty then [.home] else .literal false [126] :: rest
  | .literal false (126 :: 47 :: more) :: rest => .home :: .literal false (47 :: more) :: rest
  | w => w

end Testbed.Shell
