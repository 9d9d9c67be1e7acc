import Testbed.Shell.Script

/-!
# Tokens of a script

The text of a script is read from the left. Between its words stand blanks, newlines and marks; a
word may hold quotes and parts that stand for something else, which may again hold whole scripts.

* `Token` is what a script is cut into, and `Source` what is left of its text;
* `SyntaxError` says where and why a text is no script;
* `Reader.next`, `Reader.blank`, `Reader.takeDocument` and others take bytes from the text.
-/

namespace Testbed.Shell

/-! ## Bytes -/

/-- Whether a byte is a blank between words. -/
def isBlankByte (b : UInt8) : Bool := b == 32 || b == 9

/-- Whether a byte is a decimal digit. -/
def isDigitByte (b : UInt8) : Bool := 48 ≤ b && b ≤ 57

/-- Whether a byte may start the name of a variable. -/
def startsName (b : UInt8) : Bool := (65 ≤ b && b ≤ 90) || (97 ≤ b && b ≤ 122) || b == 95

/-- Whether a byte may stand in the name of a variable. -/
def inName (b : UInt8) : Bool := startsName b || isDigitByte b

/-- Whether a text is the name of a variable. -/
def isName (name : Bytes) : Bool := (name.head?.map startsName).getD false && name.all inName

/-- The number that digits spell. -/
def digitsValue (digits : Bytes) : Nat := digits.foldl (fun n b => n * 10 + (b.toNat - 48)) 0

/-- Whether a byte ends a word outside quotes. -/
def endsWord (b : UInt8) : Bool :=
  isBlankByte b || b == 10 || b == 38 || b == 124 || b == 59 || b == 60 || b == 62 || b == 40 ||
    b == 41

/-! ## Tokens -/

/-- What a mark of redirection asks for. -/
inductive Redirect
  | file (direction : Direction)
  | duplicate
  /-- A text from the script; tabs at the start of its lines may be left out. -/
  | document (withoutTabs : Bool)
  deriving DecidableEq, Repr

/-- A token of a script. -/
inductive Token
  | word (w : Word)
  /-- A word that has a meaning of its own where a command may start. -/
  | reserved (name : String)
  | newline
  | semicolon
  /-- Two semicolons, which end a branch of a choice. -/
  | branchEnd
  /-- Two ampersands: what follows is done if what stands before succeeds. -/
  | andThen
  /-- Two bars: what follows is done if what stands before fails. -/
  | orElse
  | bar
  | ampersand
  | openParen
  | closeParen
  /-- A redirection of a descriptor; a word follows. -/
  | redirect (descriptor : Nat) (r : Redirect)
  | endOfText

/-- How a message names a token. -/
def Token.name : Token → String
  | .word _ => "word"
  | .reserved name => "\"" ++ name ++ "\""
  | .newline => "newline"
  | .semicolon => "\";\""
  | .branchEnd => "\";;\""
  | .andThen => "\"&&\""
  | .orElse => "\"||\""
  | .bar => "\"|\""
  | .ampersand => "\"&\""
  | .openParen => "\"(\""
  | .closeParen => "\")\""
  | .redirect _ _ => "redirection"
  | .endOfText => "end of file"

/-- The words that have a meaning of their own where a command may start. -/
def reservedNames : List String :=
  ["!", "case", "do", "done", "elif", "else", "esac", "fi", "for", "if", "in", "then", "until",
    "while", "\x7b", "\x7d"]

/-- The reserved words that end a list of commands. -/
def closingNames : List String := ["do", "done", "elif", "else", "esac", "fi", "then", "\x7d"]

/-- Whether a token ends a list of commands. -/
def Token.closes : Token → Bool
  | .reserved name => closingNames.contains name
  | .closeParen => true
  | .branchEnd => true
  | .endOfText => true
  | _ => false

/-- Whether a token is a given reserved word. -/
def Token.isReserved (t : Token) (name : String) : Bool :=
  match t with
  | .reserved n => n == name
  | _ => false

/-- The text of a word that is one unquoted piece. -/
def plainText? : Word → Option Bytes
  | [.literal false bytes] => some bytes
  | _ => none

/-- A word as the reserved word that it may be. -/
def Token.recognised : Token → Token
  | .word w =>
    match plainText? w with
    | none => .word w
    | some bytes =>
      match reservedNames.find? fun name => utf8 name == bytes with
      | some name => .reserved name
      | none => .word w
  | t => t

/-- Bytes outside quotes as pieces, where a sign for the home directory after a colon stands for it.
`last` says whether nothing follows the bytes. -/
def withHomes (last : Bool) : Bytes → List Piece
  | [] => []
  | [58, 126] => if last then [.literal false [58], .home] else [.literal false [58, 126]]
  | 58 :: 126 :: b :: rest =>
    if b = 47 || b = 58 then .literal false [58] :: .home :: withHomes last (b :: rest)
    else .literal false [58, 126] :: withHomes last (b :: rest)
  | b :: rest =>
    match withHomes last rest with
    | .literal false bytes :: more => .literal false (b :: bytes) :: more
    | more => .literal false [b] :: more

/-- A value with the home directory in place of the signs for it: at its start and after colons. -/
def valueWithHomes : Word → Word
  | [] => []
  | .literal false bytes :: rest =>
    match withHomes rest.isEmpty (58 :: bytes) with
    | .literal false [58] :: pieces => pieces ++ valueTail rest
    | .literal false (58 :: more) :: pieces => .literal false more :: pieces ++ valueTail rest
    | pieces => pieces ++ valueTail rest
  | piece :: rest => piece :: valueTail rest
where
  /-- The pieces after the first one. -/
  valueTail : Word → Word
    | [] => []
    | .literal false bytes :: rest => withHomes rest.isEmpty bytes ++ valueTail rest
    | piece :: rest => piece :: valueTail rest

/-- The variable and the value of a word that sets a variable. -/
def assignment? (w : Word) : Option (Bytes × Word) :=
  match w with
  | .literal false bytes :: rest =>
    let name := bytes.takeWhile (· != 61)
    match bytes.dropWhile (· != 61) with
    | [] => none
    | _ :: value =>
      if isName name then
        some (name, valueWithHomes (if value.isEmpty then rest else .literal false value :: rest))
      else none
  | _ => none

/-- Puts a byte in front of pieces, of which the last one stands first. -/
def pushByte (quoted : Bool) (b : UInt8) (pieces : List Piece) : List Piece :=
  match pieces with
  | .literal q bytes :: rest =>
    if q = quoted then .literal q (bytes ++ [b]) :: rest else .literal quoted [b] :: pieces
  | _ => .literal quoted [b] :: pieces

/-- Puts a text in front of pieces, of which the last one stands first. -/
def pushBytes (quoted : Bool) (bytes : Bytes) (pieces : List Piece) : List Piece :=
  match pieces with
  | .literal q before :: rest =>
    if q = quoted then .literal q (before ++ bytes) :: rest else .literal quoted bytes :: pieces
  | _ => .literal quoted bytes :: pieces

/-! ## Reading -/

/-- Why a text is no script. -/
structure SyntaxError where
  line : Nat
  message : String
  deriving DecidableEq, Repr

/-- What is left of the text of a script. -/
structure Source where
  text : Bytes
  /-- The line in which the text starts. -/
  line : Nat
  /-- How many lines were taken out behind the end of this line. -/
  passed : Nat
  /-- A token that was read and not used. -/
  pushed : Option Token
  /-- Whether lines are shown as they are read if the script asks for that. -/
  shown : Bool
  /-- The texts that words stand for where a command may start. -/
  aliases : List (Bytes × Bytes)

/-- The start of a text. -/
def Source.ofText (text : Bytes) : Source := ⟨text, 1, 0, none, false, []⟩

/-- The start of a text that is read from a file. -/
def Source.ofFile (text : Bytes) : Source := { Source.ofText text with shown := true }

/-- Reading from the text of a script. -/
abbrev Reader := StateT Source (Except SyntaxError)

namespace Reader

/-- Gives up, since the text is no script. -/
def fail {α : Type} (message : String) : Reader α := do
  throw ⟨(← get).line, message⟩

/-- Gives up because of a token; another one may have been expected. -/
def unexpected {α : Type} (t : Token) (expected : Option Token) : Reader α :=
  match expected with
  | none => fail (t.name ++ " unexpected")
  | some e => fail (t.name ++ " unexpected (expecting " ++ e.name ++ ")")

/-- The next byte, which stays where it is. -/
def peek : Reader (Option UInt8) := do return (← get).text.head?

/-- Takes a byte. -/
def next : Reader (Option UInt8) := do
  let s ← get
  match s.text with
  | [] => return none
  | b :: rest =>
    if b = 10 then
      set { s with text := rest, line := s.line + 1 + s.passed, passed := 0 }
    else set { s with text := rest }
    return some b

/-- Passes over a byte. -/
def skip : Reader Unit := do discard next

/-- Passes over backslashes before newlines. -/
def joinLines : Nat → Reader Unit
  | 0 => return
  | fuel + 1 => do
    match (← get).text with
    | 92 :: 10 :: _ => do
      skip
      skip
      joinLines fuel
    | _ => return

/-- Takes a byte if it is the one given. -/
def takes (b : UInt8) : Reader Bool := do
  let s ← get
  joinLines s.text.length
  if (← peek) = some b then
    skip
    return true
  return false

/-- Takes the bytes at the front that are as wanted. None of them is a newline. -/
def takeWhile (holds : UInt8 → Bool) : Reader Bytes := do
  let s ← get
  set { s with text := s.text.dropWhile holds }
  return s.text.takeWhile holds

/-- Puts a token back. -/
def pushBack (t : Token) : Reader Unit := modify fun s => { s with pushed := some t }

/-- Puts the text that a word stands for in front of what is left, and gives the word; none if it
stands for itself, as the words do that are given. -/
def unfoldAlias (used : List Bytes) (t : Token) : Reader (Option Bytes) := do
  let s ← get
  let word := match t with
    | .word w => plainText? w
    | _ => none
  match word.bind fun name => (s.aliases.lookup name).map fun text => (name, text) with
  | none => return none
  | some (name, text) =>
    if used.contains name then return none
    else
      set { s with text := text ++ 32 :: s.text }
      return some name

/-- The line of what is read next. -/
def line : Reader Nat := do return (← get).line

/-- Takes the bytes up to a quote, and the quote. -/
def takeSingle : Reader Bytes := do
  let s ← get
  match s.text.dropWhile (· != 39) with
  | [] => do
    set { s with line := s.line + s.text.count 10 }
    fail "Unterminated quoted string"
  | _ :: rest =>
    let inside := s.text.takeWhile (· != 39)
    set { s with text := rest, line := s.line + inside.count 10 }
    return inside

/-- The bytes of a text up to a backquote, put in front of `done` in reverse, and what follows it;
none if there is no backquote. Backslashes are left out that stand before a byte with a meaning. -/
def splitBackquote (quoted : Bool) : Bytes → Bytes → Option (Bytes × Bytes)
  | _, [] => none
  | _, [92] => none
  | done, 96 :: rest => some (done.reverse, rest)
  | done, 92 :: b :: rest =>
    if b = 10 then splitBackquote quoted done rest
    else if b = 92 || b = 96 || b = 36 || (quoted && b = 34) then
      splitBackquote quoted (b :: done) rest
    else splitBackquote quoted (b :: 92 :: done) rest
  | done, b :: rest => splitBackquote quoted (b :: done) rest

/-! ## Documents -/

/-- How many bytes a line has, counted with its newline, where newlines between quotes do not end
it; none if no newline ends it. The first argument is the quote that is open. -/
def lineLength? : Option UInt8 → Bytes → Option Nat
  | _, [] => none
  | none, 92 :: _ :: rest => (lineLength? none rest).map (· + 2)
  | some 34, 92 :: _ :: rest => (lineLength? (some 34) rest).map (· + 2)
  | none, 10 :: _ => some 1
  | none, b :: rest =>
    (lineLength? (if b = 39 || b = 34 then some b else none) rest).map (· + 1)
  | some q, b :: rest => (lineLength? (if b = q then none else some q) rest).map (· + 1)

/-- The lines of a text before one that is a given text, how many lines those and it are, and what
follows. -/
def untilLine (withoutTabs : Bool) (last : Bytes) : Nat → Bytes → Bytes × Nat × Bytes
  | 0, text => ([], 0, text)
  | _, [] => ([], 0, [])
  | fuel + 1, text =>
    let line := text.takeWhile (· != 10)
    let rest := (text.dropWhile (· != 10)).drop 1
    let ended := line.length < text.length
    let line := if withoutTabs then line.dropWhile (· == 9) else line
    if line = last then ([], 1, rest)
    else
      let r := untilLine withoutTabs last fuel rest
      ((if ended then line ++ [10] else line) ++ r.1, 1 + r.2.1, r.2.2)

/-- Takes out the lines behind this one, up to one that is a given text. -/
def takeDocument (withoutTabs : Bool) (last : Bytes) : Reader Bytes := do
  let s ← get
  match lineLength? none s.text with
  | none => return []
  | some n =>
    let behind := s.text.drop n
    let (lines, count, rest) := untilLine withoutTabs last (behind.length + 1) behind
    set { s with text := s.text.take n ++ rest, passed := s.passed + count }
    return lines

end Reader

end Testbed.Shell
