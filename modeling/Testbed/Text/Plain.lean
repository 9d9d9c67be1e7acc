/-!
# Plain text

A message may repeat what the user typed, and that may hold characters that steer a terminal. They
are left out: control characters that are no white space, and the escape sequences of terminals,
from the escape character up to their end or the end of the text.

* `Mode` says what a terminal would be in the middle of, and `Mode.next` what it is in the
  middle of next;
* `endsText` says which characters beyond ASCII hold the byte that ends a text for the terminal;
* `plain` keeps the characters that a terminal would show.
-/

namespace Testbed.Text

/-- What becomes of a message. -/
inductive Medium
  /-- It is kept as a text. -/
  | text
  /-- It is printed. -/
  | stream
  deriving DecidableEq, Repr

/-- What a terminal is in the middle of. -/
inductive Mode
  /-- Characters are shown. -/
  | ground
  /-- Right after the escape character. -/
  | escape
  /-- In a short sequence that has parameters. -/
  | short
  /-- In a sequence that a letter ends. -/
  | control
  /-- Before a text that is meant for the terminal, at its first parameter. -/
  | opening
  /-- Before a text that is meant for the terminal, after a parameter. -/
  | parameter
  /-- Before a text that is meant for the terminal, after the parameters. -/
  | intermediate
  /-- In a text that is meant for the terminal. -/
  | device
  /-- In a title for the terminal, which a bell may end too. -/
  | title
  deriving DecidableEq, Repr

/-- Whether a character is ASCII white space. -/
def isAsciiBlank (c : Char) : Bool :=
  c == ' ' || c == '\t' || c == '\n' || c == '\r' || c.toNat == 0x0C

/-- Whether a character is an ASCII control character. -/
def isAsciiControl (c : Char) : Bool := c.toNat < 0x20 || c.toNat == 0x7F

/-- Whether a character is shown where nothing is open: white space and whatever is no control
character. -/
def isShown (c : Char) : Bool := isAsciiBlank c || !isAsciiControl c

/-- Whether a character beyond ASCII has the byte in its encoding that ends a text for the
terminal where characters are single bytes. -/
def endsText (c : Char) : Bool := (String.utf8EncodeChar c).contains 0x9C

namespace Mode

/-- The mode right after the escape character and one more. -/
def afterEscape (c : Char) : Mode :=
  let n := c.toNat
  if n = 0x5B then .control
  else if n = 0x5D then .title
  else if n = 0x50 then .opening
  else if n = 0x58 ∨ n = 0x5E ∨ n = 0x5F then .device
  else if 0x20 ≤ n ∧ n ≤ 0x2F then .short
  else if 0x30 ≤ n ∧ n ≤ 0x7E then .ground
  else .escape

/-- The mode after an ASCII character in front of a text for the terminal, where `m` is the mode
so far and `late` says from which character on a parameter comes too late. -/
def beforeText (m : Mode) (late : Nat) (c : Char) : Mode :=
  let n := c.toNat
  if 0x20 ≤ n ∧ n ≤ 0x2F then .intermediate
  else if 0x30 ≤ n ∧ n < late then .parameter
  else if 0x30 ≤ n ∧ n ≤ 0x7E then .device
  else m

/-- The mode after a character that is not shown. One beyond ASCII is passed over, unless it ends
a text for the terminal. -/
def next (m : Mode) (c : Char) : Mode :=
  let n := c.toNat
  if n = 0x1B then .escape
  else if n = 0x18 ∨ n = 0x1A then .ground
  else if 0x80 ≤ n then
    if m = .device ∧ endsText c then .ground else m
  else
    match m with
    | .ground => .ground
    | .escape => afterEscape c
    | .short => if 0x30 ≤ n ∧ n ≤ 0x7E then .ground else .short
    | .control => if 0x40 ≤ n ∧ n ≤ 0x7E then .ground else .control
    | .opening => beforeText m 0x40 c
    | .parameter => beforeText m 0x3C c
    | .intermediate => beforeText m 0x30 c
    | .device => .device
    | .title => if n = 0x07 then .ground else .title

/-- Whether a character is shown in a mode, and starts a run of characters that are: where nothing
is open whatever can be shown, and between the parts of a short sequence white space that is a
control character. -/
def yields (m : Mode) (c : Char) : Bool :=
  match m with
  | .ground => isShown c
  | .escape => isAsciiBlank c && c != ' '
  | .short => isAsciiBlank c && c != ' '
  | .control => isAsciiBlank c && c != ' '
  | .opening => false
  | .parameter => false
  | .intermediate => false
  | .device => false
  | .title => false

/-- The mode after a character that is shown. In a message that is kept as a text nothing is open
any more then; in one that is printed only a character beyond ASCII ends what was open. -/
def afterShown (m : Mode) (medium : Medium) (c : Char) : Mode :=
  match medium with
  | .text => .ground
  | .stream => if 0x80 ≤ c.toNat then .ground else m

/-- The characters that are shown from a mode on. A run of characters that are shown, which
`running` says has begun, goes on up to the first that cannot be shown. -/
def shown (m : Mode) (medium : Medium) (running : Bool) : List Char → List Char
  | [] => []
  | c :: rest =>
    if m.yields c || (running && isShown c) then
      c :: shown (m.afterShown medium c) medium true rest
    else shown (m.next c) medium false rest

end Mode

/-- A text without what would steer a terminal. -/
def plain (medium : Medium) (s : String) : String :=
  String.ofList (Mode.ground.shown medium false s.toList)

end Testbed.Text
