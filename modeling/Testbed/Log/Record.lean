/-!
# Log records

A record says what happened, how important it is and which part of the program saw it. It is
written inside spans, which say what the program was busy with at that moment.

* `Record` and `Span` are what is logged;
* `Record.line` writes a record on one line, after the spans it stands in;
* `defuse` keeps a message from steering a terminal.
-/

namespace Testbed.Log

/-- How important a record is, from the most important to the least. -/
inductive Level
  | error
  | warn
  | info
  | debug
  | trace
  deriving DecidableEq, Repr

namespace Level

/-- The rank of a level: the less important, the greater. -/
def rank : Level → Nat
  | .error => 1
  | .warn => 2
  | .info => 3
  | .debug => 4
  | .trace => 5

/-- The name of a level as it stands in a line. -/
def name : Level → String
  | .error => "ERROR"
  | .warn => "WARN"
  | .info => "INFO"
  | .debug => "DEBUG"
  | .trace => "TRACE"

end Level

/-- A value that is logged. -/
inductive Value
  | text (s : String)
  | flag (b : Bool)
  deriving DecidableEq, Repr

/-- A value as it is written. -/
def Value.shown : Value → String
  | .text s => s
  | .flag b => toString b

/-- A named value. -/
structure Field where
  name : String
  value : Value
  deriving DecidableEq, Repr

/-- A field as text. -/
def Field.text (f : Field) : String := f.name ++ "=" ++ f.value.shown

/-- Something that the program is busy with for a while. All spans have the level `info`. -/
structure Span where
  /-- The part of the program that does it. -/
  target : String
  name : String
  fields : List Field
  deriving DecidableEq, Repr

/-- A span as text: its name and its fields in braces. -/
def Span.text (s : Span) : String :=
  s.name ++ "\x7b" ++ " ".intercalate (s.fields.map Field.text) ++ "\x7d"

/-- Something that happened. -/
structure Record where
  level : Level
  /-- The part of the program that saw it. -/
  target : String
  message : String
  fields : List Field
  deriving DecidableEq, Repr

/-- The names under which a record holds what it says; the message is one of them. -/
def Record.fieldNames (r : Record) : List String := "message" :: r.fields.map Field.name

/-- The digits of a number in base sixteen. -/
def hex (n : Nat) : String := String.ofList (Nat.toDigits 16 n)

/-- A character of a message as it is written: control characters that can steer a terminal are
spelled out. -/
def defuseChar (c : Char) : String :=
  let n := c.toNat
  if n = 0x07 ∨ n = 0x08 then "\\x0" ++ hex n
  else if n = 0x0C then "\\x0c"
  else if n = 0x1B ∨ n = 0x7F then "\\x" ++ hex n
  else if 0x80 ≤ n ∧ n ≤ 0x9F then "\\u\x7b" ++ hex n ++ "\x7d"
  else String.singleton c

/-- A message as it is written. -/
def defuse (s : String) : String := String.join (s.toList.map defuseChar)

/-- The spans that a record stands in, outermost first, as they stand before it. -/
def context (spans : List Span) : String :=
  if spans.isEmpty then "" else String.join (spans.map fun s => s.text ++ ":") ++ " "

/-- A record on one line: its level, the spans it stands in, where it comes from, what happened. -/
def Record.line (r : Record) (spans : List Span) : String :=
  r.level.name ++ " " ++ context spans ++ r.target ++ ": " ++
    " ".intercalate (defuse r.message :: r.fields.map Field.text)

end Testbed.Log
