import Testbed.Log.Record
import Testbed.Text.Number
import Testbed.Text.Pattern.Automaton
import Testbed.Text.Pattern.Reader
import Testbed.Text.Utf8

/-!
# Directives of a filter

A directive sets the least important level that is still shown. It may name a part of the program,
a span, and a field that a span or a record must have, with or without a value for it.

* `Directive` is what a directive says, and `Directive.parse?` reads one;
* `Directive.covers` says which records it is about, and `Directive.singlesOut` which spans raise
  or lower the level while the program is in them.
-/

namespace Testbed.Log

/-- The least important level that is shown; none if nothing is. -/
abbrev Threshold := Option Level

/-- Whether a level passes a threshold. -/
def Threshold.passes (t : Threshold) (l : Level) : Bool :=
  match t with
  | none => false
  | some least => l.rank ≤ least.rank

/-- How much passes a threshold. -/
def Threshold.rank (t : Threshold) : Nat := (t.map Level.rank).getD 0

/-- The threshold that more passes. -/
def Threshold.max (a b : Threshold) : Threshold := if a.rank ≤ b.rank then b else a

/-- What a directive asks of the value of a field. -/
inductive Demand
  | flag (b : Bool)
  /-- A number, which no value of this program is. -/
  | number
  /-- A text that a pattern covers. Two patterns that are written differently are two demands. -/
  | text (written : String) (pattern : Text.Pattern)
  deriving DecidableEq, Repr

/-- Whether a value is as asked for. -/
def Demand.met (d : Demand) (v : Value) : Bool :=
  match d, v with
  | .flag a, .flag b => a == b
  | .text _ p, .text s => p.covers s
  | _, _ => false

/-- What a directive asks of a field. -/
structure FieldDemand where
  name : String
  /-- What it asks of the value, if anything. -/
  value : Option Demand
  deriving DecidableEq, Repr

/-- What is shown of the records that come from a part of the program or from within a span. -/
structure Directive where
  /-- How the names of the parts start that it is about; none for the whole program. -/
  target : Option String
  /-- The name of the spans that it is about, if it names one. -/
  span : Option String
  /-- The field that a span or a record must have, if it names one. -/
  field : Option FieldDemand
  threshold : Threshold
  deriving DecidableEq, Repr

/-! ## Levels -/

/-- An ASCII letter in lower case. -/
def lowerText (s : String) : String := String.ofList (s.toList.map Char.toLower)

/-- Reads a threshold: the name of a level in either case, `off`, or a number from 0 to 5. -/
def readThreshold (s : String) : Option Threshold :=
  match Text.readNumber 5 s.toList with
  | .ok 0 => some none
  | .ok 1 => some (some .error)
  | .ok 2 => some (some .warn)
  | .ok 3 => some (some .info)
  | .ok 4 => some (some .debug)
  | .ok _ => some (some .trace)
  | .error _ =>
    match lowerText s with
    | "off" => some none
    | "error" => some (some .error)
    | "warn" => some (some .warn)
    | "info" => some (some .info)
    | "debug" => some (some .debug)
    | "trace" => some (some .trace)
    | _ => none

/-! ## Values -/

/-- A text without the sign at its start. -/
def afterSign (s : List Char) : List Char :=
  match s with
  | '+' :: rest => rest
  | '-' :: rest => rest
  | rest => rest

/-- Whether a text is an exponent: nothing, or an `e` and a number. -/
def isExponent (s : List Char) : Bool :=
  match s with
  | [] => true
  | c :: rest =>
    (c == 'e' || c == 'E') && !(afterSign rest).isEmpty && (afterSign rest).all Text.isDigit

/-- Whether a text is a decimal number without a sign: digits with at most one point among them,
and an exponent. -/
def isUnsigned (s : List Char) : Bool :=
  let whole := s.takeWhile Text.isDigit
  match s.dropWhile Text.isDigit with
  | '.' :: rest =>
    let part := rest.takeWhile Text.isDigit
    !(whole ++ part).isEmpty && isExponent (rest.dropWhile Text.isDigit)
  | rest => !whole.isEmpty && isExponent rest

/-- Whether a text is a number, be it whole, broken, infinite or none at all. -/
def isNumber (s : String) : Bool :=
  let magnitude := afterSign s.toList
  isUnsigned magnitude ||
    ["inf", "infinity", "nan"].contains (lowerText (String.ofList magnitude))

/-- Reads what is asked of a value: a truth value, a number, or else a pattern. -/
def Demand.parse? (s : String) : Option Demand :=
  if s = "true" then some (.flag true)
  else if s = "false" then some (.flag false)
  else if isNumber s then some .number
  else (Text.Pattern.parse? s).map (.text s)

/-- Reads what is asked of a field: its name, and after an equals sign what is asked of its
value. A second equals sign ends that. -/
def FieldDemand.parse? (s : String) : Option FieldDemand :=
  let name := s.toList.takeWhile (· != '=')
  match s.toList.dropWhile (· != '=') with
  | [] => some ⟨s, none⟩
  | _ :: value =>
    (Demand.parse? (String.ofList (value.takeWhile (· != '=')))).map fun d =>
      ⟨String.ofList name, some d⟩

/-! ## Reading directives -/

namespace Directive

/-- Where reading a directive is. A number says where what is being read starts. -/
inductive Stage
  | start
  /-- In a level or a target. -/
  | name (since : Nat)
  | span (since : Nat)
  | field (since : Nat)
  /-- After the fields of a span. -/
  | fields
  /-- After a span. -/
  | target
  | level (since : Nat)
  deriving DecidableEq, Repr

/-- What has been read of a directive. -/
structure Draft where
  directive : Directive
  stage : Stage
  deriving DecidableEq, Repr

/-- Before the first character: everything that is said to nothing in particular. -/
def Draft.initial : Draft := ⟨⟨none, none, none, some .trace⟩, .start⟩

/-- The part of a text between two places, which are counted in bytes. -/
def slice? (whole : Bytes) (first last : Nat) : Option String :=
  Text.decode? ((whole.drop first).take (last - first))

/-- Whether a directive may start with a character: a letter, a number or one of three marks. -/
def mayStart (c : Char) : Bool := Text.isAlphanumeric c || c == '-' || c == ':' || c == '_'

/-- The name of a span, unless it is empty. -/
def spanName? (name : String) : Option String := if name.isEmpty then none else some name

/-- Reads the character at a place. What is read is cut out of `whole`. -/
def Draft.step (whole : Bytes) (d : Draft) (place : Nat) (c : Char) : Option Draft :=
  match d.stage with
  | .start =>
    if c = '[' then some { d with stage := .span (place + 1) }
    else if mayStart c then some { d with stage := .name place }
    else none
  | .name since =>
    if c = '=' then
      (slice? whole since place).map fun s =>
        ⟨{ d.directive with target := some s }, .level (place + 1)⟩
    else if c = '[' then
      (slice? whole since place).map fun s =>
        ⟨{ d.directive with target := some s }, .span (place + 1)⟩
    else some d
  | .span since =>
    if c = ']' then
      (slice? whole since place).map fun s => ⟨{ d.directive with span := some s }, .target⟩
    else if c = '\x7b' then
      (slice? whole since place).map fun s =>
        ⟨{ d.directive with span := spanName? s }, .field (place + 1)⟩
    else some d
  | .field since =>
    if c = '\x7d' then
      match slice? whole since place with
      | none => none
      | some s =>
        if s.isEmpty then none
        else (FieldDemand.parse? s).map fun f => ⟨{ d.directive with field := some f }, .fields⟩
    else some d
  | .fields => if c = ']' then some { d with stage := .target } else none
  | .target => if c = '=' then some { d with stage := .level (place + 1) } else none
  | .level _ => some d

/-- Reads characters from a place on. -/
def Draft.read (whole : Bytes) : Draft → Nat → List Char → Option Draft
  | d, _, [] => some d
  | d, place, c :: rest =>
    match d.step whole place c with
    | none => none
    | some d => Draft.read whole d (place + c.utf8Size) rest

/-- The directive that has been read, if it can end where reading stands. -/
def Draft.finish (whole : Bytes) (d : Draft) : Option Directive :=
  match d.stage with
  | .name since =>
    (slice? whole since whole.length).map fun s =>
      match readThreshold s with
      | some t => { d.directive with threshold := t }
      | none => { d.directive with target := some s }
  | .level since =>
    match slice? whole since whole.length with
    | none => none
    | some s =>
      if s.isEmpty then some d.directive
      else (readThreshold s).map fun t => { d.directive with threshold := t }
  | .target => some d.directive
  | _ => none

/-- Reads one directive. White space around it is passed over in reading, but the places where
its parts start and end are counted from the very start of the text. -/
def parse? (s : String) : Option Directive :=
  (Draft.read (utf8 s) .initial 0 (Text.trim s.toList)).bind (Draft.finish (utf8 s))

/-! ## What a directive is about -/

/-- Whether a directive is about a part of the program. -/
def appliesTo (d : Directive) (target : String) : Bool :=
  match d.target with
  | none => true
  | some start => start.toList.isPrefixOf target.toList

/-- Whether a directive is only about what happens within spans. -/
def isScoped (d : Directive) : Bool := d.span.isSome || (d.field.bind FieldDemand.value).isSome

/-- Whether a directive shows records, wherever they stand, that come from a part of the program
and have the given fields. -/
def covers (d : Directive) (target : String) (fieldNames : List String) : Bool :=
  !d.isScoped && d.appliesTo target &&
    match d.field with
    | none => true
    | some f => fieldNames.contains f.name

/-- Whether a directive shows spans, wherever they stand, that come from a part of the program. -/
def coversSpans (d : Directive) (target : String) : Bool := !d.isScoped && d.appliesTo target

/-- Whether a directive names a span or a field, and a given span is one that it is about. -/
def singlesOut (d : Directive) (s : Span) : Bool :=
  (d.span.isSome || d.field.isSome) && d.appliesTo s.target &&
    (d.span.all fun name => name == s.name) &&
    (d.field.all fun f => s.fields.any fun g => g.name == f.name)

/-- Whether the fields of a span have the values that a directive asks for. -/
def isMetBy (d : Directive) (s : Span) : Bool :=
  d.field.all fun f =>
    f.value.all fun demand => s.fields.any fun g => g.name == f.name && demand.met g.value

/-- Whether two directives are about the same, so that the later one takes the place of the
other. -/
def replaces (a b : Directive) : Bool :=
  a.target == b.target && a.span == b.span && a.field == b.field

/-- How narrow a directive is by its target: one about the whole program is the widest. -/
def narrowness (d : Directive) : Nat :=
  match d.target with
  | none => 0
  | some start => start.utf8ByteSize + 1

/-- Whether a directive is at most as narrow as another one: by its target, and then by its
field. -/
def isWithin (a b : Directive) : Bool :=
  a.narrowness < b.narrowness ||
    (a.narrowness == b.narrowness &&
      match a.field, b.field with
      | none, _ => true
      | some _, none => false
      | some f, some g => f.name ≤ g.name)

end Directive

end Testbed.Log
