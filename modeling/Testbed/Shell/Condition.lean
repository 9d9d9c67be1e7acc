import Testbed.Host.Site
import Testbed.Shell.Numeral

/-!
# Conditions

A condition is written as arguments: a property of a text or of what stands at a path, a relation
between two texts, or other conditions put together. How many arguments there are decides what
some of them mean.

* `Sign` is what an argument stands for, and `Sign.of` decides it from what follows;
* `Condition.property` and `Condition.relation` decide the simple conditions;
* `Condition.holds` decides a whole condition, or says what is wrong with it.
-/

namespace Testbed.Shell

open Host

/-- What an argument of a condition stands for. -/
inductive Sign
  | missing
  | operand
  | negation
  | conjunction
  | disjunction
  | openParen
  | closeParen
  /-- A property, given by a letter. -/
  | property (letter : UInt8)
  | relation (name : String)
  deriving DecidableEq, Repr

namespace Sign

/-- The letters of the properties. -/
def letters : Bytes := utf8 "rwxefdcbpugkstznhOGLS"

/-- The names of the relations. -/
def relations : List String :=
  ["=", "!=", "<", ">", "-eq", "-ne", "-ge", "-gt", "-le", "-lt", "-nt", "-ot", "-ef"]

/-- What a text can stand for as an operator. -/
def operator? (text : Bytes) : Option Sign :=
  match relations.find? fun name => utf8 name == text with
  | some name => some (.relation name)
  | none =>
    match text with
    | [33] => some .negation
    | [40] => some .openParen
    | [41] => some .closeParen
    | [45, letter] =>
      if letter = 97 then some .conjunction
      else if letter = 111 then some .disjunction
      else if letters.contains letter then some (.property letter)
      else none
    | _ => none

/-- Whether a text is the name of a relation. -/
def isRelation (text : Bytes) : Bool :=
  match operator? text with
  | some (.relation _) => true
  | _ => false

/-- What the first of several arguments stands for. The sign of a property is a text like any other
where nothing follows it, or a relation and a text. -/
def of : List Bytes → Sign
  | [] => .missing
  | text :: rest =>
    match operator? text with
    | none => .operand
    | some (.property letter) =>
      match rest with
      | [] => .operand
      | [_] => .property letter
      | next :: _ => if isRelation next then .operand else .property letter
    | some .openParen => if rest.isEmpty then .operand else .openParen
    | some s => s

end Sign

namespace Condition

/-! ## Simple conditions -/

/-- What stands where a path leads, if anything. -/
def standing? (s : Site) (path : Path) : Option (Location × Entry) :=
  match s.files.locate path with
  | .error _ => none
  | .ok l =>
    if s.files.tree.isDirectory l then some (l, .directory)
    else (s.files.tree.entryAt l).map fun e => (l, e)

/-- Whether a symbolic link stands at a path. -/
def isLink (s : Site) (path : Path) : Bool :=
  match s.files.standing path with
  | .ok l =>
    match s.files.tree.entryAt l with
    | some (.link _) => true
    | _ => false
  | .error _ => false

/-- Whether what stands somewhere can be run, or entered. -/
def isRunnable : Entry → Bool
  | .file _ executable => executable
  | _ => true

/-- Whether something has a property that a letter stands for. -/
def hasProperty (letter : UInt8) (l : Location) (e : Entry) : Bool :=
  let device := Site.isDevice l
  if letter = 100 then e == .directory
  else if letter = 102 then e != .directory && !device
  else if letter = 99 then device
  else if letter = 120 then isRunnable e
  else if letter = 115 then
    match e with
    | .file content _ => !content.isEmpty
    | _ => true
  else [101, 114, 119, 79, 71].contains letter

/-- Whether a text, or what stands at it as a path, has a property that a letter stands for. -/
def property (s : Site) (letter : UInt8) (text : Bytes) : Bool :=
  if letter = 110 then !text.isEmpty
  else if letter = 122 then text.isEmpty
  else if letter = 104 || letter = 76 then isLink s text
  else
    match standing? s text with
    | none => false
    | some (l, e) => hasProperty letter l e

/-- The number that a text spells. -/
def number (text : Bytes) : Except Bytes Int :=
  match Numeral.integer? false false text with
  | some n => .ok n
  | none => .error (utf8 "Illegal number: " ++ text)

/-- Whether two texts stand in a relation. -/
def relation (s : Site) (name : String) (a b : Bytes) : Except Bytes Bool :=
  match name with
  | "=" => .ok (a == b)
  | "!=" => .ok (a != b)
  | "<" => .ok (precedes a b && a != b)
  | ">" => .ok (precedes b a && a != b)
  | "-nt" => .ok false
  | "-ot" => .ok false
  | "-ef" =>
    .ok (match s.files.locate a, s.files.locate b with
      | .ok l, .ok m => l == m
      | _, _ => false)
  | name => do
    let m ← number a
    let n ← number b
    return match name with
      | "-eq" => m == n
      | "-ne" => m != n
      | "-ge" => m ≥ n
      | "-gt" => m > n
      | "-le" => m ≤ n
      | _ => m < n

/-! ## Whole conditions -/

/-- What is wrong at a place, which an empty text does not name. -/
def fault (place : Bytes) (what : String) : Bytes :=
  if place.isEmpty then utf8 what else place ++ utf8 (": " ++ what)

mutual

/-- Decides conditions of which one has to hold, from an argument with the given sign on. The
second part starts with the last argument that was read. -/
def either (s : Site) : Nat → Sign → List Bytes → Except Bytes (Bool × List Bytes)
  | 0, _, args => .ok (false, args)
  | fuel + 1, sign, args => do
    let (a, args) ← both s fuel sign args
    if Sign.of args.tail = .disjunction then
      let rest := args.drop 2
      let (b, args) ← either s fuel (Sign.of rest) rest
      return (a || b, args)
    else return (a, args)

/-- Decides conditions of which all have to hold. -/
def both (s : Site) : Nat → Sign → List Bytes → Except Bytes (Bool × List Bytes)
  | 0, _, args => .ok (false, args)
  | fuel + 1, sign, args => do
    let (a, args) ← one s fuel sign args
    if Sign.of args.tail = .conjunction then
      let rest := args.drop 2
      let (b, args) ← both s fuel (Sign.of rest) rest
      return (a && b, args)
    else return (a, args)

/-- Decides a condition that may be negated. -/
def one (s : Site) : Nat → Sign → List Bytes → Except Bytes (Bool × List Bytes)
  | 0, _, args => .ok (false, args)
  | fuel + 1, .negation, args => do
    let next := Sign.of args.tail
    let (a, args) ← one s fuel next (if next = .missing then args else args.tail)
    return (!a, args)
  | fuel + 1, sign, args => simple s fuel sign args

/-- Decides a condition that is not put together, or one in parentheses. -/
def simple (s : Site) : Nat → Sign → List Bytes → Except Bytes (Bool × List Bytes)
  | 0, _, args => .ok (false, args)
  | _, .missing, args => .ok (false, args)
  | fuel + 1, .openParen, args =>
    let inside := args.tail
    let sign := Sign.of inside
    if sign = .closeParen then .ok (false, inside)
    else do
      let (a, args) ← either s fuel sign inside
      if Sign.of args.tail = .closeParen then return (a, args.tail)
      else .error (utf8 "closing paren expected")
  | _, .property letter, args =>
    match args.tail with
    | [] => .error (fault [45, letter] "argument expected")
    | text :: rest => .ok (property s letter text, text :: rest)
  | _, _, args =>
    match args with
    | a :: op :: rest =>
      match Sign.operator? op with
      | some (.relation name) =>
        match rest with
        | [] => .error (fault op "argument expected")
        | b :: rest => (relation s name a b).map fun r => (r, b :: rest)
      | _ => .ok (!a.isEmpty, args)
    | [a] => .ok (!a.isEmpty, args)
    | [] => .ok (false, args)

end

/-- Decides arguments of which the first has the given sign. -/
def decideFrom (s : Site) (sign : Sign) (args : List Bytes) : Except Bytes Bool :=
  match either s (4 * args.length + 4) sign args with
  | .error e => .error e
  | .ok (_, place :: _ :: _) => .error (fault place "unexpected operator")
  | .ok (r, _) => .ok r

/-- Whether arguments as a whole are negated, the sign of the first argument of what is left, and
that. Of three arguments, a relation in the middle comes first; parentheses around one or two, and
signs of negation before them, are left out. However many such signs there are, they negate once. -/
def reduce : List Bytes → Bool × Sign × List Bytes
  | [a, op, b] =>
    if Sign.isRelation op then (false, .operand, [a, op, b])
    else if a = [40] && b = [41] then (false, Sign.of [op], [op])
    else if a = [33] then (true, Sign.of [op, b], [op, b])
    else (false, Sign.of [a, op, b], [a, op, b])
  | [a, b, c, d] =>
    if a = [40] && d = [41] then (false, Sign.of [b, c], [b, c])
    else if a = [33] then (true, (reduce [b, c, d]).2)
    else (false, Sign.of [a, b, c, d], [a, b, c, d])
  | args => (false, Sign.of args, args)

/-- Whether a condition holds, or what is wrong with it. -/
def holds (s : Site) (args : List Bytes) : Except Bytes Bool :=
  if args.isEmpty then .ok false
  else
    let (negated, sign, rest) := reduce args
    (decideFrom s sign rest).map (· != negated)

end Condition

end Testbed.Shell
