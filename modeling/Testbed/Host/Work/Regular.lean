import Testbed.Shell.Glob

/-!
# Regular expressions of lines

Lines can be searched for what an expression covers. In the basic form of expressions, groups,
choices and bounds are written with backslashes, in the extended form without.

* `Regular` is an expression, and `Regular.read?` reads one;
* `Regular.ends` says where what it covers from a place on can end;
* `Regular.isIn` says whether it covers a part of a line;
* `Regular.firstGroup?` says which part its first group covers.
-/

namespace Testbed.Host

open Shell

/-- A regular expression. -/
inductive Regular
  | nothing
  | start
  | finish
  /-- One byte of those that an element of a pattern stands for. -/
  | one (g : Glob)
  | both (first second : Regular)
  | either (first second : Regular)
  /-- At least so often, and at most so often if there is a bound. -/
  | repeated (r : Regular) (least : Nat) (most : Option Nat)
  /-- A group. -/
  | group (r : Regular)
  deriving DecidableEq, Repr

namespace Regular

/-! ## Reading -/

/-- A token of an expression. -/
inductive Mark
  | one (g : Glob)
  | start
  | finish
  | openGroup
  | closeGroup
  | choice
  | times (least : Nat) (most : Option Nat)
  deriving DecidableEq, Repr

/-- The bounds between braces, and what follows them. -/
def takeBounds (extended : Bool) (text : Bytes) : Option ((Nat × Option Nat) × Bytes) :=
  let isDigit (b : UInt8) : Bool := 48 ≤ b && b ≤ 57
  let value (digits : Bytes) : Nat := digits.foldl (fun n b => n * 10 + (b.toNat - 48)) 0
  let low := text.takeWhile isDigit
  let rest := text.drop low.length
  let (high, rest) : Option Nat × Bytes :=
    match rest with
    | 44 :: more =>
      let digits := more.takeWhile isDigit
      (if digits.isEmpty then none else some (value digits), more.drop digits.length)
    | _ => (some (value low), rest)
  match extended, rest with
  | true, 125 :: rest => some ((value low, high), rest)
  | false, 92 :: 125 :: rest => some ((value low, high), rest)
  | _, _ => none

/-- The element for brackets after the opening one, and what follows. -/
def takeBrackets (text : Bytes) : Option (Glob × Bytes) :=
  let outside := text.head? = some 94
  let inside := Cell.ofBytes false (if outside then text.drop 1 else text)
  (Glob.takeRanges (inside.length + 1) true inside).map fun r =>
    (.among outside r.1, Cell.bytes r.2)

/-- Cuts an expression into tokens, at most so many. `first` says whether a group or a choice starts
here. -/
def scan (extended : Bool) : Nat → Bool → Bytes → List Mark
  | 0, _, _ => []
  | _, _, [] => []
  | fuel + 1, first, b :: rest =>
    let go (m : Mark) (rest : Bytes) : List Mark :=
      m :: scan extended fuel (m = .openGroup || m = .choice || m = .start) rest
    if b = 92 then
      match rest with
      | [] => [.one (.byte 92)]
      | c :: more =>
        if extended then go (.one (.byte c)) more
        else if c = 40 then go .openGroup more
        else if c = 41 then go .closeGroup more
        else if c = 124 then go .choice more
        else if c = 43 then go (.times 1 none) more
        else if c = 63 then go (.times 0 (some 1)) more
        else if c = 123 then
          match takeBounds false more with
          | some (bounds, more) => go (.times bounds.1 bounds.2) more
          | none => go (.one (.byte c)) more
        else go (.one (.byte c)) more
    else if b = 46 then go (.one .one) rest
    else if b = 91 then
      match takeBrackets rest with
      | some (g, rest) => go (.one g) rest
      | none => go (.one (.byte b)) rest
    else if b = 94 && (first || extended) then go .start rest
    else if b = 36 && (rest.isEmpty || extended || rest.head? = some 92 && rest[1]? = some 41) then
      go .finish rest
    else if b = 42 && !first then go (.times 0 none) rest
    else if extended && b = 40 then go .openGroup rest
    else if extended && b = 41 then go .closeGroup rest
    else if extended && b = 124 then go .choice rest
    else if extended && b = 43 then go (.times 1 none) rest
    else if extended && b = 63 then go (.times 0 (some 1)) rest
    else if extended && b = 123 then
      match takeBounds true rest with
      | some (bounds, rest) => go (.times bounds.1 bounds.2) rest
      | none => go (.one (.byte b)) rest
    else go (.one (.byte b)) rest

mutual

/-- Reads a choice between expressions. -/
def readChoice : Nat → List Mark → Option (Regular × List Mark)
  | 0, _ => none
  | fuel + 1, marks => do
    let (a, rest) ← readSequence fuel .nothing marks
    match rest with
    | .choice :: rest => do
      let (b, rest) ← readChoice fuel rest
      return (.either a b, rest)
    | rest => return (a, rest)

/-- Reads expressions after each other, after those read before. -/
def readSequence : Nat → Regular → List Mark → Option (Regular × List Mark)
  | 0, _, _ => none
  | fuel + 1, before, marks =>
    match marks with
    | [] => some (before, [])
    | .choice :: _ => some (before, marks)
    | .closeGroup :: _ => some (before, marks)
    | .openGroup :: rest => do
      let (inside, rest) ← readChoice fuel rest
      match rest with
      | .closeGroup :: rest => do
        let (r, rest) := readTimes rest.length (.group inside) rest
        readSequence fuel (.both before r) rest
      | _ => none
    | .start :: rest => readSequence fuel (.both before .start) rest
    | .finish :: rest => readSequence fuel (.both before .finish) rest
    | .times _ _ :: rest => readSequence fuel before rest
    | .one g :: rest =>
      let (r, rest) := readTimes rest.length (.one g) rest
      readSequence fuel (.both before r) rest

/-- Reads how often an expression is repeated. -/
def readTimes : Nat → Regular → List Mark → Regular × List Mark
  | fuel + 1, r, .times least most :: rest => readTimes fuel (.repeated r least most) rest
  | _, r, rest => (r, rest)

end

/-- Reads an expression. -/
def read? (extended : Bool) (text : Bytes) : Option Regular :=
  let marks := scan extended (text.length + 1) true text
  match readChoice (4 * marks.length + 4) marks with
  | some (r, []) => some r
  | _ => none

/-! ## Covering -/

/-- The places after rounds of something, each of which goes on to a later place. -/
def closure (step : Nat → List Nat) : Nat → List Nat → List Nat
  | 0, places => places
  | rounds + 1, places =>
    let more := (places.flatMap step).filter fun p => !places.contains p
    if more.isEmpty then places else closure step rounds (places ++ more.eraseDups)

/-- The places after so many rounds of something. -/
def rounds (step : Nat → List Nat) : Nat → List Nat → List Nat
  | 0, places => places
  | n + 1, places => rounds step n (places.flatMap step).eraseDups

/-- The places after at most so many rounds of something. -/
def upTo (step : Nat → List Nat) : Nat → List Nat → List Nat
  | 0, places => places
  | n + 1, places => (places ++ upTo step n (places.flatMap step).eraseDups).eraseDups

/-- Where what an expression covers from a place in a line on can end. -/
def ends (text : Array UInt8) : Regular → Nat → List Nat
  | .nothing, p => [p]
  | .start, p => if p = 0 then [p] else []
  | .finish, p => if p = text.size then [p] else []
  | .one g, p =>
    match text[p]? with
    | some b => if Glob.holds b g then [p + 1] else []
    | none => []
  | .both a b, p => ((ends text a p).flatMap (ends text b)).eraseDups
  | .either a b, p => (ends text a p ++ ends text b p).eraseDups
  | .repeated r least most, p =>
    let first := rounds (ends text r) least [p]
    match most with
    | some n => upTo (ends text r) (n - least) first
    | none => closure (ends text r) (text.size + 1) first
  | .group r, p => ends text r p

/-- Whether an expression has a group. -/
def hasGroup : Regular → Bool
  | .both a b => hasGroup a || hasGroup b
  | .either a b => hasGroup a || hasGroup b
  | .repeated r _ _ => hasGroup r
  | .group _ => true
  | _ => false

/-- The part that the first group of an expression covers where the expression covers a given part.
What stands before it covers as much as possible. -/
def firstGroup? (text : Array UInt8) : Regular → Nat → Nat → Option (Nat × Nat)
  | .both a b, p, e =>
    let middles := ((ends text a p).filter fun m => (ends text b m).contains e).mergeSort (· ≥ ·)
    match middles with
    | [] => none
    | m :: _ => if hasGroup a then firstGroup? text a p m else firstGroup? text b m e
  | .either a b, p, e =>
    if (ends text a p).contains e then firstGroup? text a p e else firstGroup? text b p e
  | .repeated r _ _, p, e =>
    -- the group covers what it does in the last round
    let starts := closure (ends text r) (text.size + 1) [p]
    ((starts.filter fun q => q < e && (ends text r q).contains e).min?).bind fun q =>
      firstGroup? text r q e
  | .group _, p, e => some (p, e)
  | _, _, _ => none

/-- The first part of a line from a place on that an expression covers, as long as possible: where
it starts and ends. -/
def firstFrom? (r : Regular) (line : Array UInt8) (place : Nat) : Option (Nat × Nat) :=
  (List.range' place (line.size + 1 - place)).findSome? fun p =>
    (ends line r p).max?.map fun e => (p, e)

/-- Whether an expression covers a part of a line. -/
def isIn (r : Regular) (line : Bytes) : Bool := (firstFrom? r line.toArray 0).isSome

/-- Whether an expression covers a whole line. -/
def covers (r : Regular) (line : Bytes) : Bool := (ends line.toArray r 0).contains line.length

/-- The parts of a line that an expression covers, from a place on, at most so many. -/
def parts (r : Regular) (line : Array UInt8) : Nat → Nat → List Bytes
  | 0, _ => []
  | count + 1, place =>
    match firstFrom? r line place with
    | none => []
    | some (p, e) =>
      let rest := parts r line count (if p = e then e + 1 else e)
      if p = e then rest else (line.extract p e).toList :: rest

end Regular

end Testbed.Host
