import Testbed.Text.Blank
import Testbed.Text.Letter
import Testbed.Text.Pattern

/-!
# The text of patterns

Letters and most other characters stand for themselves, a dot for any character of a line, brackets
for one of several characters, `^` and `$` for the ends, a bar for a choice, and `*`, `+` and `?`
for repetitions, which a further `?` makes lazy. Groups stand between round brackets. A question
mark at the start of a group may change how what follows is read.

* `Mode` is how a pattern is read from some place on, and `readFlags` reads what changes it;
* `readEscape` reads what follows a backslash;
* `readSet` reads a set of characters between brackets;
* `readChoice` reads a pattern;
* `Pattern.parse?` reads the whole text of a pattern. What nests too deeply cannot be read.

Of the characters beyond ASCII only the numbers are known. So where a pattern is about such
characters, nothing can be asked of their class or their case.
-/

namespace Testbed.Text.Pattern

/-! ## Modes -/

/-- How a pattern is read from some place on. -/
structure Mode where
  /-- Letters also stand for their other case. -/
  anyCase : Bool
  /-- `^` and `$` are the ends of a line. -/
  lines : Bool
  /-- A dot also stands for the end of a line. -/
  wholeText : Bool
  /-- Repetitions are lazy, and a question mark makes them greedy. -/
  lazy : Bool
  /-- Characters beyond ASCII are one character, and not several bytes. -/
  wide : Bool
  /-- A carriage return ends a line too. -/
  returns : Bool
  /-- White space and comments are passed over. -/
  spaced : Bool
  deriving DecidableEq, Repr

namespace Mode

/-- How the start of a pattern is read. -/
def initial : Mode := ⟨false, false, false, false, true, false, false⟩

/-- Puts the flag of a letter on or off; none if the letter is no flag. -/
def put? (m : Mode) (flag : Char) (on : Bool) : Option Mode :=
  match flag with
  | 'i' => some { m with anyCase := on }
  | 'm' => some { m with lines := on }
  | 's' => some { m with wholeText := on }
  | 'U' => some { m with lazy := on }
  | 'u' => some { m with wide := on }
  | 'R' => some { m with returns := on }
  | 'x' => some { m with spaced := on }
  | _ => none

/-- Passes over white space and over comments, which go from a number sign to the end of a line.
The first argument says whether reading stands in a comment. -/
def skipFrom : Bool → List Char → List Char
  | _, [] => []
  | true, c :: rest => skipFrom (c != '\n') rest
  | false, c :: rest =>
    if isBlank c then skipFrom false rest
    else if c == '#' then skipFrom true rest
    else c :: rest

/-- Passes over what is passed over in a mode. -/
def skip (m : Mode) (cs : List Char) : List Char := if m.spaced then skipFrom false cs else cs

/-- The next character that is not white space, also the first one of a comment. -/
def peek? (m : Mode) (cs : List Char) : Option Char :=
  if m.spaced then
    match cs.dropWhile isBlank with
    | '#' :: rest => (rest.dropWhile isBlank).head?
    | rest => rest.head?
  else cs.head?

/-- Whether a repetition is greedy that may be followed by a question mark. -/
def isGreedy (m : Mode) (questioned : Bool) : Bool := m.lazy == questioned

/-- The place that `^` stands for. -/
def startMark (m : Mode) : Mark := if m.lines then .lineStart m.returns else .start

/-- The place that `$` stands for. -/
def endMark (m : Mode) : Mark := if m.lines then .lineEnd m.returns else .finish

/-- What a dot stands for. A byte is never known to be a character of its own. -/
def dot? (m : Mode) : Option CharSet :=
  if !m.wide then none
  else if m.wholeText then some .all
  else if m.returns then some (.except (.either (.one '\r') (.one '\n')))
  else some (.except (.one '\n'))

/-- What a character stands for outside of brackets. -/
def literal? (m : Mode) (c : Char) (asByte : Bool) : Option CharSet :=
  if m.wide then if m.anyCase then none else some (.one c)
  else if c.toNat < 128 then some (if m.anyCase then .anyCase (.one c) else .one c)
  else if m.anyCase || asByte then none
  else some (.one c)

/-- Whether a character may stand within brackets. -/
def allows (m : Mode) (c : Char) : Bool := if m.wide then !m.anyCase else c.toNat < 128

/-- A set, with the other cases of its letters if they are asked for. -/
def fold (m : Mode) (s : CharSet) : CharSet := if m.anyCase && !m.wide then .anyCase s else s

/-- A set or its complement. The complement of a set of bytes is none of characters. -/
def complement? (m : Mode) (negated : Bool) (s : CharSet) : Option CharSet :=
  if !negated then some (m.fold s) else if m.wide then some (.except (m.fold s)) else none

end Mode

/-- Reads flags up to a colon or a closing bracket, which is left: after a dash they are put off.
The flags read so far are in `seen`. -/
def readFlags (m : Mode) (on : Bool) (seen : List Char) :
    List Char → Option (Mode × List Char × List Char)
  | [] => none
  | c :: rest =>
    if c == ':' || c == ')' then
      if seen.head? == some '-' then none else some (m, seen, c :: rest)
    else if seen.contains c then none
    else if c == '-' then readFlags m false ('-' :: seen) rest
    else
      match m.put? c on with
      | none => none
      | some m => readFlags m on (c :: seen) rest

/-! ## Backslashes -/

/-- What a backslash and what follows it stand for. -/
inductive Escape
  /-- A character, which may have been given as a byte. -/
  | char (c : Char) (asByte : Bool)
  | set (s : CharSet)
  | mark (m : Mark)
  deriving DecidableEq, Repr

/-- The value of a hexadecimal digit. -/
def hexDigit? (c : Char) : Option Nat :=
  if '0' ≤ c ∧ c ≤ '9' then some (c.toNat - '0'.toNat)
  else if 'a' ≤ c ∧ c ≤ 'f' then some (c.toNat - 'a'.toNat + 10)
  else if 'A' ≤ c ∧ c ≤ 'F' then some (c.toNat - 'A'.toNat + 10)
  else none

/-- Reads a number of hexadecimal digits onto a value. -/
def readHex (m : Mode) : Nat → Nat → List Char → Option (Nat × List Char)
  | 0, n, cs => some (n, cs)
  | _ + 1, _, [] => none
  | count + 1, n, c :: rest =>
    match hexDigit? c with
    | none => none
    | some d => readHex m count (16 * n + d) (m.skip rest)

/-- Reads the number of a character. -/
def readNumber? (m : Mode) (digits : Nat) (cs : List Char) : Option (Escape × List Char) :=
  match readHex m digits 0 (m.skip cs) with
  | none => none
  | some (n, rest) =>
    if n.isValidChar then some (.char (Char.ofNat n) (digits == 2), rest) else none

/-- Whether a character that follows a backslash stands for itself: the characters of ASCII that
are no letters, no digits and no angle brackets. -/
def isEscapable (c : Char) : Bool :=
  c.toNat < 128 && !c.isAlphanum && c != '<' && c != '>'

/-- What a backslash and one character stand for. -/
def escapeOf? (m : Mode) (c : Char) : Option Escape :=
  let ifNarrow (e : Escape) := if m.wide then none else some e
  match c with
  | 'a' => some (.char '\x07' false)
  | 'f' => some (.char '\x0c' false)
  | 't' => some (.char '\t' false)
  | 'n' => some (.char '\n' false)
  | 'r' => some (.char '\r' false)
  | 'v' => some (.char '\x0b' false)
  | 'A' => some (.mark .start)
  | 'z' => some (.mark .finish)
  | 'd' => ifNarrow (.set .digits)
  | 's' => ifNarrow (.set .blanks)
  | 'w' => ifNarrow (.set .words)
  | 'b' => ifNarrow (.mark .wordEdge)
  | 'B' => ifNarrow (.mark .noWordEdge)
  | '<' => ifNarrow (.mark .wordStart)
  | '>' => ifNarrow (.mark .wordEnd)
  | c => if isEscapable c then some (.char c false) else none

/-- Reads what follows a backslash. -/
def readEscape (m : Mode) : List Char → Option (Escape × List Char)
  | [] => none
  | 'x' :: rest => readNumber? m 2 rest
  | 'u' :: rest => readNumber? m 4 rest
  | 'U' :: rest => readNumber? m 8 rest
  | c :: rest => (escapeOf? m c).map fun e => (e, rest)

/-! ## Brackets -/

/-- Something read, and how deeply what it consists of nests. -/
structure Nested (α : Type) where
  value : α
  depth : Nat
  deriving DecidableEq, Repr

/-- Several things that make one: they nest deeper if there are at least two. -/
def Nested.gather (f : List α → β) (parts : List (Nested α)) : Nested β :=
  let depth := parts.foldl (fun d p => max d p.depth) 0
  ⟨f (parts.map Nested.value), if parts.length < 2 then depth else depth + 1⟩

/-- An operation on two sets. -/
inductive SetOperator
  | intersection
  | difference
  | symmetricDifference
  deriving DecidableEq, Repr

/-- What an operation gives. -/
def SetOperator.apply : SetOperator → CharSet → CharSet → CharSet
  | .intersection, a, b => .both a b
  | .difference, a, b => a.without b
  | .symmetricDifference, a, b => CharSet.differing a b

/-- The operator that a character stands for which is written twice. -/
def operatorOf? (c : Char) : Option SetOperator :=
  match c with
  | '&' => some .intersection
  | '-' => some .difference
  | '~' => some .symmetricDifference
  | _ => none

/-- Reads the name of a set between colons, after a bracket and the first of them. -/
def readNamed (m : Mode) (cs : List Char) : Option (Option CharSet × List Char) :=
  let (negated, cs) := match cs with
    | '^' :: rest => (true, rest)
    | cs => (false, cs)
  match cs.dropWhile (· != ':') with
  | ':' :: ']' :: rest =>
    (CharSet.named? (String.ofList (cs.takeWhile (· != ':')))).map fun s =>
      (if m.wide && m.anyCase then none else m.complement? negated s, rest)
  | _ => none

/-- Reads one character or set within brackets. -/
def readMember (m : Mode) : List Char → Option (Escape × List Char)
  | [] => none
  | '\\' :: rest => readEscape m rest
  | c :: rest => some (.char c false, rest)

/-- The set of what stands within brackets, unless it is the name of a place. -/
def memberSet? (m : Mode) : Escape → Option CharSet
  | .char c _ => if m.allows c then some (.one c) else none
  | .set s => some s
  | .mark _ => none

/-- The characters from one to another, if they are in order. -/
def span? (m : Mode) : Escape → Escape → Option CharSet
  | .char a _, .char b _ =>
    if m.allows a && m.allows b && a ≤ b then some (.range a b) else none
  | _, _ => none

/-- Reads a character, a set or a range of characters within brackets. A dash that stands before
the closing bracket or before another dash makes no range. -/
def readRange (m : Mode) (cs : List Char) : Option (CharSet × List Char) :=
  match readMember m cs with
  | none => none
  | some (a, rest) =>
    match m.skip rest with
    | [] => none
    | '-' :: rest =>
      if m.peek? rest == some ']' || m.peek? rest == some '-' then
        (memberSet? m a).map fun s => (s, '-' :: rest)
      else
        match readMember m (m.skip rest) with
        | none => none
        | some (b, rest) => (span? m a b).map fun s => (s, rest)
    | rest => (memberSet? m a).map fun s => (s, rest)

/-- Sets that are gathered within brackets, and an operation that waits for its second set. -/
structure Gathering where
  negated : Bool
  /-- Whether only dashes have been read. -/
  opening : Bool
  pending : Option (Nested CharSet × SetOperator)
  /-- The sets that stand side by side, the last one first. -/
  sets : List (Nested CharSet)
  deriving DecidableEq, Repr

namespace Gathering

/-- With one more set. -/
def add (g : Gathering) (s : Nested CharSet) : Gathering :=
  { g with opening := false, sets := s :: g.sets }

/-- What has been read, with the operation carried out that waited. -/
def current (g : Gathering) (m : Mode) : Nested CharSet :=
  let right := Nested.gather CharSet.ofList g.sets.reverse
  match g.pending with
  | none => right
  | some (left, op) =>
    ⟨op.apply (m.fold left.value) (m.fold right.value), max left.depth right.depth + 1⟩

/-- With an operator after what has been read. -/
def operate (g : Gathering) (m : Mode) (op : SetOperator) : Gathering :=
  { g with opening := false, pending := some (g.current m, op), sets := [] }

/-- The set between the brackets. -/
def close? (g : Gathering) (m : Mode) : Option (Nested CharSet) :=
  let inner := g.current m
  (m.complement? g.negated inner.value).map fun s => ⟨s, inner.depth + 1⟩

end Gathering

/-- What stands before the first set within brackets, and the characters that are left. -/
def openSet (m : Mode) (cs : List Char) : Gathering × List Char :=
  match m.skip cs with
  | '^' :: rest => (⟨true, true, none, []⟩, m.skip rest)
  | rest => (⟨false, true, none, []⟩, rest)

mutual

/-- Reads a set after its opening bracket. -/
def readSet (m : Mode) : Nat → List Char → Option (Nested CharSet × List Char)
  | 0, _ => none
  | fuel + 1, cs =>
    let (g, rest) := openSet m cs
    readSets m fuel g rest

/-- Reads sets up to a closing bracket. At the start, dashes and then a closing bracket stand for
themselves. -/
def readSets (m : Mode) : Nat → Gathering → List Char → Option (Nested CharSet × List Char)
  | 0, _, _ => none
  | fuel + 1, g, cs =>
    match m.skip cs with
    | [] => none
    | c :: rest =>
      if g.opening && (c == '-' || (c == ']' && g.sets.isEmpty)) then
        if m.allows c then
          readSets m fuel { g.add ⟨.one c, 0⟩ with opening := c == '-' } rest
        else none
      else if c == ']' then (g.close? m).map fun s => (s, rest)
      else if c == '[' then
        match if rest.head? == some ':' then readNamed m rest.tail else none with
        | some (some s, rest) => readSets m fuel (g.add ⟨s, 0⟩) rest
        | some (none, _) => none
        | none =>
          match readSet m fuel rest with
          | none => none
          | some (s, rest) => readSets m fuel (g.add s) rest
      else
        match if rest.head? == some c then operatorOf? c else none with
        | some op => readSets m fuel (g.operate m op) rest.tail
        | none =>
          match readRange m (c :: rest) with
          | none => none
          | some (s, rest) => readSets m fuel (g.add ⟨s, 0⟩) rest

end

/-! ## Groups and sequences -/

/-- Where reading stands. -/
structure Reading where
  mode : Mode
  /-- How many groups there were so far. -/
  groups : Nat
  /-- The names of groups so far. -/
  names : List (List Char)
  rest : List Char
  deriving DecidableEq, Repr

/-- A part of a sequence; none where only the mode was changed. -/
abbrev Part := Nested (Option Pattern)

/-- The parts of a sequence, in order. -/
def sequenceOf (parts : List Part) : Part :=
  Nested.gather (fun ps => some (sequence (ps.filterMap id))) parts

/-- A choice between parts. -/
def choiceOf (parts : List Part) : Part :=
  Nested.gather (fun ps => some (choice (ps.filterMap id))) parts

/-- A part with a mark of repetition. -/
def repeat? (m : Mode) (op : Char) (questioned : Bool) (p : Part) : Option Part :=
  p.value.map fun a =>
    let greedy := m.isGreedy questioned
    let count : Count := match op with
      | '*' => .anyNumber
      | '+' => .atLeastOnce
      | _ => .atMostOnce
    ⟨some (repetition count greedy a), p.depth + 1⟩

/-- Whether a character may stand in the name of a group. -/
def isNameChar (first : Bool) (c : Char) : Bool :=
  if first then c == '_' || isLetter c
  else c == '_' || c == '.' || c == '[' || c == ']' || isAlphanumeric c

/-- Reads the name of a group up to an angle bracket. -/
def readName (cs : List Char) : Option (List Char × List Char) :=
  let name := cs.takeWhile (· != '>')
  match name, cs.dropWhile (· != '>') with
  | c :: more, _ :: rest =>
    if isNameChar true c && more.all (isNameChar false) then some (name, rest) else none
  | _, _ => none

/-- What a group starts with besides its bracket. -/
inductive Opening
  /-- What is in the group is read from here on. A group without a number is no part of its own. -/
  | group (number : Option Nat) (inside : Reading)
  /-- There is no group; what follows is read from here on. -/
  | change (after : Reading)
  deriving DecidableEq, Repr

/-- Reads the name of a group, which no other one has, after an angle bracket. -/
def openNamed (r : Reading) (cs : List Char) : Option Opening :=
  match readName cs with
  | none => none
  | some (name, rest) =>
    if r.names.contains name then none
    else
      some (.group (some r.groups)
        { r with groups := r.groups + 1, names := name :: r.names, rest := rest })

/-- Reads what a group starts with after its bracket. -/
def openGroup (r : Reading) : Option Opening :=
  match r.mode.skip r.rest with
  | '?' :: 'P' :: '<' :: rest => openNamed r rest
  | '?' :: '<' :: rest => openNamed r rest
  | '?' :: rest =>
    match readFlags r.mode true [] rest with
    | some (m, seen, ')' :: rest) =>
      if seen.isEmpty then none else some (.change { r with mode := m, rest := rest })
    | some (m, _, _ :: rest) => some (.group none { r with mode := m, rest := rest })
    | _ => none
  | rest => some (.group (some r.groups) { r with groups := r.groups + 1, rest := rest })

/-- What is in a group, as one part. -/
def groupOf (number : Option Nat) (p : Part) : Part :=
  match number with
  | none => ⟨p.value, p.depth + 1⟩
  | some n => ⟨p.value.map (.group n), p.depth + 1⟩

/-- Reads one part that is no group: a character, a set, or a mark for a place. -/
def readPart (m : Mode) (fuel : Nat) : List Char → Option (Part × List Char)
  | [] => none
  | c :: rest =>
    let one (s : CharSet) : Part := ⟨some (.one s), 0⟩
    match c with
    | '[' => (readSet m fuel rest).map fun (s, rest) => (⟨some (.one s.value), s.depth⟩, rest)
    | '\\' =>
      match readEscape m rest with
      | none => none
      | some (.char c asByte, rest) => (m.literal? c asByte).map fun s => (one s, rest)
      | some (.set s, rest) => some (one s, rest)
      | some (.mark k, rest) => some (⟨some (.mark k), 0⟩, rest)
    | '.' => m.dot?.map fun s => (one s, rest)
    | '^' => some (⟨some (.mark m.startMark), 0⟩, rest)
    | '$' => some (⟨some (.mark m.endMark), 0⟩, rest)
    | '\x7b' => none
    | c => (m.literal? c false).map fun s => (one s, rest)

mutual

/-- Reads sequences with bars between them, up to a closing bracket or the end. The ones that were
read before are given, the last one first. -/
def readChoice : Nat → List Part → Reading → Option (Part × Reading)
  | 0, _, _ => none
  | fuel + 1, before, r =>
    match readSequence fuel [] r with
    | none => none
    | some (p, r) =>
      match r.rest with
      | '|' :: rest => readChoice fuel (p :: before) { r with rest := rest }
      | _ => some (choiceOf (p :: before).reverse, r)

/-- Reads parts that follow each other, up to a bar, a closing bracket or the end. The ones that
were read before are given, the last one first. -/
def readSequence : Nat → List Part → Reading → Option (Part × Reading)
  | 0, _, _ => none
  | fuel + 1, before, r =>
    match r.mode.skip r.rest with
    | [] => some (sequenceOf before.reverse, { r with rest := [] })
    | c :: rest =>
      if c == '|' || c == ')' then
        some (sequenceOf before.reverse, { r with rest := c :: rest })
      else if c == '*' || c == '+' || c == '?' then
        let questioned := rest.head? == some '?'
        match before with
        | [] => none
        | p :: before =>
          match repeat? r.mode c questioned p with
          | none => none
          | some p =>
            readSequence fuel (p :: before)
              { r with rest := if questioned then rest.tail else rest }
      else if c == '(' then
        match readGroup fuel { r with rest := rest } with
        | none => none
        | some (p, r) => readSequence fuel (p :: before) r
      else
        match readPart r.mode fuel (c :: rest) with
        | none => none
        | some (p, rest) => readSequence fuel (p :: before) { r with rest := rest }

/-- Reads a group after its opening bracket. What changes the mode in it ends with it. -/
def readGroup : Nat → Reading → Option (Part × Reading)
  | 0, _ => none
  | fuel + 1, r =>
    match openGroup r with
    | none => none
    | some (.change after) => some (⟨none, 0⟩, after)
    | some (.group number inside) =>
      match readChoice fuel [] inside with
      | none => none
      | some (p, after) =>
        match after.rest with
        | ')' :: rest =>
          some (groupOf number p, { after with mode := r.mode, rest := rest })
        | _ => none

end

/-- How deeply a pattern may nest. -/
def greatestDepth : Nat := 250

/-- Reads the text of a pattern; none if it cannot be read. -/
def parse? (s : String) : Option Pattern :=
  match readChoice (4 * s.length + 4) [] ⟨.initial, 0, [], s.toList⟩ with
  | some (p, r) => if r.rest.isEmpty && p.depth ≤ greatestDepth then p.value else none
  | none => none

end Testbed.Text.Pattern
