import Testbed.Text.CharSet

/-!
# Patterns

A pattern stands for texts: sets for one of their characters, marks for a place between two
characters, and others for what follows each other, for a choice, and for what stands several
times. Where a text can be read in several ways, the first choice comes first, and a greedy
repetition rather goes on than it ends.

* `Place` is what stands on both sides of a place, and `Mark.holds` says which places a mark is for;
* `Pattern` is a pattern;
* `Pattern.sequence`, `Pattern.choice` and `Pattern.repetition` build larger ones. What all branches
  of a choice start with is read before the choice is made, so that what they start with comes
  first in the order of the ways to read.
-/

namespace Testbed.Text

/-- A place in a text: the characters on both sides, none at the ends of the text. -/
structure Place where
  before : Option Char
  after : Option Char
  deriving DecidableEq, Repr

/-- What a pattern may ask of a place. -/
inductive Mark
  /-- The start of the text. -/
  | start
  /-- The end of the text. -/
  | finish
  /-- The start of a line; with `returns`, a carriage return ends a line as well, but not between
  it and a newline. -/
  | lineStart (returns : Bool)
  /-- The end of a line. -/
  | lineEnd (returns : Bool)
  /-- A word on one side only. -/
  | wordEdge
  /-- A word on both sides or on none. -/
  | noWordEdge
  | wordStart
  | wordEnd
  deriving DecidableEq, Repr

/-- Whether a character of ASCII may stand in a word. -/
def isWord (c : Option Char) : Bool := c.any CharSet.words.holds

namespace Mark

/-- Whether a place is known to be as asked for by the character before it alone. -/
def holdsAfter (before : Option Char) : Mark → Bool
  | .start => before.isNone
  | .lineStart _ => before.all (· == '\n')
  | _ => false

/-- Whether a place is as asked for. -/
def holds (p : Place) : Mark → Bool
  | .start => p.before.isNone
  | .finish => p.after.isNone
  | .lineStart returns =>
    p.before.all (· == '\n') ||
      (returns && p.before == some '\r' && !(p.after == some '\n'))
  | .lineEnd returns =>
    p.after.isNone || (!returns && p.after == some '\n') ||
      (returns && (p.after == some '\r' || (p.after == some '\n' && !(p.before == some '\r'))))
  | .wordEdge => isWord p.before != isWord p.after
  | .noWordEdge => isWord p.before == isWord p.after
  | .wordStart => !isWord p.before && isWord p.after
  | .wordEnd => isWord p.before && !isWord p.after

end Mark

/-- A pattern. -/
inductive Pattern
  /-- The empty text. -/
  | empty
  /-- One character. -/
  | one (s : CharSet)
  /-- The empty text, at some places. -/
  | mark (m : Mark)
  | both (a b : Pattern)
  /-- One of two patterns, rather the first. -/
  | either (a b : Pattern)
  /-- A pattern or the empty text, rather the pattern if greedy. -/
  | optional (greedy : Bool) (a : Pattern)
  /-- A pattern once or several times, rather often if greedy. -/
  | repeated (greedy : Bool) (a : Pattern)
  /-- A pattern any number of times, rather often if greedy. -/
  | many (greedy : Bool) (a : Pattern)
  /-- A group, which no other one is equal to. -/
  | group (number : Nat) (a : Pattern)
  deriving DecidableEq, Repr

namespace Pattern

/-- Whether a pattern reads at least one character. -/
def takesSome : Pattern → Bool
  | .empty => false
  | .one _ => true
  | .mark _ => false
  | .both a b => a.takesSome || b.takesSome
  | .either a b => a.takesSome && b.takesSome
  | .optional _ _ => false
  | .repeated _ a => a.takesSome
  | .many _ _ => false
  | .group _ a => a.takesSome

/-- Whether a pattern reads no character. -/
def takesNone : Pattern → Bool
  | .empty => true
  | .one _ => false
  | .mark _ => true
  | .both a b => a.takesNone && b.takesNone
  | .either a b => a.takesNone && b.takesNone
  | .optional _ a => a.takesNone
  | .repeated _ a => a.takesNone
  | .many _ a => a.takesNone
  | .group _ a => a.takesNone

/-! ## Sequences -/

/-- The patterns that follow each other in a pattern. -/
def items : Pattern → List Pattern
  | .empty => []
  | .both a b => a.items ++ b.items
  | p => [p]

/-- Patterns that follow each other. -/
def chain : List Pattern → Pattern
  | [] => .empty
  | [p] => p
  | p :: rest => .both p (chain rest)

/-- Patterns that follow each other, without the empty ones. -/
def sequence (ps : List Pattern) : Pattern := chain (ps.flatMap items)

/-- Whether a pattern reads one given character. -/
def isLiteral : Pattern → Bool
  | .one s => s.isSingle
  | _ => false

/-- Whether a pattern is a sequence of which some part is not a given character. -/
def isSequence (p : Pattern) : Bool := 1 < p.items.length && p.items.any (!·.isLiteral)

/-! ## Choices -/

/-- The branches of a choice. -/
def branches : Pattern → List Pattern
  | .either a b => a.branches ++ b.branches
  | p => [p]

/-- The set of characters that a pattern reads one of. -/
def set? : Pattern → Option CharSet
  | .one s => some s
  | _ => none

/-- What two lists both start with. -/
def commonStart : List Pattern → List Pattern → List Pattern
  | a :: as, b :: bs => if a = b then a :: commonStart as bs else []
  | _, _ => []

/-- What several lists all start with. -/
def sharedStart : List (List Pattern) → List Pattern
  | [] => []
  | l :: rest => rest.foldl commonStart l

/-- A choice between branches as they are. -/
def alternatives : List Pattern → Pattern
  | [] => .empty
  | [p] => p
  | p :: rest => .either p (alternatives rest)

/-- A choice between patterns, rather an earlier one. Sets become one set, and what sequences share
at their start is read once. What is left of them is a choice again, at most `fuel` times. -/
def choiceWithin : Nat → List Pattern → Pattern
  | 0, ps => alternatives ps
  | fuel + 1, ps =>
    let ps := ps.flatMap branches
    match ps.mapM set? with
    | some sets => if sets.isEmpty then .empty else .one (CharSet.ofList sets)
    | none =>
      let shared := if ps.all isSequence then sharedStart (ps.map items) else []
      if shared.isEmpty || ps.length < 2 then alternatives ps
      else
        let rests := ps.map fun p => chain (p.items.drop shared.length)
        sequence (shared ++ [choiceWithin fuel rests])

/-- A choice between patterns, rather an earlier one. Each time something is read before the choice,
less of the patterns is left. -/
def choice (ps : List Pattern) : Pattern :=
  choiceWithin ((ps.map fun p => p.items.length).foldl (· + ·) 1) ps

/-! ## Repetitions -/

/-- How often something may stand. -/
inductive Count
  | atMostOnce
  | atLeastOnce
  | anyNumber
  deriving DecidableEq, Repr

/-- A pattern several times. What reads nothing need not stand more than once, and what may read
nothing stands any number of times where it stands at least once or not at all. -/
def repetition (count : Count) (greedy : Bool) (a : Pattern) : Pattern :=
  match count with
  | .atMostOnce => .optional greedy a
  | .atLeastOnce => if a.takesNone then a else .repeated greedy a
  | .anyNumber =>
    if a.takesNone then .optional greedy a
    else if a.takesSome then .many greedy a
    else .optional greedy (.repeated greedy a)

end Pattern

end Testbed.Text
