import Testbed.Text.Pattern

/-!
# Reading a text by a pattern

A pattern becomes an automaton, which reads a text from the left and tracks all ways to read it at
once, the best first. A way that starts further left is better. Once a way is complete, the ones
behind it are given up.

* `Automaton.ofPattern` makes the automaton of a pattern;
* `Automaton.reach` lists the states that are reached without reading, each once;
* `Automaton.ways` lists them at a place, where marks may look ahead;
* `Pattern.covers` says whether the best way to read a part of a text ends where the text ends.
-/

namespace Testbed.Text

/-- A state of an automaton. States are named by numbers. -/
inductive Automaton.State
  /-- All has been read. -/
  | done
  /-- Reads one character and goes on. -/
  | one (s : CharSet) (next : Nat)
  /-- Goes on at some places. -/
  | mark (m : Mark) (next : Nat)
  /-- Goes on in two ways, rather in the first. -/
  | fork (first second : Nat)
  deriving DecidableEq, Repr

/-- An automaton. -/
structure Automaton where
  states : Array Automaton.State
  /-- The state in which it starts. -/
  first : Nat
  deriving DecidableEq, Repr

namespace Automaton

/-- A fork, rather into the first way if greedy. -/
def forkOf (greedy : Bool) (first second : Nat) : State :=
  if greedy then .fork first second else .fork second first

/-- Puts a state before those that there are, from which an automaton starts. -/
def push (a : Automaton) (s : State) : Automaton := ⟨a.states.push s, a.states.size⟩

/-- Adds the states of a pattern after which an automaton goes on as it did so far. A repetition
goes back to a fork, which is put in before the states of what is repeated are known. -/
def prepend (a : Automaton) : Pattern → Automaton
  | .empty => a
  | .one s => a.push (.one s a.first)
  | .mark m => a.push (.mark m a.first)
  | .both p q => (a.prepend q).prepend p
  | .either p q =>
    let b := a.prepend p
    let c := { b with first := a.first }.prepend q
    c.push (.fork b.first c.first)
  | .optional greedy p =>
    let b := a.prepend p
    b.push (forkOf greedy b.first a.first)
  | .repeated greedy p =>
    let b := (a.push .done).prepend p
    { b with states := b.states.setIfInBounds a.states.size (forkOf greedy b.first a.first) }
  | .many greedy p =>
    let b := (a.push .done).prepend p
    ⟨b.states.setIfInBounds a.states.size (forkOf greedy b.first a.first), a.states.size⟩
  | .group _ p => a.prepend p

/-- The automaton of a pattern. -/
def ofPattern (p : Pattern) : Automaton := (⟨#[.done], 0⟩ : Automaton).prepend p

/-- The states that are reached from some without reading, where `holds` says which marks to pass:
the last one reached first, and before those that were reached already. -/
def reach (a : Automaton) (holds : Mark → Bool) : Nat → List Nat → List Nat → List Nat
  | 0, seen, _ => seen
  | _, seen, [] => seen
  | fuel + 1, seen, i :: rest =>
    if seen.contains i then a.reach holds fuel seen rest
    else
      match a.states[i]? with
      | some (.mark m next) =>
        a.reach holds fuel (i :: seen) (if holds m then next :: rest else rest)
      | some (.fork first second) => a.reach holds fuel (i :: seen) (first :: second :: rest)
      | _ => a.reach holds fuel (i :: seen) rest

/-- The states that are reached from some, in order. Each state is passed once and puts at most
two others up. -/
def reached (a : Automaton) (holds : Mark → Bool) (starts : List Nat) : List Nat :=
  (a.reach holds (starts.length + 2 * a.states.size) [] starts).reverse

/-- Whether a state is a mark that holds at a place, but was not known to before what follows was
looked at. -/
def isRevealed (a : Automaton) (p : Place) (i : Nat) : Bool :=
  match a.states[i]? with
  | some (.mark m _) => m.holds p && !m.holdsAfter p.before
  | _ => false

/-- Whether a state is a fork, which is never waited at. -/
def isFork (a : Automaton) (i : Nat) : Bool :=
  match a.states[i]? with
  | some (.fork _ _) => true
  | _ => false

/-- The ways on at a place, the best first: first as far as what stands before shows, and from
there on, if what follows opens a mark, once more. -/
def ways (a : Automaton) (p : Place) (starts : List Nat) : List Nat :=
  let known := (a.reached (·.holdsAfter p.before) starts).filter fun i => !a.isFork i
  if known.any (a.isRevealed p) then a.reached (·.holds p) known else known

/-- Whether a way is complete. -/
def isDone (a : Automaton) (i : Nat) : Bool := a.states[i]? == some .done

/-- Where a state goes on that reads a character. -/
def step? (a : Automaton) (c : Char) (i : Nat) : Option Nat :=
  match a.states[i]? with
  | some (.one s next) => if s.holds c then some next else none
  | _ => none

/-- Whether the empty text is read between the bytes of a character that has several. On both
sides of such a place stands neither a word nor a line. -/
def passesInside (a : Automaton) (c : Char) : Bool :=
  1 < c.utf8Size && (a.ways ⟨some c, some c⟩ [a.first]).any a.isDone

/-- Reads the rest of a text along some ways, and, while `searching`, along the ways that start
further right. Whether one of them ends where the text ends. -/
def run (a : Automaton) : List Nat → Bool → Option Char → List Char → Bool
  | starts, searching, before, [] =>
    (a.ways ⟨before, none⟩ (if searching then starts ++ [a.first] else starts)).any a.isDone
  | starts, searching, before, c :: rest =>
    let ways := a.ways ⟨before, some c⟩ (if searching then starts ++ [a.first] else starts)
    a.run ((ways.takeWhile fun i => !a.isDone i).filterMap (a.step? c))
      (searching && !ways.any a.isDone && !a.passesInside c) (some c) rest

end Automaton

/-- Whether the best way to read a part of a text by a pattern ends where the text ends. -/
def Pattern.covers (p : Pattern) (s : String) : Bool :=
  (Automaton.ofPattern p).run [] true none s.toList

end Testbed.Text
