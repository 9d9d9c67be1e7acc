import Testbed.Shell.Arithmetic
import Testbed.Shell.Glob
import Testbed.Shell.Machine

/-!
# Words and their values

Before a command is carried out, the parameters in its words are replaced by their values. What
comes from a value outside quotes is cut into fields at separators, and a field that is a pattern
gives way to the paths that it covers.

* `Atom` is a part of the value of a word, and `expand` gives the parts of a word;
* `cut` makes fields of parts;
* `fieldsOf`, `flat` and `patternOf` give the fields, the one text and the pattern of words.
-/

namespace Testbed.Shell

open Act

/-- A part of the value of a word. -/
inductive Atom
  /-- A text; `splits` says whether it is cut at separators. -/
  | text (quoted splits : Bool) (bytes : Bytes)
  /-- A gap between two arguments; one between quoted ones parts fields even if they are empty. -/
  | gap (hard : Bool)
  deriving DecidableEq

/-! ## Fields -/

/-- What has been read of fields, the last one first. -/
structure Cutter where
  done : List (List Cell)
  /-- The field that is being read, if there is one, backwards. -/
  current : Option (List Cell)
  /-- Whether the last field ended at white space, so that another separator belongs to it. -/
  trailing : Bool

namespace Cutter

/-- Ends the field that is being read. -/
def close (c : Cutter) (trailing : Bool) : Cutter :=
  ⟨(c.current.getD []).reverse :: c.done, none, trailing⟩

/-- Adds a byte to the field that is being read. -/
def push (c : Cutter) (cell : Cell) : Cutter := ⟨c.done, some (cell :: c.current.getD []), false⟩

/-- Reads a byte that may be a separator. -/
def split (separators : Bytes) (c : Cutter) (b : UInt8) : Cutter :=
  if !separators.contains b then c.push ⟨false, b⟩
  else if b = 32 || b = 9 || b = 10 then
    if c.current.isSome then c.close true else c
  else if c.current.isNone && c.trailing then { c with trailing := false }
  else c.close false

/-- Reads a part of a word. -/
def read (separators : Bytes) (c : Cutter) : Atom → Cutter
  | .text quoted splits bytes =>
    if splits then { bytes.foldl (split separators) c with trailing := false }
    else if bytes.isEmpty && !quoted then c
    else
      ⟨c.done, some ((Cell.ofBytes quoted bytes).reverse ++ c.current.getD []), false⟩
  | .gap hard => if hard || c.current.isSome then c.close false else c

/-- The fields that were read. -/
def fields (c : Cutter) : List (List Cell) :=
  match c.current with
  | some _ => (c.close false).done.reverse
  | none => c.done.reverse

end Cutter

/-- The fields of parts. -/
def cut (separators : Bytes) (atoms : List Atom) : List (List Cell) :=
  (atoms.foldl (Cutter.read separators) ⟨[], none, false⟩).fields

/-- The bytes of parts that are not cut. -/
def Atom.cells : List Atom → List Cell
  | [] => []
  | .text quoted _ bytes :: rest => Cell.ofBytes quoted bytes ++ Atom.cells rest
  | .gap _ :: rest => Atom.cells rest

/-- The parts of a value. -/
def valueAtoms (quoted : Bool) (bytes : Bytes) : List Atom := [.text quoted (!quoted) bytes]

/-- The parts of the arguments where fields are made of them. -/
def argumentAtoms (quoted : Bool) (args : List Bytes) : List Atom :=
  (args.map fun a => Atom.text quoted (!quoted) a).intersperse (.gap quoted)

/-- A text without the newlines at its end. -/
def withoutNewlines (bytes : Bytes) : Bytes := (bytes.reverse.dropWhile (· == 10)).reverse

/-- How a message names a parameter. -/
def Parameter.label : Parameter → Bytes
  | .argument n => Numeral.print n
  | .arguments => [64]
  | .joinedArguments => [42]
  | .argumentCount => [35]
  | .process => [36]
  | .background => [33]
  | .status => [63]
  | .options => [45]
  | .variable name => name

/-- Whether a parameter that is not set counts as missing. -/
def Parameter.mayMiss : Parameter → Bool
  | .arguments => false
  | .joinedArguments => false
  | _ => true

/-- The value of a parameter, where one that is not set is empty, or missing if an option says
so. -/
def required (p : Parameter) : Act Bytes := do
  let m ← get
  match m.parameter? p with
  | some value => return value
  | none =>
    if m.has 117 && p.mayMiss then fail (p.label ++ utf8 ": parameter not set")
    else return []

/-- Sets a parameter, which has to be a variable. -/
def assignParameter (p : Parameter) (value : Bytes) : Act Unit :=
  match p with
  | .variable name => assign name value
  | p => fail (p.label ++ utf8 ": bad variable name")

/-- The value of an expression. -/
def calculate (text : Bytes) : Act Bytes := do
  let m ← get
  match Arithmetic.evaluate m.value? text with
  | .error e => fail (e.message text)
  | .ok (n, assigned) => do
    for (name, value) in assigned.reverse do
      assign name value
    return Numeral.print n.toInt

/-- Something that gives what a script prints. -/
abbrev Capture := List Command → Act Bytes

/-- The parts of the value of a parameter. -/
def plainValue (whole quoted : Bool) (p : Parameter) : Act (List Atom) := do
  let m ← get
  let value ← required p
  return match whole, quoted, p with
    | true, _, .arguments => argumentAtoms quoted m.args
    | true, false, .joinedArguments => argumentAtoms false m.args
    | _, _, _ => valueAtoms quoted value

mutual

/-- The parts of a word. Fields are made of them if `whole` says so; what stands in the braces of a
parameter outside quotes is cut like a value. The third argument bounds the depth. -/
def expand (run : Capture) (whole inside : Bool) : Nat → List Piece → Act (List Atom)
  | 0, _ => return []
  | _, [] => return []
  | fuel + 1, piece :: rest => do
    let atoms ← expandPiece run whole inside fuel piece
    let more ← expand run whole inside fuel rest
    return atoms ++ more

/-- The parts of a piece. -/
def expandPiece (run : Capture) (whole inside : Bool) : Nat → Piece → Act (List Atom)
  | 0, _ => return []
  | fuel + 1, piece => do
    match piece with
    | .literal quoted bytes => return [.text quoted (inside && !quoted) bytes]
    | .home =>
      let m ← get
      return [.text true false ((m.value? (utf8 "HOME")).getD [126])]
    | .output quoted script => do
      let bytes ← run script
      return valueAtoms quoted (withoutNewlines (bytes.filter (· != 0)))
    | .number quoted expression => do
      let atoms ← expand run false false fuel expression
      return valueAtoms quoted (← calculate (Cell.bytes (Atom.cells atoms)))
    | .value quoted p modifier => expandValue run whole fuel quoted p modifier

/-- The parts of a parameter. -/
def expandValue (run : Capture) (whole : Bool) : Nat → Bool → Parameter → Modifier →
    Act (List Atom)
  | 0, _, _, _ => return []
  | fuel + 1, quoted, p, modifier => do
    let m ← get
    match modifier with
    | .none => plainValue whole quoted p
    | .unknown => fail (utf8 "Bad substitution")
    | .length => return valueAtoms quoted (Numeral.print (← required p).length)
    | .trimmed atEnd longest pattern => do
      let value ← required p
      let atoms ← expand run false false fuel pattern
      let glob := Glob.ofCells (Atom.cells atoms)
      return valueAtoms quoted
        (if atEnd then Glob.withoutEnd glob longest value
        else Glob.withoutStart glob longest value)
    | .otherwise a emptyToo word =>
      let there := match m.parameter? p with
        | some value => !(emptyToo && value.isEmpty)
        | none => false
      match a with
      | .use =>
        if there then plainValue whole quoted p else expand run whole (!quoted) fuel word
      | .replace => if there then expand run whole (!quoted) fuel word else return []
      | .assign =>
        if there then plainValue whole quoted p
        else do
          let atoms ← expand run false false fuel word
          assignParameter p (Cell.bytes (Atom.cells atoms))
          plainValue whole quoted p
      | .complain =>
        if there then plainValue whole quoted p
        else do
          let atoms ← expand run false false fuel word
          let message :=
            if word.isEmpty then
              utf8 (if emptyToo then "parameter not set or null" else "parameter not set")
            else Cell.bytes (Atom.cells atoms)
          fail (p.label ++ utf8 ": " ++ message)

end

/-- How deep words may be. -/
def wordDepth : Nat := 100000

/-- The paths that a field covers if it is a pattern, or else the field itself. -/
def pathsOf (m : Machine) (field : List Cell) : List Bytes :=
  if m.has 102 then [Cell.bytes field]
  else
    match Glob.paths m.site.files field with
    | [] => [Cell.bytes field]
    | paths => paths

/-- The fields of a word. -/
def fieldsOf (run : Capture) (w : Word) : Act (List Bytes) := do
  let atoms ← expand run true false wordDepth w
  let m ← get
  return (cut m.separators atoms).flatMap (pathsOf m)

/-- The value of a word that is not cut. -/
def flat (run : Capture) (w : Word) : Act Bytes := do
  return Cell.bytes (Atom.cells (← expand run false false wordDepth w))

/-- The pattern of a word. -/
def patternOf (run : Capture) (w : Word) : Act (List Glob) := do
  return Glob.ofCells (Atom.cells (← expand run false false wordDepth w))

end Testbed.Shell
