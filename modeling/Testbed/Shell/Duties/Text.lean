import Testbed.Shell.Duties.Arguments
import Testbed.Shell.Expansion
import Testbed.Shell.Format

/-!
# Commands that print and read

A line that is read is cut into fields, of which the last variable gets all that are left.

* `printFormatted` prints arguments by a format;
* `read` reads a line into variables, and `takeField` cuts a field from it.
-/

namespace Testbed.Shell.Duties

open Host Act

/-- Prints arguments by a format. -/
def printFormatted (args : List Bytes) : Act Nat := do
  let (_, args) ← takeOptions [] args
  match args with
  | [] => fail (utf8 "usage: printf format [arg ...]")
  | form :: args => do
    let r := Format.print form args
    print 1 r.printed
    for w in r.warnings do
      warn w
    match r.fault with
    | some message => fail message
    | none => return if r.warnings.isEmpty then 0 else 1

/-- A line of an input with what backslashes quote, how many bytes it takes, and whether a newline
ends it. -/
def takeLine (raw : Bool) : Bytes → List Cell × Nat × Bool
  | [] => ([], 0, false)
  | [92] => (if raw then [⟨false, 92⟩] else [], 1, false)
  | 92 :: b :: rest =>
    if raw then
      if b = 10 then ([⟨false, 92⟩], 2, true)
      else
        let r := takeLine raw (b :: rest)
        (⟨false, 92⟩ :: r.1, r.2.1 + 1, r.2.2)
    else
      let r := takeLine raw rest
      (if b = 10 then r.1 else ⟨true, b⟩ :: r.1, r.2.1 + 2, r.2.2)
  | b :: rest =>
    if b = 10 then ([], 1, true)
    else
      let r := takeLine raw rest
      (if b = 0 then r.1 else ⟨false, b⟩ :: r.1, r.2.1 + 1, r.2.2)

/-- Whether a cell separates fields. -/
def separates (separators : Bytes) (c : Cell) : Bool := !c.quoted && separators.contains c.byte

/-- Whether a cell separates fields and is white space. -/
def isGap (separators : Bytes) (c : Cell) : Bool :=
  separates separators c && (c.byte = 32 || c.byte = 9 || c.byte = 10)

/-- The first field of cells, and what follows it. -/
def takeField (separators : Bytes) (cells : List Cell) : List Cell × List Cell :=
  let cells := cells.dropWhile (isGap separators)
  let field := cells.takeWhile fun c => !separates separators c
  let rest := (cells.drop field.length).dropWhile (isGap separators)
  match rest with
  | c :: more =>
    if separates separators c then (field, more.dropWhile (isGap separators)) else (field, rest)
  | [] => (field, [])

/-- What the last of several variables gets: the one field that is left, or all that is left. -/
def lastField (separators : Bytes) (cells : List Cell) : List Cell :=
  let (field, rest) := takeField separators cells
  if rest.isEmpty then field
  else
    ((cells.dropWhile (isGap separators)).reverse.dropWhile (isGap separators)).reverse

/-- Sets variables to the fields of a line. -/
def assignFields (separators : Bytes) : List Bytes → List Cell → Act Unit
  | [], _ => return
  | [name], cells => assign name (Cell.bytes (lastField separators cells))
  | name :: rest, cells => do
    let (field, more) := takeField separators cells
    assign name (Cell.bytes field)
    assignFields separators rest more

/-- Options of the reading command and what follows them: whether backslashes stand for
themselves. -/
def takeReadOptions : List Bytes → Act (Bool × List Bytes)
  | [] => return (false, [])
  | arg :: rest =>
    match arg with
    | [45, 45] => return (false, rest)
    | [45, 114] => do
      let r ← takeReadOptions rest
      return (true, r.2)
    | [45, 112] => do
      match rest with
      | [] => fail (utf8 "No arg for -p option")
      | _ :: rest => takeReadOptions rest
    | 45 :: b :: _ => fail (utf8 "Illegal option -" ++ [b])
    | arg => return (false, arg :: rest)

/-- Reads a line into variables. -/
def read (args : List Bytes) : Act Nat := do
  let (raw, names) ← takeReadOptions args
  if names.isEmpty then fail (utf8 "arg count")
  let m ← get
  let (cells, count, ended) := takeLine raw (m.site.readable m.descriptors 0)
  set { m with site := m.site.advance m.descriptors 0 count }
  for name in names do
    checkName name
  assignFields m.separators names cells
  return if ended then 0 else 1

end Testbed.Shell.Duties
