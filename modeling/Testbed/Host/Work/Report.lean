import Testbed.Host.Work.Expression
import Testbed.Host.Work.Lines
import Testbed.Host.Work.Basic
import Testbed.Shell.Condition
import Testbed.Shell.Format

/-!
# Programs that report

These programs print what follows from their arguments and from the files.

* `list`, `readLink` and `workingDirectory` print what stands where;
* `baseName`, `directoryName`, `sequence` and `expression` print parts of paths and numbers;
* `echo`, `printFormatted` and `test` do what the commands of scripts do that have their names.
-/

namespace Testbed.Host.Report

open Work Shell

/-! ## Paths -/

/-- A path without the slashes at its end. -/
def withoutSlashes (path : Path) : Path := (path.reverse.dropWhile (· == slash)).reverse

/-- The last part of a path; a path of slashes is one slash. -/
def lastPart (path : Path) : Bytes :=
  let trimmed := withoutSlashes path
  if trimmed.isEmpty then if path.isEmpty then [] else [slash]
  else (trimmed.reverse.takeWhile (· != slash)).reverse

/-- What stands before the last part of a path. -/
def before (path : Path) : Path :=
  let trimmed := withoutSlashes path
  if trimmed.isEmpty then if path.isEmpty then selfName else [slash]
  else
    let above := trimmed.take (trimmed.length - (lastPart path).length)
    if above.isEmpty then selfName
    else if (withoutSlashes above).isEmpty then [slash]
    else withoutSlashes above

/-- A text without a given end, unless nothing would be left. -/
def withoutEnd (ending text : Bytes) : Bytes :=
  if ending.isSuffixOf text && ending.length < text.length then
    text.take (text.length - ending.length)
  else text

/-- Prints the last part of a path, without an ending if one is given. -/
def baseName : Work Unit :=
  withArguments ⟨utf8 "a", utf8 "s", []⟩ fun a =>
    needing 1 "" a do
      if a.has 97 || a.has 115 then
        for path in a.operands do
          sayLine (withoutEnd ((a.value? 115).getD []) (lastPart path))
      else
        match a.operands with
        | [path] => sayLine (lastPart path)
        | [path, ending] => sayLine (withoutEnd ending (lastPart path))
        | operands => misuse (utf8 "extra operand " ++ quote ((operands[2]?).getD []))

/-- Prints what stands before the last part of paths. -/
def directoryName : Work Unit :=
  withArguments ⟨[], [], []⟩ fun a =>
    needing 1 "" a do
      for path in a.operands do
        sayLine (before path)

/-- Prints the path of the working directory. -/
def workingDirectory : Work Unit :=
  withArguments ⟨utf8 "LP", [], [("logical", 76), ("physical", 80)]⟩ fun _ => do
    sayLine (pathOf (← files).cwd)

/-- Prints what a symbolic link holds. -/
def readLink : Work Unit :=
  withArguments ⟨utf8 "nfe", [], []⟩ fun a =>
    needing 1 "" a do
      for path in a.operands do
        let fs ← files
        if a.has 102 || a.has 101 then
          match fs.find path with
          | .ok (.found l) => sayLine (pathOf l)
          | .ok (.vacant d name) => if a.has 101 then setCode 1 else sayLine (pathOf (name :: d))
          | .error _ => setCode 1
        else
          match (fs.standing path).toOption.bind fs.tree.entryAt with
          | some (.link target) => if a.has 110 then say target else sayLine target
          | _ => setCode 1

/-! ## Listing -/

/-- The names in a directory that are shown, in order. -/
def shownNames (a : Arguments) (fs : FileSystem) (path : Path) : List Bytes :=
  let names := ((fs.list path).toOption.getD []).map FileName.bytes
  let all := if a.has 97 then selfName :: parentName :: names else names
  let shown := if a.has 97 || a.has 65 then all else all.filter fun n => n.head? != some 46
  let sorted := shown.mergeSort precedes
  if a.has 114 then sorted.reverse else sorted

/-- Lists directories and files. -/
def list : Work Unit :=
  withArgumentsOr 2 ⟨utf8 "1aAdrCF", [], []⟩ fun a => do
    let paths := if a.operands.isEmpty then [selfName] else a.operands
    let fs ← files
    for path in paths do
      match (if a.has 100 then fs.standing path else fs.locate path) with
      | .ok _ => pure ()
      | .error e => do
        complain (refusal "cannot access " path e)
        setCode 2
    let there := (paths.filter fun p => (fs.standing p).isOk).mergeSort precedes
    let isShownInside (p : Path) : Bool := fs.isDirectory p && !a.has 100
    let plain := there.filter fun p => !isShownInside p
    let directories := there.filter isShownInside
    say (Lines.join plain)
    let titled := 1 < paths.length
    let mut first := plain.isEmpty
    for path in directories do
      if !first then say [10]
      if titled then sayLine (path ++ [58])
      say (Lines.join (shownNames a fs path))
      first := false

/-! ## Numbers -/

/-- The numbers from one to another by a step, at most so many. -/
def numbers (step last : Int) : Nat → Int → List Int
  | 0, _ => []
  | count + 1, n =>
    if (0 < step && last < n) || (step < 0 && n < last) || step = 0 then []
    else n :: numbers step last count (n + step)

/-- A number with zeros up to a width. -/
def padded (width : Nat) (n : Int) : Bytes :=
  let digits := utf8 (toString n.natAbs)
  let sign : Bytes := if n < 0 then [45] else []
  sign ++ List.replicate (width - sign.length - digits.length) 48 ++ digits

/-- Whether an argument is a number, and not an option. -/
def isNumber (text : Bytes) : Bool := (Expression.number? text).isSome

/-- Prints numbers in order. -/
def sequence : Work Unit := do
  let args := (← get).start.args
  let options := args.takeWhile fun t => !isNumber t
  let rest := args.drop options.length
  let attached := if rest.isEmpty then options else options ++ utf8 "--" :: rest
  match Arguments.read ⟨utf8 "w", utf8 "s", []⟩ attached with
  | .error e => misuse e
  | .ok a =>
    match a.operands.find? fun t => !isNumber t with
    | some t => misuse (utf8 "invalid floating point argument: " ++ quote t)
    | none =>
      let values := a.operands.filterMap Expression.number?
      let (start, step, last) : Int × Int × Int :=
        match values with
        | [last] => (1, 1, last)
        | [start, last] => (start, 1, last)
        | start :: step :: last :: _ => (start, step, last)
        | [] => (1, 1, 0)
      if values.isEmpty then misuse (utf8 "missing operand")
      else
        let all := numbers step last (last - start).natAbs.succ start
        let width := (all.map fun n => (toString n).length).foldl max 0
        let shown := all.map fun n => if a.has 119 then padded width n else padded 0 n
        let separator := (a.value? 115).getD [10]
        if !shown.isEmpty then say ((shown.intersperse separator).flatten ++ [10])

/-- Prints the value of an expression. -/
def expression : Work Unit := do
  let args := (← get).start.args
  let args := if args.head? = some (utf8 "--") then args.tail else args
  if args.isEmpty then
    misuse (utf8 "missing operand")
    setCode 2
  else
    match Expression.evaluate args with
    | .error e => do
      complain e.message
      setCode 2
    | .ok value => do
      sayLine value
      setCode (if Expression.isNull value then 1 else 0)

/-- Whether a text is a time: a number, and perhaps a letter for its unit. -/
def isTime (text : Bytes) : Bool :=
  let isDigit (b : UInt8) : Bool := 48 ≤ b && b ≤ 57
  let unit := (text.getLast?.map (utf8 "smhd").contains).getD false
  let number := if unit then text.dropLast else text
  number.any isDigit && number.all (fun b => isDigit b || b == 46) && number.count 46 ≤ 1

/-- Waits, which takes no time here. -/
def sleep : Work Unit :=
  withArguments ⟨[], [], []⟩ fun a =>
    needing 1 "" a do
      let wrong := a.operands.filter fun t => !isTime t
      match wrong.reverse with
      | [] => pure ()
      | last :: others => do
        for t in others.reverse do
          complain (utf8 "invalid time interval " ++ quote t)
        misuse (utf8 "invalid time interval " ++ quote last)

/-! ## Commands of scripts -/

/-- Prints the arguments; escapes are only read if that is asked for. -/
def echo : Work Unit := do
  let args := (← get).start.args
  let isOption (t : Bytes) : Bool :=
    t.head? = some 45 && 1 < t.length && t.tail.all fun b => b = 110 || b = 101 || b = 69
  let options := (args.takeWhile isOption).flatten
  let words := args.dropWhile isOption
  let newline := !options.contains 110
  if options.contains 101 then say (Escape.texts newline words)
  else say ((words.intersperse [32]).flatten ++ if newline then [10] else [])

/-- Prints the arguments by a format. -/
def printFormatted : Work Unit := do
  match (← get).start.args with
  | [] => misuse (utf8 "missing operand")
  | form :: args => do
    let r := Format.print form args
    say r.printed
    for w in r.warnings do
      complain w
    match r.fault with
    | some message => complain message
    | none => pure ()

/-- Decides a condition; in brackets, the last argument has to close them. -/
def test (bracketed : Bool) : Work Unit := do
  let b ← get
  let args := b.start.args
  if bracketed && args.getLast? != some [93] then
    complain (utf8 "missing ']'")
    setCode 2
  else
    match Condition.holds b.site (if bracketed then args.dropLast else args) with
    | .ok r => setCode (if r then 0 else 1)
    | .error e => do
      complain e
      setCode 2

end Testbed.Host.Report
