import Testbed.Host.Search
import Testbed.Host.Work.Change
import Testbed.Host.Work.Filter
import Testbed.Host.Work.Report
import Testbed.Shell.Call

/-!
# Starting programs

A program is one that the system provides, or a script. The first line of a script names the
program that reads it, which may be a script again.

* `Interpreter` is what such a line says, and `Interpreter.ofContent?` reads it;
* `unfold` follows such lines to a program of the system;
* `Launcher.deep` starts programs, from scripts that start each other at most so deep.
-/

namespace Testbed.Host

open Shell

/-! ## First lines -/

/-- The program that reads a script, and an argument for it. -/
structure Interpreter where
  path : Path
  argument : Option Bytes
  deriving DecidableEq

namespace Interpreter

/-- How many bytes of a file are looked at. -/
def window : Nat := 256

/-- Whether a byte is a blank. -/
def isBlank (b : UInt8) : Bool := b == 32 || b == 9

/-- Whether a byte ends the path of a program. -/
def ends (b : UInt8) : Bool := isBlank b || b == 0

/-- A line without blanks around it. -/
def trim (line : Bytes) : Bytes :=
  ((line.reverse.dropWhile isBlank).reverse).dropWhile isBlank

/-- The first line of a file, without blanks around it; none if it may be cut off within the path of
the program. A short file goes on with zeros. -/
def line? (rest : Bytes) : Option Bytes :=
  if rest.contains 10 then some (trim (rest.takeWhile (· != 10)))
  else if (rest.dropWhile isBlank).any ends then some (trim rest.dropLast)
  else none

/-- What the first line of a file says, if it says something. The path is empty if there is a zero
where it should start. -/
def ofContent? (content : Bytes) : Option Interpreter :=
  let head := content.take window
  match head ++ List.replicate (window - head.length) 0 with
  | 35 :: 33 :: rest =>
    match line? rest with
    | none => none
    | some line =>
      let path := line.takeWhile (!ends ·)
      let after := line.drop path.length
      let argument := (after.dropWhile isBlank).takeWhile (· != 0)
      if line.isEmpty then none
      else some ⟨path, if argument.isEmpty || after.head? = some 0 then none else some argument⟩
  | _ => none

end Interpreter

/-- A program of the system with the arguments that it gets in the end. -/
structure Command where
  tool : Tool
  zero : Bytes
  args : List Bytes

/-- The program that reads a script. An empty path leads to the working directory, which may not
be run. -/
def interpreterAt (fs : FileSystem) (p : Path) : Except SystemError Location :=
  if p.isEmpty then .error .permission else programAt fs p

/-- Follows the first lines of scripts, at most so many, to a program of the system. -/
def unfold (fs : FileSystem) :
    Nat → Path → Location → Bytes → List Bytes → Except SystemError Command
  | 0, _, _, _, _ => .error .tooManyLinks
  | depth + 1, path, l, zero, args =>
    match fs.tree.entryAt l with
    | some (.tool tool) => .ok ⟨tool, zero, args⟩
    | some (.file content true) =>
      match Interpreter.ofContent? content with
      | none => .error .notExecutableFormat
      | some i =>
        match interpreterAt fs i.path with
        | .error e => .error e
        | .ok next => unfold fs depth i.path next i.path (i.argument.toList ++ path :: args)
    | _ => .error .permission

/-- How many files may be looked at before a program of the system is found. -/
def maxUnfold : Nat := 6

/-! ## Programs of the system -/

/-- The work of a program that starts no other one. -/
def workOf : Tool → Work Unit
  | .shell => pure ()
  | .succeed => pure ()
  | .fail => Work.setCode 1
  | .environment => pure ()
  | .baseName => Report.baseName
  | .bracket => Report.test true
  | .changeMode => Change.changeMode
  | .concatenate => Filter.concatenate
  | .copy => Change.copy
  | .count => Filter.count
  | .cut => Filter.cut
  | .directoryName => Report.directoryName
  | .distinct => Filter.distinct
  | .echo => Report.echo
  | .expression => Report.expression
  | .first => Filter.firstPart
  | .search => Filter.search
  | .last => Filter.lastPart
  | .link => Change.link
  | .list => Report.list
  | .makeDirectory => Change.makeDirectory
  | .move => Change.move
  | .printFormatted => Report.printFormatted
  | .readLink => Report.readLink
  | .remove => Change.remove
  | .removeDirectory => Change.removeDirectory
  | .reverse => Filter.reverseBytes
  | .reverseLines => Filter.reverseLines
  | .sequence => Report.sequence
  | .sleep => Report.sleep
  | .sort => Filter.sort
  | .split => Filter.split
  | .test => Report.test false
  | .touch => Change.touch
  | .exchange => Filter.exchange
  | .workingDirectory => Report.workingDirectory

/-- Variables with others set that arguments give, and the arguments after those. -/
def withSettings (environment : List (Bytes × Bytes)) :
    List Bytes → List (Bytes × Bytes) × List Bytes
  | [] => (environment, [])
  | arg :: rest =>
    match Duties.splitAssignment arg with
    | (name, some value) =>
      withSettings ((environment.filter fun p => p.1 != name) ++ [(name, value)]) rest
    | (_, none) => (environment, arg :: rest)

/-- The words of a text: blanks separate them unless they stand in quotes. The first argument is the
quote that is open, the second one the word so far, if there is one. -/
def wordsOf : Option UInt8 → Option Bytes → Bytes → List Bytes
  | _, word, [] => word.toList
  | none, word, b :: rest =>
    if b = 32 || b = 9 then word.toList ++ wordsOf none none rest
    else if b = 34 || b = 39 then wordsOf (some b) (some (word.getD [])) rest
    else wordsOf none (some (word.getD [] ++ [b])) rest
  | some q, word, b :: rest =>
    if b = q then wordsOf none word rest else wordsOf (some q) (some (word.getD [] ++ [b])) rest

/-- Options of the program that runs another one with other variables, at most so many: the
variables that are left, and the arguments after the options, or what is wrong with them. -/
def takeSettings (environment : List (Bytes × Bytes)) :
    Nat → List Bytes → Except Bytes (List (Bytes × Bytes) × List Bytes)
  | 0, args => .ok (environment, args)
  | _, [] => .ok (environment, [])
  | fuel + 1, arg :: rest =>
    match arg, rest with
    | [45, 105], rest => takeSettings [] fuel rest
    | [45], rest => takeSettings [] fuel rest
    | [45, 117], name :: rest => takeSettings (environment.filter fun p => p.1 != name) fuel rest
    | [45, 117], [] => .error (utf8 "option requires an argument -- 'u'")
    | [45, 83], text :: rest => takeSettings environment fuel (wordsOf none none text ++ rest)
    | [45, 83], [] => .error (utf8 "option requires an argument -- 'S'")
    | 45 :: 83 :: text, rest => takeSettings environment fuel (wordsOf none none text ++ rest)
    | [45, 45], rest => .ok (withSettings environment rest)
    | 45 :: 45 :: _, _ => .error (utf8 "unrecognized option " ++ Work.quote arg)
    | 45 :: letter :: _, _ => .error (utf8 "invalid option -- " ++ Work.quote [letter])
    | _, _ => .ok (withSettings environment (arg :: rest))

/-- The exit code for wrong arguments of that program. -/
def settingsFault : Nat := 125

/-- Runs another program with other variables, or prints the variables. -/
def runEnvironment (l : Launcher) (start : Start) (site : Site) : WaitStatus × Site :=
  match takeSettings start.environment (start.args.flatten.length + 1) start.args with
  | .error e =>
    let (_, site) := (Work.misuse e).run start site
    (.exited settingsFault, site)
  | .ok (environment, []) =>
    let text := environment.flatMap fun p => p.1 ++ 61 :: (p.2 ++ [10])
    (.exited 0, site.print start.descriptors 1 text)
  | .ok (environment, name :: args) =>
    let refuse (e : SystemError) (site : Site) : WaitStatus × Site :=
      (.exited (if e = .noEntry then 127 else 126),
        site.print start.descriptors 2
          (start.zero ++ utf8 ": " ++ Work.quote name ++ utf8 (": " ++ e.description) ++ [10]))
    match findProgram site.files name with
    | .error e => refuse e site
    | .ok (path, _) =>
      match l.start path ⟨name, args, environment, start.descriptors⟩ site with
      | (.ok s, site) => (s, site)
      | (.error e, site) => refuse e site

/-- Runs a program of the system. -/
def runTool (l : Launcher) (tool : Tool) (start : Start) (site : Site) : WaitStatus × Site :=
  match tool with
  | .shell => runShell l start site
  | .environment => runEnvironment l start site
  | tool =>
    let (code, site) := (workOf tool).run start site
    (.exited code, site)

/-- Starts what stands at a path, where scripts are read by what `l` starts programs for. -/
def startAt (l : Launcher) (path : Path) (start : Start) (site : Site) :
    Except SystemError WaitStatus × Site :=
  match (programAt site.files path).bind fun place =>
      unfold site.files maxUnfold path place start.zero start.args with
  | .error e => (.error e, site)
  | .ok c =>
    let (s, site) := runTool l c.tool { start with zero := c.zero, args := c.args } site
    (.ok s, site)

/-- What scripts can start, if they start each other at most so deep. -/
def launcher : Nat → Launcher
  | 0 => ⟨fun _ _ site => (.error .argumentsTooLong, site)⟩
  | depth + 1 => ⟨startAt (launcher depth)⟩

/-- How deep scripts may start each other. -/
def maxStarts : Nat := 200

end Testbed.Host
