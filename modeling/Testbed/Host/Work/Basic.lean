import Testbed.Host.Site

/-!
# The work of small programs

The programs of the system read their options and their operands, print, complain about what they
cannot do, and go on; a complaint is remembered in the exit code.

* `Work` is what such a program does, with `say`, `complain` and `input`;
* `Arguments` are options and operands, and `Arguments.read` takes them apart.
-/

namespace Testbed.Host

/-- The state of a small program. -/
structure Bench where
  site : Site
  start : Start
  /-- The exit code so far. -/
  code : Nat

/-- What a small program does. -/
abbrev Work := StateM Bench

namespace Work

/-- Prints. -/
def say (bytes : Bytes) : Work Unit :=
  modify fun b => { b with site := b.site.print b.start.descriptors 1 bytes }

/-- Prints a line. -/
def sayLine (bytes : Bytes) : Work Unit := say (bytes ++ [10])

/-- Sets the exit code. -/
def setCode (code : Nat) : Work Unit := modify fun b => { b with code := code }

/-- Complains in the name of the program. -/
def complain (text : Bytes) : Work Unit :=
  modify fun b =>
    { b with
      site := b.site.print b.start.descriptors 2 (b.start.zero ++ utf8 ": " ++ text ++ [10])
      code := max b.code 1 }

/-- Complains about arguments. -/
def misuse (text : Bytes) : Work Unit := do
  complain text
  modify fun b =>
    { b with
      site := b.site.print b.start.descriptors 2
        (utf8 "Try '" ++ b.start.zero ++ utf8 " --help' for more information.\n") }

/-- Reads all that is left of the input. -/
def input : Work Bytes := do
  let b ← get
  let (text, site) := b.site.take b.start.descriptors 0
  set { b with site := site }
  return text

/-- A text in quotes. -/
def quote (text : Bytes) : Bytes := 39 :: (text ++ [39])

/-- What a complaint says about a path that the system refuses. -/
def refusal (text : String) (path : Path) (e : SystemError) : Bytes :=
  utf8 text ++ quote path ++ utf8 (": " ++ e.description)

/-- The content of a file, or of the input in place of a dash. -/
def content (path : Path) : Work (Except SystemError Bytes) := do
  if path = [45] then return .ok (← input)
  else
    let b ← get
    match b.site.content b.start.descriptors path with
    | .error e => return .error e
    | .ok (bytes, site) => do
      set { b with site := site }
      return .ok bytes

/-- Changes the files, unless that is refused. -/
def change (call : FileSystem → Except SystemError FileSystem) :
    Work (Option SystemError) := do
  let b ← get
  match call b.site.files with
  | .error e => return some e
  | .ok files => do
    set { b with site := { b.site with files := files } }
    return none

/-- The files. -/
def files : Work FileSystem := do return (← get).site.files

/-- Carries out the work of a program. -/
def run (w : Work Unit) (start : Start) (site : Site) : Nat × Site :=
  let b := (StateT.run w ⟨site, start, 0⟩).2
  (b.code, b.site)

end Work

/-! ## Arguments -/

/-- Options, each with its value if it takes one, and operands. -/
structure Arguments where
  options : List (UInt8 × Bytes)
  operands : List Bytes

namespace Arguments

/-- Whether an option is given. -/
def has (a : Arguments) (letter : UInt8) : Bool := a.options.any fun o => o.1 == letter

/-- The value of the last option with a letter. -/
def value? (a : Arguments) (letter : UInt8) : Option Bytes :=
  (a.options.reverse.find? fun o => o.1 == letter).map Prod.snd

/-- The options that programs know. -/
structure Known where
  /-- The letters of options without a value. -/
  plain : Bytes
  /-- The letters of options with a value. -/
  valued : Bytes
  /-- The long names of options, and the letters for which they stand. -/
  long : List (String × UInt8)

/-- Reads letters after a dash; the first part is the one that takes the next argument as its value,
if there is one. -/
def readLetters (k : Known) : Bytes → Except Bytes (Option UInt8 × List (UInt8 × Bytes))
  | [] => .ok (none, [])
  | letter :: rest =>
    if k.plain.contains letter then
      (readLetters k rest).map fun r => (r.1, (letter, []) :: r.2)
    else if k.valued.contains letter then
      if rest.isEmpty then .ok (some letter, []) else .ok (none, [(letter, rest)])
    else .error (utf8 "invalid option -- " ++ Work.quote [letter])

/-- Takes options and operands apart; two dashes end the options. -/
def read (k : Known) : List Bytes → Except Bytes Arguments
  | [] => .ok ⟨[], []⟩
  | arg :: rest =>
    match arg with
    | [45, 45] => .ok ⟨[], rest⟩
    | 45 :: 45 :: long =>
      let name := long.takeWhile (· != 61)
      match k.long.find? fun p => utf8 p.1 == name with
      | some (_, letter) =>
        (read k rest).map fun a =>
          { a with options := (letter, (long.dropWhile (· != 61)).drop 1) :: a.options }
      | none => .error (utf8 "unrecognized option " ++ Work.quote (45 :: 45 :: name))
    | 45 :: first :: letters =>
      match readLetters k (first :: letters) with
      | .error e => .error e
      | .ok (none, options) =>
        (read k rest).map fun a => { a with options := options ++ a.options }
      | .ok (some letter, options) =>
        match rest with
        | [] => .error (utf8 "option requires an argument -- " ++ Work.quote [letter])
        | value :: rest =>
          (read k rest).map fun a =>
            { a with options := options ++ (letter, value) :: a.options }
    | arg => (read k rest).map fun a => { a with operands := arg :: a.operands }

end Arguments

namespace Work

/-- Reads the arguments of a program and goes on with them. -/
def withArguments (k : Arguments.Known) (work : Arguments → Work Unit) : Work Unit := do
  match Arguments.read k (← get).start.args with
  | .error e => misuse e
  | .ok a => work a

/-- Reads the arguments of a program that has an exit code of its own for wrong ones, and goes on
with them. -/
def withArgumentsOr (code : Nat) (k : Arguments.Known) (work : Arguments → Work Unit) :
    Work Unit := do
  match Arguments.read k (← get).start.args with
  | .error e => do
    misuse e
    setCode code
  | .ok a => work a

/-- Complains that there are no operands, or goes on. -/
def needing (count : Nat) (what : String) (a : Arguments) (work : Work Unit) : Work Unit :=
  if a.operands.length < count then
    let missing (what : String) : String :=
      "missing " ++ (if what.isEmpty then "" else what ++ " ") ++ "operand"
    match a.operands.getLast? with
    | none => misuse (utf8 (missing (if count < 2 then what else "file")))
    | some last => misuse (utf8 (missing what ++ " after ") ++ quote last)
  else work

end Work

end Testbed.Host
