import Testbed.Host.Search
import Testbed.Shell.Builtin
import Testbed.Shell.Duties.Arguments

/-!
# Commands for the names of commands

A name stands for a word of the language, a text, a function, a command of the shell or a program.

* `describe` says what a name stands for, and `lookUp` whether it stands for anything;
* `nameTexts` and `forgetTexts` make words stand for texts, and for themselves again.
-/

namespace Testbed.Shell.Duties

open Host Act

/-- Where the programs of a script are looked for. -/
def directories (m : Machine) : Bytes := (m.value? (utf8 "PATH")).getD []

/-- The path of the program of a name, if there is one. -/
def programPath? (m : Machine) (name : Bytes) : Option Path :=
  if name.contains slash then
    if isFile m.site.files name then some name else none
  else firstFile? m.site.files (directories m) name

/-- Says what the name of a command stands for; `brief` asks for its path alone. -/
def describe (brief : Bool) (name : Bytes) : Act Nat := do
  let m ← get
  let tell (what : String) : Act Nat := do
    printLine (if brief then name else name ++ utf8 what)
    return 0
  if reservedNames.any fun s => utf8 s == name then tell " is a shell keyword"
  else if (m.functions.lookup name).isSome then tell " is a shell function"
  else
    match Builtin.ofName? name with
    | some b =>
      tell (if b.isSpecial then " is a special shell builtin" else " is a shell builtin")
    | none =>
      match programPath? m name with
      | some path => do
        printLine (if brief then path else name ++ utf8 " is " ++ path)
        return 0
      | none => do
        if !brief then printLine (name ++ utf8 ": not found")
        return 127

/-- Says what names of commands stand for. -/
def describeAll (args : List Bytes) : Act Nat := do
  let mut code := 0
  for arg in args do
    let c ← describe false arg
    if c != 0 then code := c
  return code

/-- Makes words stand for texts, or says what they stand for. -/
def nameTexts (args : List Bytes) : Act Nat := do
  let tell (p : Bytes × Bytes) : Act Unit := printLine (p.1 ++ 61 :: quote p.2)
  let mut code := 0
  if args.isEmpty then
    for p in (← get).aliases do
      tell p
  for arg in args do
    match splitAssignment arg with
    | (name, some text) =>
      modify fun m =>
        { m with aliases := (m.aliases.filter fun p => p.1 != name) ++ [(name, text)] }
    | (name, none) =>
      match (← get).aliases.lookup name with
      | some text => tell (name, text)
      | none => do
        print 2 (utf8 "alias: " ++ name ++ utf8 " not found\n")
        code := 1
  return code

/-- Makes words stand for themselves again. -/
def forgetTexts (args : List Bytes) : Act Nat := do
  let (options, args) ← takeOptions [97] args
  if options.contains 97 then modify fun m => { m with aliases := [] }
  let mut code := 0
  for arg in args do
    let m ← get
    if m.aliases.any fun p => p.1 == arg then
      set { m with aliases := m.aliases.filter fun p => p.1 != arg }
    else
      print 2 (utf8 "unalias: " ++ arg ++ utf8 " not found\n")
      code := 1
  return code

/-- Looks for the programs of names. -/
def lookUp (args : List Bytes) : Act Nat := do
  let (_, names) ← takeOptions (utf8 "rv") args
  let mut code := 0
  for name in names do
    let m ← get
    let known := (m.functions.lookup name).isSome || (Builtin.ofName? name).isSome ||
      (programPath? m name).isSome
    if !known then
      warn (name ++ utf8 ": not found")
      code := 1
  return code

end Testbed.Shell.Duties
