import Testbed.Shell.Duties.Arguments

/-!
# Commands for variables and options

Variables can be marked, made a function's own and removed; options change how the script is
carried out.

* `marked`, `makeLocal` and `unset` are about variables;
* `configure`, `shift` and `getOptions` are about the options and arguments of the script.
-/

namespace Testbed.Shell.Duties

open Host Act

/-! ## Variables -/

/-- Prints variables in order, each after a text. -/
def printVariables (before : Bytes) (keep : Variable → Bool) : Act Unit := do
  let m ← get
  let kept := (m.assigned.filter fun p => keep p.2).mergeSort fun a b => precedes a.1 b.1
  for (name, v) in kept do
    match v.value with
    | some value => printLine (before ++ name ++ 61 :: quote value)
    | none => if !before.isEmpty then printLine (before ++ name)

/-- Gives variables a mark, and values where arguments give them one. -/
def marked (word : String) (keep : Variable → Bool) (mark : Variable → Variable)
    (args : List Bytes) : Act Nat := do
  let (options, args) ← takeOptions [112] args
  if options.contains 112 || args.isEmpty then printVariables (utf8 (word ++ " ")) keep
  else
    for arg in args do
      let (name, value) := splitAssignment arg
      checkName name
      match value with
      | some value => assign name value
      | none => pure ()
      modify fun m =>
        m.put name (some (mark ((m.variableOf? name).getD ⟨none, false, false⟩)))
  return 0

/-- Makes variables a function's own. -/
def makeLocal (args : List Bytes) : Act Nat := do
  if (← get).scopes.isEmpty then fail (utf8 "not in a function")
  for arg in args do
    let (name, value) := splitAssignment arg
    checkName name
    modify fun m =>
      match m.scopes with
      | scope :: outer =>
        if scope.any fun p => p.1 == name then m
        else { m with scopes := ((name, m.variableOf? name) :: scope) :: outer }
      | [] => m
    match value with
    | some value => assign name value
    | none => pure ()
  return 0

/-- Removes variables or functions. -/
def unset (args : List Bytes) : Act Nat := do
  let (options, names) ← takeOptions (utf8 "vf") args
  for name in names do
    if options.contains 102 then
      modify fun m => { m with functions := m.functions.filter fun p => p.1 != name }
    else
      checkName name
      match (← get).variableOf? name with
      | some ⟨_, _, true⟩ => fail (name ++ utf8 ": is read only")
      | some _ => modify fun m => m.put name none
      | none => pure ()
  return 0

/-! ## Options and arguments of the script -/

/-- The long names of the options of a script, and their letters. -/
def optionNames : List (String × UInt8) :=
  [("errexit", 101), ("noglob", 102), ("ignoreeof", 73), ("interactive", 105), ("monitor", 109),
    ("noexec", 110), ("stdin", 115), ("xtrace", 120), ("verbose", 118), ("vi", 86), ("emacs", 69),
    ("noclobber", 67), ("allexport", 97), ("notify", 98), ("nounset", 117), ("privileged", 112)]

/-- Sets an option, or ends it. -/
def setOption (on : Bool) (letter : UInt8) : Act Unit :=
  if optionNames.any fun p => p.2 == letter then
    modify fun m =>
      let others := m.options.filter (· != letter)
      { m with options := if on then others ++ [letter] else others }
  else fail (utf8 "Illegal option " ++ [if on then 45 else 43, letter])

/-- Sets the option of a long name, or ends it. -/
def setNamed (on : Bool) (name : Bytes) : Act Unit := do
  match optionNames.find? fun p => utf8 p.1 == name with
  | some (_, letter) => setOption on letter
  | none => fail (utf8 "Illegal option " ++ (if on then 45 else 43) :: utf8 "o " ++ name)

/-- The long names of options that change nothing. -/
def idleNames : List String := ["nolog", "debug"]

/-- Prints what options are set, or the commands that would set them. -/
def printOptions (asCommands : Bool) : Act Unit := do
  let m ← get
  if !asCommands then printLine (utf8 "Current option settings")
  for (name, on) in optionNames.map (fun p => (p.1, m.has p.2)) ++ idleNames.map (·, false) do
    if asCommands then printLine (utf8 ((if on then "set -o " else "set +o ") ++ name))
    else printLine (utf8 (name.pushn ' ' (16 - name.length) ++ if on then "on" else "off"))

/-- Sets the options of letters, or ends them, and gives the arguments that are left: an `o` takes a
long name from them, or prints all options. -/
def setLetters (on : Bool) : Bytes → List Bytes → Act (List Bytes)
  | [], rest => return rest
  | b :: more, rest => do
    if b = 111 then
      match rest with
      | [] => do
        printOptions (!on)
        setLetters on more rest
      | name :: rest => do
        setNamed on name
        setLetters on more rest
    else do
      setOption on b
      setLetters on more rest

/-- Sets options that arguments ask for, at most so many times, and gives the other arguments; none
if none follow and the arguments of the script stay as they are. -/
def setOptions : Nat → List Bytes → Act (Option (List Bytes))
  | 0, _ => return none
  | _, [] => return none
  | fuel + 1, arg :: rest => do
    match arg with
    | [45, 45] => return some rest
    | [45] => do
      setOption false 120
      return if rest.isEmpty then none else some rest
    | 45 :: letters => do
      let rest ← setLetters true letters rest
      setOptions fuel rest
    | 43 :: letters => do
      let rest ← setLetters false letters rest
      setOptions fuel rest
    | arg => return some (arg :: rest)

/-- Sets options and the arguments of the script, or prints the variables. -/
def configure (args : List Bytes) : Act Nat := do
  if args.isEmpty then printVariables [] fun _ => true
  else
    match ← setOptions (args.length + 1) args with
    | some args => modify fun m => { m with args := args, letters := 0 }
    | none => pure ()
  return 0

/-- Leaves out arguments of the script. -/
def shift (args : List Bytes) : Act Nat := do
  let n ← match args with
    | [] => pure 1
    | arg :: _ => countOf arg
  let m ← get
  if m.args.length < n then fail (utf8 "can't shift that many")
  set { m with args := m.args.drop n }
  return 0

/-- Reads the next option of arguments. -/
def getOptions (args : List Bytes) : Act Nat := do
  match args with
  | form :: name :: args => do
    let m ← get
    let args := if args.isEmpty then m.args else args
    let index := ((m.value? (utf8 "OPTIND")).bind Numeral.count?).getD 1
    if index < 1 then return 1
    let left := ((args[index - 2]?).filter fun _ => 2 ≤ index && 0 < m.letters).map
      fun a => a.drop m.letters
    let finish (index letters : Nat) (value : Bytes) (code : Nat) : Act Nat := do
      assign (utf8 "OPTIND") (Numeral.print index)
      modify fun m => { m with letters := letters }
      assign name value
      return code
    let silent := form.head? = some 58
    let read (index : Nat) (letter : UInt8) (rest : Bytes) : Act Nat := do
      let used := ((args[index - 2]?).getD []).length - rest.length
      match form.dropWhile fun b => b != letter || letter = 58 with
      | [] => do
        if silent then assign (utf8 "OPTARG") [letter]
        else do
          print 2 (utf8 "Illegal option -" ++ [letter, 10])
          modify fun m => m.put (utf8 "OPTARG") none
        finish index used [63] 0
      | _ :: 58 :: _ => do
        if !rest.isEmpty then
          assign (utf8 "OPTARG") rest
          finish index 0 [letter] 0
        else
          match args[index - 1]? with
          | some value => do
            assign (utf8 "OPTARG") value
            finish (index + 1) 0 [letter] 0
          | none => do
            if silent then
              assign (utf8 "OPTARG") [letter]
              finish index 0 [58] 0
            else
              print 2 (utf8 "No arg for -" ++ [letter] ++ utf8 " option\n")
              modify fun m => m.put (utf8 "OPTARG") none
              finish index 0 [63] 0
      | _ => do
        assign (utf8 "OPTARG") []
        finish index used [letter] 0
    match left with
    | some (letter :: rest) => read index letter rest
    | _ =>
      match args[index - 1]? with
      | some [45, 45] => finish (index + 1) 0 [63] 1
      | some (45 :: letter :: rest) => read (index + 1) letter rest
      | _ => finish index 0 [63] 1
  | _ => fail (utf8 "Usage: getopts optstring var [arg...]")

end Testbed.Shell.Duties
