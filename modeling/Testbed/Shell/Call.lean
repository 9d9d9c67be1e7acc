import Testbed.Shell.Interpreter

/-!
# Calling the shell

The shell is a program that carries out a script: a text among its arguments, a file, or what it
reads. Options of the script may stand before that.

* `Call` is what the arguments ask for, and `Call.read` finds it out;
* `runShell` is the shell as a program.
-/

namespace Testbed.Shell

open Host Act

/-- What the shell is asked to carry out. -/
inductive Call
  /-- A text, with the name of the script. -/
  | text (text zero : Bytes) (args : List Bytes)
  | file (path : Path) (args : List Bytes)
  /-- What is read. -/
  | input (args : List Bytes)
  deriving DecidableEq

namespace Call

/-- Reads options in front of the arguments of the shell, at most so many times. The first part says
whether a text is to be carried out, the second one whether it is what is read. -/
def takeOptions : Nat → List Bytes → Act (Bool × Bool × List Bytes)
  | 0, args => return (false, false, args)
  | _, [] => return (false, false, [])
  | fuel + 1, arg :: rest => do
    match arg with
    | [45] => return (false, false, rest)
    | [45, 45] => return (false, false, rest)
    | 45 :: letters => do
      let rest ← Duties.setLetters true (letters.filter fun b => b != 99 && b != 108) rest
      let (given, read, rest) ← takeOptions fuel rest
      return (given || letters.contains 99, read || letters.contains 115, rest)
    | 43 :: letters => do
      let rest ← Duties.setLetters false letters rest
      takeOptions fuel rest
    | arg => return (false, false, arg :: rest)

/-- What arguments ask for. -/
def read (zero : Bytes) (args : List Bytes) : Act Call := do
  let (given, read, rest) ← takeOptions (args.length + 1) args
  match rest with
  | [] => if given then fail (utf8 "-c requires an argument") else return .input []
  | first :: more =>
    if given then
      match more with
      | [] => return .text first zero []
      | name :: args => return .text first name args
    else if read then return .input rest
    else return .file first more

end Call

/-- The machine of a shell that has just been started. -/
def startMachine (start : Start) (site : Site) : Machine :=
  let given := (start.environment.filter fun p => isName p.1).map fun p =>
    (p.1, (⟨some p.2, true, false⟩ : Variable))
  let own : List (Bytes × Variable) :=
    [(utf8 "IFS", ⟨some [32, 9, 10], false, false⟩),
      (utf8 "OPTIND", ⟨some (utf8 "1"), false, false⟩),
      (utf8 "PPID", ⟨some (Numeral.print (1000 + site.processes)), false, false⟩),
      (utf8 "PS1", ⟨some (utf8 "# "), false, false⟩),
      (utf8 "PS2", ⟨some (utf8 "> "), false, false⟩),
      (utf8 "PS4", ⟨some (utf8 "+ "), false, false⟩)]
  let place := (utf8 "PWD", ⟨some (pathOf site.files.cwd), true, false⟩)
  let own := place :: own
  let assigned := own ++ given.filter fun p => !own.any fun q => q.1 == p.1
  { site := { site with processes := site.processes + 1 }
    descriptors := start.descriptors
    zero := start.zero
    args := start.args
    assigned := assigned
    functions := []
    aliases := []
    status := 0
    outputStatus := 0
    process := 1000 + site.processes + 1
    background := none
    jobs := []
    traps := []
    pending := []
    isPart := false
    sent := []
    options := []
    mask := 18
    line := 0
    command := none
    loops := 0
    scopes := []
    letters := 0
    lost := false
    leaving := none }

/-- Carries out what the shell is asked for. -/
def Call.run (l : Launcher) : Call → Act Unit
  | .text given zero args => do
    modify fun m => { m with zero := zero, args := args }
    runText l maxDepth .ordinary (.ofText given)
  | .file path args => do
    let m ← get
    match m.site.content m.descriptors path with
    | .error e => fail (openFault .outOf path e)
    | .ok (content, site) => do
      set { m with site := site, zero := path, args := args }
      runText l maxDepth .ordinary (.ofFile content)
  | .input args => do
    let m ← get
    let (content, site) := m.site.take m.descriptors 0
    set { m with site := site, args := args }
    runText l maxDepth .ordinary (.ofFile content)

/-- The shell as a program: how it ends, and the site afterwards. -/
def runShell (l : Launcher) (start : Start) (site : Site) : WaitStatus × Site :=
  let act : Act (Option Stop) :=
    process l maxDepth do
      let call ← Call.read start.zero start.args
      call.run l
  match act.run (startMachine start site) with
  | (.ok stop, m) => (endingOf m stop, m.site)
  | (.error stop, m) => (endingOf m (some stop), m.site)

end Testbed.Shell
