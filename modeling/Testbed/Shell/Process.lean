import Testbed.Shell.Duties.Names
import Testbed.Shell.Duties.Signals

/-!
# The processes of a script

Programs are started by the host, as processes that share files and what is open. Parts of a script
that run in a process of their own change nothing of it but that.

* `Launcher` is what the host does for a script, and `Place` says what is around a command;
* `apart` carries something out in a process of its own;
* `runProgram` runs the program of a name, and `replaceBy` puts one in the place of the script.
-/

namespace Testbed.Shell

open Host Act

/-- What the host does for a script: it starts what stands at a path, with arguments, variables and
descriptors, and says how it ended, or why it could not be started. -/
structure Launcher where
  start : Path → Start → Site → Except SystemError WaitStatus × Site

/-- What is around a command. -/
structure Place where
  /-- Whether its outcome decides what is carried out next, so that a failure is no fault. -/
  tested : Bool
  /-- Whether nothing is done after it in this process. -/
  last : Bool
  deriving DecidableEq, Repr

namespace Place

/-- Around a command of a script. -/
def ordinary : Place := ⟨false, false⟩

/-- Around a command whose outcome decides what is carried out next. -/
def test (_ : Place) : Place := ⟨true, false⟩

/-- Around a command after which something is left to be done. -/
def inner (p : Place) : Place := { p with last := false }

/-- Around the only command of a process. -/
def alone (p : Place) : Place := { p with last := true }

end Place

/-- How deep commands may be in each other, and how many rounds a loop may take. -/
def maxDepth : Nat := 1000000

/-! ## Processes -/

/-- How a process ends that stops, or comes to the end of what it does. -/
def endingOf (m : Machine) : Option Stop → WaitStatus
  | some (.dies n) => .killed n
  | _ => .exited m.status

/-- The machine of a new process that goes on for a part of a script. -/
def Machine.child (m : Machine) : Machine :=
  { m with
    traps := m.traps.filter fun p => p.2.isEmpty
    pending := []
    isPart := true
    sent := []
    jobs := []
    leaving := none
    site := { m.site with processes := m.site.processes + 1 } }

/-- Carries something out in a process of its own, and says how that ended. Signals that it sends to
the process of the script are kept for that. -/
def apart (act : Act (Option Stop)) : Act WaitStatus := do
  let m ← get
  set m.child
  let stop ← tryCatch act fun s => pure (some s)
  let after ← get
  let site := { after.site with files := { after.site.files with cwd := m.site.files.cwd } }
  set { m with site := site, sent := m.sent ++ after.sent }
  return endingOf after stop

/-- Carries something out with other descriptors. -/
def withDescriptors {α : Type} (ds : Descriptors) (act : Act α) : Act α := do
  let before := (← get).descriptors
  modify fun m => { m with descriptors := ds }
  thenAlways act (modify fun m => { m with descriptors := before })

/-- Opens a new file in the site. -/
def openNew (f : OpenFile) : Act Nat := do
  let m ← get
  let (n, site) := m.site.add f
  set { m with site := site }
  return n

/-! ## Programs -/

/-- What a message says about a program that cannot be started, and its exit code. -/
def startFault (e : SystemError) : String × Nat :=
  match e with
  | .noEntry => ("not found", 127)
  | .notDirectory => ("not found", 127)
  | .nameTooLong => (e.description, 127)
  | .tooManyLinks => (e.description, 127)
  | e => (e.description, 126)

/-- The path of the shell. -/
def shellPath : Path := utf8 "/bin/sh"

/-- Whether a content is no script: its first line, of which only so much is looked at, has a byte
that no text has. -/
def isBinary (content : Bytes) : Bool :=
  ((content.take 128).takeWhile (· != 10)).any fun b =>
    (b < 32 && !(9 ≤ b && b ≤ 15) && b != 27) || b == 127

/-- Starts what stands at a path; a file that is no program may be taken for a script. -/
def launch (l : Launcher) (path : Path) (name : Bytes) (args : List Bytes)
    (environment : List (Bytes × Bytes)) : Act (Except SystemError WaitStatus) := do
  let m ← get
  let cwd := m.site.files.cwd
  let first := l.start path ⟨name, args, environment, m.descriptors⟩ m.site
  let (r, site) :=
    match first.1 with
    | .error .notExecutableFormat =>
      match m.site.content m.descriptors path with
      | .ok (content, _) =>
        if isBinary content then first
        else l.start shellPath ⟨shellPath, path :: args, environment, m.descriptors⟩ first.2
      | .error _ => first
    | _ => first
  set { m with site := { site with files := { site.files with cwd := cwd } } }
  return r

/-- Runs the program of a name. -/
def runProgram (l : Launcher) (place : Place) (name : Bytes) (args : List Bytes)
    (environment : List (Bytes × Bytes)) : Act Unit := do
  let m ← get
  let directories := (environment.lookup (utf8 "PATH")).getD (Duties.directories m)
  let path? :=
    if name.contains slash then some name else firstFile? m.site.files directories name
  match path? with
  | none => do
    warn (name ++ utf8 ": not found")
    setStatus 127
  | some path => do
    match ← launch l path name args environment with
    | .error e => do
      let (text, code) := startFault e
      warn (name ++ utf8 (": " ++ text))
      setStatus code
    | .ok s =>
      if place.last && m.traps.isEmpty then
        match s.code? with
        | some code => setStatus code
        | none => stop (.dies s.low)
      else setStatus (← note s)

/-- Puts a program in the place of the script. -/
def replaceBy (l : Launcher) (name : Bytes) (args : List Bytes)
    (environment : List (Bytes × Bytes)) : Act Unit := do
  runProgram l ⟨false, true⟩ name args environment
  modify fun m => { m with traps := [] }
  stop .exits

end Testbed.Shell
