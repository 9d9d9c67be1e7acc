import Testbed.Host.Site
import Testbed.Shell.Script
import Testbed.Shell.Numeral

/-!
# The state of a script

A script runs among other processes, with which it shares files and what they have open. What is
its own are its arguments, variables, functions, options, and what it does on signals.

* `Machine` is the state in which commands are carried out, `Stop` says why a script does not go
  on with the next one, and `Act` is something carried out;
* `Act.warn` and `Act.fail` report what is wrong;
* `Machine.value?` and `Act.assign` read and set variables.
-/

namespace Testbed.Shell

open Host

/-- A variable. -/
structure Variable where
  /-- Its value; none if it only has marks. -/
  value : Option Bytes
  /-- Whether programs that are started get it. -/
  exported : Bool
  /-- Whether it cannot be set any more. -/
  fixed : Bool
  deriving DecidableEq

/-- A process in the background, which has ended. -/
structure Job where
  number : Nat
  status : WaitStatus
  /-- Whether it has been waited for. -/
  known : Bool
  deriving DecidableEq

/-- The state in which commands are carried out. -/
structure Machine where
  site : Site
  descriptors : Descriptors
  /-- The name by which the script was called. -/
  zero : Bytes
  args : List Bytes
  assigned : List (Bytes × Variable)
  functions : List (Bytes × Command)
  /-- The texts that words stand for where a command may start. -/
  aliases : List (Bytes × Bytes)
  /-- The exit code of the last command. -/
  status : Nat
  /-- The exit code of the last script whose output was used in this command. -/
  outputStatus : Nat
  /-- The number of the process. -/
  process : Nat
  /-- The number of the last process in the background. -/
  background : Option Nat
  /-- The processes in the background. -/
  jobs : List Job
  /-- What is done on signals; 0 stands for the end of the script. -/
  traps : List (Nat × Bytes)
  /-- Signals for which something is still to be done. -/
  pending : List Nat
  /-- Whether this process carries out a part of the script only, while that of the script waits. -/
  isPart : Bool
  /-- Signals that parts have sent to the process of the script. -/
  sent : List Nat
  /-- The letters of the options that are set. -/
  options : Bytes
  /-- The permissions that new files do not get. -/
  mask : Nat
  /-- The line of the command that is carried out. -/
  line : Nat
  /-- The command of the shell that is carried out, for messages. -/
  command : Option Bytes
  /-- How many loops there are around. -/
  loops : Nat
  /-- For each function that is carried out, what variables were before it made them its own. -/
  scopes : List (List (Bytes × Option Variable))
  /-- How many letters of the current argument have been read as options. -/
  letters : Nat
  /-- Whether something was printed where nothing can be printed. -/
  lost : Bool
  /-- The exit code that the script had before something is done about its end or a signal. -/
  leaving : Option Nat

/-- Why the next command is not carried out. -/
inductive Stop
  /-- So many loops around it end. -/
  | leaves (count : Nat)
  /-- So many loops around it end, but the last of them starts its next round. -/
  | repeats (count : Nat)
  /-- The function ends. -/
  | returns
  /-- The script ends. -/
  | exits
  /-- The script ends, because of a fault. -/
  | fails
  /-- A signal ends the process. -/
  | dies (signal : Nat)
  deriving DecidableEq

/-- Something that a script does. -/
abbrev Act := ExceptT Stop (StateM Machine)

namespace Machine

/-- Whether the option with a letter is set. -/
def has (m : Machine) (letter : UInt8) : Bool := m.options.contains letter

/-- A variable. -/
def variableOf? (m : Machine) (name : Bytes) : Option Variable := m.assigned.lookup name

/-- The value of a variable. -/
def value? (m : Machine) (name : Bytes) : Option Bytes := (m.variableOf? name).bind (·.value)

/-- The bytes that separate fields. -/
def separators (m : Machine) : Bytes := (m.value? (utf8 "IFS")).getD [32, 9, 10]

/-- The machine with a variable as it is given, or without it. -/
def put (m : Machine) (name : Bytes) (v : Option Variable) : Machine :=
  let others := m.assigned.filter fun p => p.1 != name
  { m with
    assigned :=
      match v with
      | some v => (name, v) :: others
      | none => others }

/-- The variables that programs get. -/
def environment (m : Machine) : List (Bytes × Bytes) :=
  m.assigned.reverse.filterMap fun p =>
    match p.2 with
    | ⟨some value, true, _⟩ => some (p.1, value)
    | _ => none

/-- What the script does on a signal, if it does something of its own. -/
def trap? (m : Machine) (signal : Nat) : Option Bytes := m.traps.lookup signal

/-- The letters of all options, in the order in which they are shown. -/
def optionLetters : Bytes := utf8 "pubaCEVvxsnmiIfe"

/-- Texts joined by single spaces. -/
def joinWords : List Bytes → Bytes
  | [] => []
  | [a] => a
  | a :: rest => a ++ 32 :: joinWords rest

/-- A parameter as one text; none if it is not set. Arguments are joined by the first byte that
separates fields. -/
def parameter? (m : Machine) : Parameter → Option Bytes
  | .argument 0 => some m.zero
  | .argument (n + 1) => m.args[n]?
  | .arguments => joined
  | .joinedArguments => joined
  | .argumentCount => some (Numeral.print m.args.length)
  | .process => some (Numeral.print m.process)
  | .background => m.background.map fun n => Numeral.print n
  | .status => some (Numeral.print m.status)
  | .options => some (optionLetters.filter m.has)
  | .variable name => m.value? name
where
  /-- The arguments as one text. -/
  joined : Option Bytes :=
    if m.args.isEmpty then none
    else some (m.args.intersperse (m.separators.take 1)).flatten

end Machine

namespace Act

/-- Stops. -/
def stop {α : Type} (s : Stop) : Act α := throw s

/-- Prints to a descriptor. -/
def print (d : Nat) (bytes : Bytes) : Act Unit :=
  modify fun m =>
    { m with
      site := m.site.print m.descriptors d bytes
      lost := m.lost || (d = 1 && !bytes.isEmpty && !m.site.isOpen m.descriptors d) }

/-- Sets the exit code. -/
def setStatus (code : Nat) : Act Unit := modify fun m => { m with status := code }

/-- A warning, which says where it comes from. -/
def warn (text : Bytes) : Act Unit := do
  let m ← get
  let command := match m.command with
    | some name => name ++ utf8 ": "
    | none => []
  print 2 (m.zero ++ utf8 ": " ++ Numeral.print m.line ++ utf8 ": " ++ command ++ text ++ [10])

/-- Reports a fault and stops. -/
def fail {α : Type} (text : Bytes) : Act α := do
  warn text
  setStatus 2
  stop .fails

/-- Sets a variable. -/
def assign (name value : Bytes) : Act Unit := do
  let m ← get
  match m.variableOf? name with
  | some v =>
    if v.fixed then fail (name ++ utf8 ": is read only")
    else set ({ m with letters := lettersAfter m }.put name (some { v with value := some value }))
  | none => set (m.put name (some ⟨some value, m.has 97, false⟩))
where
  /-- How many letters have been read, where setting the number of the next option starts over. -/
  lettersAfter (m : Machine) : Nat := if name = utf8 "OPTIND" then 0 else m.letters

/-- Carries something out, and something else after it in any case. -/
def thenAlways {α : Type} (act : Act α) (after : Act Unit) : Act α := do
  let r ← tryCatch (Except.ok <$> act) fun s => pure (Except.error s)
  after
  match r with
  | .ok a => return a
  | .error s => stop s

/-- Carries something out without stopping, and says whether it stopped. -/
def attempt (act : Act Unit) : Act (Option Stop) :=
  tryCatch (act *> pure none) fun s => pure (some s)

end Act

end Testbed.Shell
