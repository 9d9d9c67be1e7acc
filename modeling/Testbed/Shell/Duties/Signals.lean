import Testbed.Shell.Duties.Arguments
import Testbed.Shell.Signal

/-!
# Commands for signals, processes and the end

A script can do something of its own on a signal, and on its end. Processes in the background have
ended when they are asked about.

* `setTraps`, `kill` and `wait` are about signals and processes;
* `exit`, `leave` and `leaveLoops` end the script, a function or a loop.
-/

namespace Testbed.Shell.Duties

open Host Act

/-! ## Signals and processes -/

/-- Says what is done on signals, or sets it. -/
def setTraps (args : List Bytes) : Act Nat := do
  let (_, args) ← takeOptions [] args
  match args with
  | [] => do
    let traps := (← get).traps
    let sorted := traps.mergeSort fun a b => a.1 ≤ b.1
    for (n, action) in sorted do
      printLine (utf8 "trap -- " ++ quote action ++ 32 :: Signal.label n)
    return 0
  | first :: rest => do
    let alone := rest.isEmpty || (Signal.ofNumber? first).isSome
    let action := if alone || first = [45] then none else some first
    for name in if alone then args else rest do
      match Signal.ofText? name with
      | none => do
        print 2 (utf8 "trap: " ++ name ++ utf8 ": bad trap\n")
        return 1
      | some n =>
        modify fun m =>
          let others := m.traps.filter fun p => p.1 != n
          { m with
            traps :=
              match action with
              | some action => (n, action) :: others
              | none => others }
    return 0

/-- How the command that sends signals is used. -/
def killUsage : Bytes :=
  utf8 "Usage: kill [-s sigspec | -signum | -sigspec] [pid | job]... or\nkill -l [exitstatus]"

/-- Sends a signal to a process, or to one in the background, which has ended already. -/
def sendTo (n : Nat) (target : Bytes) : Act Bool := do
  if target.head? = some 37 then fail (utf8 "No such job: " ++ target)
  let group := target.head? = some 45
  let number ← countOf (if group then target.drop 1 else target)
  let m ← get
  if number = m.process && m.isPart then
    set { m with sent := m.sent ++ [n] }
    return true
  else if number = m.process || number = 0 then
    receive n
    return true
  else if m.jobs.any fun j => j.number == number then
    if !Signal.harmless.contains n then
      let killed (j : Job) : Job :=
        if j.number = number && !j.known then { j with status := .killed n } else j
      set { m with jobs := m.jobs.map killed }
    return true
  else
    warn (utf8 "No such process\n")
    return false

/-- The signal that arguments ask for, and the other arguments. -/
def takeSignal (args : List Bytes) : Act (Nat × List Bytes) := do
  match args with
  | [45, 115] :: name :: rest =>
    match Signal.ofText? name with
    | some n => return (n, rest)
    | none => fail (utf8 "invalid signal number or name: " ++ name)
  | [45, 45] :: rest => return (15, rest)
  | (45 :: b :: more) :: rest =>
    match Signal.ofText? (b :: more) with
    | some n => return (n, rest)
    | none =>
      if b = 115 then
        match Signal.ofText? more with
        | some n => return (n, rest)
        | none => fail (utf8 "invalid signal number or name: " ++ more)
      else fail (utf8 "Illegal option -" ++ [b])
  | args => return (15, args)

/-- Sends a signal to processes. -/
def kill (args : List Bytes) : Act Nat := do
  match args with
  | [] => fail killUsage
  | [45, 108] :: [] => do
    print 1 (utf8 "0\n")
    for n in List.range 31 do
      printLine (Signal.label (n + 1))
    return 0
  | [45, 108] :: code :: _ => do
    let n ← countOf code
    let n := if 128 < n then n - 128 else n
    if 0 < n && n < 32 then
      printLine (Signal.label n)
      return 0
    else fail (utf8 "invalid signal number or exit status: " ++ code)
  | args => do
    let (n, targets) ← takeSignal args
    if targets.isEmpty then fail killUsage
    -- a signal that ends the process leaves nothing to be done
    let mut code := 0
    for target in targets do
      if !(← sendTo n target) then code := 1
    return code

/-- Waits for a process in the background; what is said of its end is said once. -/
def waitFor (number : Nat) : Act Nat := do
  let m ← get
  match m.jobs.find? fun j => j.number == number with
  | none => return 127
  | some job => do
    let known (j : Job) : Job := if j.number = number then { j with known := true } else j
    set { m with jobs := m.jobs.map known }
    if job.known then return job.status.code?.getD (128 + job.status.low) else note job.status

/-- Waits for processes in the background. -/
def wait (args : List Bytes) : Act Nat := do
  if args.isEmpty then
    modify fun m => { m with jobs := m.jobs.map fun j => { j with known := true } }
  let mut code := 0
  for arg in args do
    code ← waitFor (← countOf arg)
  return code

/-! ## Leaving -/

/-- Ends the script. -/
def exit (args : List Bytes) : Act Nat := do
  match args with
  | [] => modify fun m => { m with status := m.leaving.getD m.status }
  | arg :: _ => do
    let n ← countOf arg
    setStatus n
  stop .exits

/-- Ends a function. -/
def leave (args : List Bytes) : Act Nat := do
  match args with
  | [] => pure ()
  | arg :: _ => do
    let n ← countOf arg
    setStatus n
  stop .returns

/-- Ends loops, or starts their next round. -/
def leaveLoops (again : Bool) (args : List Bytes) : Act Nat := do
  let n ← match args with
    | [] => pure 1
    | arg :: _ => do
      let n ← countOf arg
      if n = 0 then fail (utf8 "Illegal number: " ++ arg)
      pure n
  let count := min n (← get).loops
  setStatus 0
  if count = 0 then return 0
  else stop (if again then .repeats count else .leaves count)

end Testbed.Shell.Duties
