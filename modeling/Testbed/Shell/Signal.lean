import Testbed.Shell.Machine

/-!
# Signals in scripts

A script can send signals, most of all to itself, and say what is to be done on one. A signal about
which it says nothing ends it, apart from a few that do nothing.

* `Signal.ofText?` reads the name or the number of a signal, and `Signal.label` says its name;
* `Signal.ending` is what is said of a process that a signal ended;
* `Act.receive` is what happens to a script that gets a signal, and `Act.receiveSent` to one that
  gets those of its parts.
-/

namespace Testbed.Shell

namespace Signal

/-- How many signals there are, counted from 0. -/
def count : Nat := 65

/-- The name of a signal as scripts write it; 0 stands for the end of the script. -/
def label (n : Nat) : Bytes :=
  if n = 0 then utf8 "EXIT"
  else
    match signalName? n with
    | some name => (utf8 name).drop 3
    | none => Numeral.print n

/-- A letter as a capital. -/
def capital (b : UInt8) : UInt8 := if 97 ≤ b && b ≤ 122 then b - 32 else b

/-- The signal of a number. -/
def ofNumber? (text : Bytes) : Option Nat :=
  if !text.isEmpty && text.all fun b => 48 ≤ b && b ≤ 57 then
    (Numeral.count? text).filter (· < count)
  else none

/-- The signal of a name or a number. -/
def ofText? (text : Bytes) : Option Nat :=
  (ofNumber? text).or
    ((List.range 32).find? fun n => label n == text.map capital)

/-- The signals that do not end a process unless it asks for them. -/
def harmless : List Nat := [0, 17, 18, 19, 20, 21, 22, 23, 28]

/-- What is said of a process that a signal ended. -/
def ending (n : Nat) : String :=
  match n with
  | 1 => "Hangup"
  | 3 => "Quit"
  | 4 => "Illegal instruction"
  | 5 => "Trace/breakpoint trap"
  | 6 => "Aborted"
  | 7 => "Bus error"
  | 8 => "Floating point exception"
  | 9 => "Killed"
  | 10 => "User defined signal 1"
  | 11 => "Segmentation fault"
  | 12 => "User defined signal 2"
  | 14 => "Alarm clock"
  | 15 => "Terminated"
  | 16 => "Stack fault"
  | 24 => "CPU time limit exceeded"
  | 25 => "File size limit exceeded"
  | 26 => "Virtual timer expired"
  | 27 => "Profiling timer expired"
  | 29 => "I/O possible"
  | 30 => "Power failure"
  | 31 => "Bad system call"
  | n => "Real-time signal " ++ toString (n - 34)

/-- The signals about which nothing is said. -/
def silent : List Nat := [2, 13]

end Signal

namespace Act

/-- The script gets a signal. Nothing can be done about the one that always ends a process. -/
def receive (n : Nat) : Act Unit := do
  let m ← get
  match if n = 9 then none else m.trap? n with
  | some action =>
    if n != 0 && !action.isEmpty then set { m with pending := m.pending ++ [n] }
  | none => if !Signal.harmless.contains n then stop (.dies n)

/-- The script gets the signals that its parts have sent, which go on nevertheless. -/
def receiveSent : Act Unit := do
  let m ← get
  if !m.isPart then
    set { m with sent := [] }
    m.sent.forM receive

/-- The exit code by which a script knows how a process ended, after what is said of it. -/
def note (s : WaitStatus) : Act Nat := do
  match s.code? with
  | some code => return code
  | none => do
    if !Signal.silent.contains s.low then print 2 (utf8 (Signal.ending s.low) ++ [10])
    return 128 + s.low

end Act

end Testbed.Shell
