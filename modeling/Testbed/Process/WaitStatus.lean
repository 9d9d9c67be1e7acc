/-!
# Wait statuses

When a process ends, its parent gets a 32-bit status. The low seven bits are zero if the process
exited, and then bits 8 to 15 are its exit code. Otherwise they hold the number of the signal that
ended it, and bit 7 says whether it left a core dump. Two further patterns stand for a process
that is stopped or goes on; no process that has ended leaves one.

* `WaitStatus.code?` is the exit code, if there is one;
* `WaitStatus.describe` is the status as text;
* `WaitStatus.exited` and `WaitStatus.killed` are the statuses of the two ways to end.
-/

namespace Testbed

/-- The names of the signals 1 to 31, in order. -/
def signalNames : List String :=
  ["SIGHUP", "SIGINT", "SIGQUIT", "SIGILL", "SIGTRAP", "SIGABRT", "SIGBUS", "SIGFPE", "SIGKILL",
    "SIGUSR1", "SIGSEGV", "SIGUSR2", "SIGPIPE", "SIGALRM", "SIGTERM", "SIGSTKFLT", "SIGCHLD",
    "SIGCONT", "SIGSTOP", "SIGTSTP", "SIGTTIN", "SIGTTOU", "SIGURG", "SIGXCPU", "SIGXFSZ",
    "SIGVTALRM", "SIGPROF", "SIGWINCH", "SIGIO", "SIGPWR", "SIGSYS"]

/-- The name of a signal, if it has one. -/
def signalName? : Nat → Option String
  | 0 => none
  | n + 1 => signalNames[n]?

/-- The status with which the system reports that a process ended. -/
structure WaitStatus where
  bits : UInt32
  deriving DecidableEq, Repr

namespace WaitStatus

/-- The low seven bits: zero for an exit, a signal otherwise. -/
def low (s : WaitStatus) : Nat := s.bits.toNat % 128

/-- Bits 8 to 15. -/
def second (s : WaitStatus) : Nat := s.bits.toNat / 256 % 256

/-- Whether bit 7 is set: the process left a core dump. -/
def dumped (s : WaitStatus) : Bool := s.bits.toNat / 128 % 2 == 1

/-- The code with which the process exited; none if it did not exit. -/
def code? (s : WaitStatus) : Option Nat := if s.low = 0 then some s.second else none

/-- The 32 bits read as a signed number. -/
def signed (s : WaitStatus) : Int :=
  if s.bits.toNat < 2147483648 then s.bits.toNat else (s.bits.toNat : Int) - 4294967296

/-- A signal as it stands in the text of a status: its number, and its name if it has one. -/
def signalText (n : Nat) : String :=
  match signalName? n with
  | some name => toString n ++ " (" ++ name ++ ")"
  | none => toString n

/-- The status as text. -/
def describe (s : WaitStatus) : String :=
  if s.low = 0 then "exit status: " ++ toString s.second
  else if s.low < 127 then
    "signal: " ++ signalText s.low ++ if s.dumped then " (core dumped)" else ""
  else if s.bits.toNat % 256 = 127 then
    "stopped (not terminated) by signal: " ++ signalText s.second
  else if s.bits.toNat = 65535 then "continued (WIFCONTINUED)"
  else
    "unrecognised wait status: " ++ toString s.signed ++ " 0x" ++
      String.ofList (Nat.toDigits 16 s.bits.toNat)

/-- The status of a process that exits with a code; only its low byte counts. -/
def exited (code : Nat) : WaitStatus := ⟨UInt32.ofNat (code % 256 * 256)⟩

/-- The status of a process that a signal ends without a core dump. -/
def killed (signal : Nat) : WaitStatus := ⟨UInt32.ofNat (signal % 128)⟩

end WaitStatus

end Testbed
