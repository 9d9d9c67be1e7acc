import Testbed.Discovery
import Testbed.Process.Runner

/-!
# How a run fails

A run ends with an exit code or with an error, which has a text for the user and an exit code of
its own.

* `Failure` is a text with an exit code;
* `RunError` lists the causes and `RunError.failure` says how each one is reported.
-/

namespace Testbed

/-- The exit code of success. -/
def successCode : Int := 0

/-- The exit code of a failure that has no code of its own. -/
def failureCode : Int := 1

/-- What the user is told about an error, and the exit code that goes with it. -/
structure Failure where
  message : String
  exitCode : Int
  deriving DecidableEq, Repr

/-- A failure without a code of its own. -/
def Failure.plain (message : String) : Failure := ⟨message, failureCode⟩

/-- What is said where there is nothing to list. -/
def nothingToList : String := "[!] Nothing to list. Please build the project first with --build"

/-- Why a run ends without an exit code. -/
inductive RunError
  /-- No compiled test was found. -/
  | nothingToList
  /-- The output refused a part of the list. -/
  | listRefused (reason : String)
  /-- The output refused the path of the binary or could not be flushed. -/
  | pathRefused (reason : String)
  /-- A build step failed, and nothing else was to be done then. -/
  | stepFailed (step : Invocation) (code : Int)
  /-- The name does not lead to a binary. -/
  | unresolved (e : ResolutionError)
  /-- The child that does the actual work could not be started. -/
  | unlaunchable (e : LaunchError)
  deriving DecidableEq

/-- The failure of a name that does not lead to a binary. -/
def ResolutionError.failure (e : ResolutionError) : Failure := .plain e.message

/-- The failure of a child that could not be started. -/
def LaunchError.failure (e : LaunchError) : Failure := .plain e.message

/-- How an error is reported. -/
def RunError.failure : RunError → Failure
  | .nothingToList => .plain Testbed.nothingToList
  | .listRefused reason => .plain ("Error writing test list: " ++ reason)
  | .pathRefused reason => .plain ("Error writing test path: " ++ reason)
  | .stepFailed step code =>
    ⟨"Build step `" ++ step.display ++ "` failed with exit code " ++ toString code, code⟩
  | .unresolved e => e.failure
  | .unlaunchable e => e.failure

end Testbed
