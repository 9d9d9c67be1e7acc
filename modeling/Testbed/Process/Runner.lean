import Testbed.FileSystem.Walk
import Testbed.Log.Record
import Testbed.Process.Invocation
import Testbed.Process.WaitStatus
import Testbed.SystemError

/-!
# Running children

A runner starts a child, waits for it and answers with its exit code. Nothing is assumed about a
runner: it may keep a state of its own, change the files, print and log, and answer as it likes.

* `Runner` is anything that answers invocations, and `LaunchError` says why a child did not start;
* `exitCode` turns a wait status into an exit code;
* `Children.runner` runs real children: it logs each start, and each end without an exit code.
-/

namespace Testbed

/-- The code that stands for a child that could not be started. -/
def launchFailureCode : Int := 127

/-- Why a child could not be started. -/
inductive LaunchCause
  | system (e : SystemError)
  /-- The program or an argument holds the byte that ends a string. -/
  | nulByte
  | other (reason : String)
  deriving DecidableEq

/-- The text of each cause. -/
def LaunchCause.message : LaunchCause → String
  | .system e => e.message
  | .nulByte => "nul byte found in provided data"
  | .other reason => reason

/-- A child that could not be started. -/
structure LaunchError where
  program : Bytes
  cause : LaunchCause
  deriving DecidableEq

/-- The text of the error. -/
def LaunchError.message (e : LaunchError) : String :=
  "failed to launch `" ++ Text.lossy e.program ++ "`: " ++ e.cause.message

/-- Where a process prints. -/
inductive Stream
  | output
  | errors
  deriving DecidableEq, Repr

/-- What is seen of a child while it is run. -/
inductive Activity
  | logged (record : Log.Record)
  | printed (stream : Stream) (bytes : Bytes)
  deriving DecidableEq

/-- What a call of a runner leaves behind. -/
structure Reply (σ : Type) where
  /-- The exit code, or why there is none. -/
  answer : Except LaunchError Int
  /-- What was seen meanwhile, in order. -/
  activity : List Activity
  /-- The state of the runner afterwards. -/
  state : σ
  /-- The files afterwards. -/
  files : FileSystem

/-- Something that runs children and keeps a state of type `σ`. -/
structure Runner (σ : Type) where
  call : Invocation → σ → FileSystem → Reply σ

/-! ## Real children -/

/-- The record of a child that ended without an exit code. -/
def endedRecord (s : WaitStatus) : Log.Record where
  level := .warn
  target := "dsrun::process"
  message := "child terminated without an exit code"
  fields := [⟨"status", .text s.describe⟩]

/-- The record of a child that is about to be started. -/
def spawningRecord (i : Invocation) : Log.Record where
  level := .debug
  target := "dsrun::process"
  message := "spawning"
  fields := [⟨"command", .text i.display⟩]

/-- The exit code for a wait status: that of a process that exited, and 1 for another one. -/
def exitCode (s : WaitStatus) : Int :=
  match s.code? with
  | some code => code
  | none => 1

/-- What is logged about a wait status: one warning if the process did not exit. -/
def endRecords (s : WaitStatus) : List Log.Record :=
  match s.code? with
  | some _ => []
  | none => [endedRecord s]

/-- What becomes of a child that is to be started. -/
structure Spawned (σ : Type) where
  /-- How it ended, or why it did not start. -/
  outcome : Except LaunchCause WaitStatus
  /-- What it printed, in order. -/
  printed : List (Stream × Bytes)
  state : σ
  files : FileSystem

/-- How children behave that share a state of type `σ`. -/
structure Children (σ : Type) where
  spawn : Invocation → σ → FileSystem → Spawned σ

namespace Children

/-- What is seen of a child: the record of its start, what it prints, the record of its end. -/
def activity {σ : Type} (i : Invocation) (child : Spawned σ) : List Activity :=
  .logged (spawningRecord i) :: (child.printed.map fun p => .printed p.1 p.2) ++
    match child.outcome with
    | .ok s => (endRecords s).map .logged
    | .error _ => []

/-- The runner that starts real children and waits for them. -/
def runner {σ : Type} (c : Children σ) : Runner σ where
  call i state files :=
    let child := c.spawn i state files
    { answer :=
        match child.outcome with
        | .ok s => .ok (exitCode s)
        | .error cause => .error ⟨i.program, cause⟩
      activity := activity i child
      state := child.state
      files := child.files }

end Children

end Testbed
