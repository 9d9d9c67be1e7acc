import Testbed.CommandLine.Reader
import Testbed.Execution.Execute
import Testbed.Log.Filter

/-!
# The program

The program reads its command line, carries it out with real children, and ends with a status.
What its children print and what it prints itself stand in one order on each of its two streams.

* `Program.run` is the whole program: its status, what it prints, and the files it leaves.

Of what the program says about a faulty command line, the first paragraph is modelled: the cause of
the fault. The line on usage and the hint that stand below it are left out.
-/

namespace Testbed.Program

/-- What a run of the program leaves behind. -/
structure Outcome (σ : Type) where
  /-- The exit status, as the system reports it. -/
  status : Nat
  output : Bytes
  /-- What stands on standard error, up to the first empty line if the command line is faulty. -/
  errors : Bytes
  files : FileSystem
  /-- The state of the children afterwards. -/
  children : σ
  history : List Event

/-- The status with which a process ends that exits with a code: the low byte. -/
def statusOf (code : Int) : Nat := (code % 256).toNat

/-- What an event shows on standard output. -/
def shownOutput : Event → Bytes
  | .wrote bytes => bytes
  | .printed .output bytes => bytes
  | _ => []

/-- What an event shows on standard error, where a filter says which records are shown. -/
def shownErrors (filter : Log.Filter) : Event → Bytes
  | .printed .errors bytes => bytes
  | .logged spans record =>
    match filter.line? spans record with
    | some line => lineOf line
    | none => []
  | _ => []

/-- The exit code of a result. -/
def codeOf : Except RunError Int → Int
  | .ok code => code
  | .error e => e.failure.exitCode

/-- What a result says on standard error: the text of an error, on a line, if it has one. -/
def farewell : Except RunError Int → Bytes
  | .ok _ => []
  | .error e => if e.failure.message.isEmpty then [] else lineOf e.failure.message

/-- The outcome of a command line that is not carried out. Where it is faulty, `errors` is only the
first paragraph of what is printed; the line on usage and the hint after it are left out. -/
def declined {σ : Type} (e : CommandLine.UsageError) (files : FileSystem) (children : σ) :
    Outcome σ where
  status := statusOf e.exitCode
  output := if e.isInformation then utf8 (e.messageIn .stream) else []
  errors := if e.isInformation then [] else lineOf (e.messageIn .stream)
  files := files
  children := children
  history := []

/-- The outcome of a command line that is carried out. -/
def carriedOut {σ : Type} (children : Children σ) (hostJobs : Jobs) (filter : Log.Filter)
    (o : Options) (files : FileSystem) (state : σ) : Outcome σ :=
  let env : Env σ (Option Nat) := ⟨children.runner, Sink.unlimited, hostJobs, []⟩
  let (result, w) := execute env o ⟨files, state, none, []⟩
  { status := statusOf (codeOf result)
    output := w.history.flatMap shownOutput
    errors := w.history.flatMap (shownErrors filter) ++ farewell result
    files := w.files
    children := w.runner
    history := w.history }

/-- The whole program. The setting says which records are shown. -/
def run {σ : Type} (children : Children σ) (hostJobs : Jobs) (setting : Option String)
    (args : List Bytes) (files : FileSystem) (state : σ) : Outcome σ :=
  match CommandLine.parse args with
  | .error e => declined e files state
  | .ok o => carriedOut children hostJobs (Log.Filter.ofSetting setting) o files state

end Testbed.Program
