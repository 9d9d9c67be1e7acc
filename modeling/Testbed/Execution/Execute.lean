import Testbed.CommandLine.Options
import Testbed.Execution.Action
import Testbed.Text.Quoted

/-!
# Carrying out options

* `execute` logs what is to be done and does it: the action that the options ask for, with the
  toolchain and the layout they describe.
-/

namespace Testbed

variable {σ τ : Type}

/-- The part of the program that carries out options, as records name it. -/
def dispatchTarget : String := "dsrun::cli"

/-- An action as records show it. -/
def Action.text : Action → String
  | .list => "List"
  | .runAll => "RunAll"
  | .runOne name => "RunOne(" ++ Text.quoted name ++ ")"
  | .buildOnly => "BuildOnly"

/-- A layout as records show it. -/
def Layout.text : Layout → String
  | .testBin => "TestBin"
  | .groups groupDir suffix =>
    "Groups \x7b group_dir: " ++ Text.quoted groupDir ++ ", suffix: " ++ Text.quoted suffix ++
      " \x7d"

/-- The record of what is to be done. -/
def dispatchingRecord (action : Action) (layout : Layout) : Log.Record where
  level := .debug
  target := dispatchTarget
  message := "dispatching"
  fields := [⟨"action", .text action.text⟩, ⟨"layout", .text layout.text⟩]

/-- The span of a run. -/
def executeSpan (buildDir : Path) : Log.Span where
  target := dispatchTarget
  name := "execute"
  fields := [⟨"build_dir", .text (Text.lossy buildDir)⟩]

/-- Does what an action says. -/
def perform (env : Env σ τ) (o : Options) (w : World σ τ) : Except RunError Int × World σ τ :=
  let toolchain := o.toolchain env.hostJobs
  match o.action with
  | .list => listTests env o.build o.discoveryLayout w
  | .runAll => runAll env toolchain o.build o.strict w
  | .runOne name => runOne env toolchain o.build o.discoveryLayout name o.strict w
  | .buildOnly => buildOnly env toolchain o.build o.strict w

/-- Carries out options: the result holds the exit code of the run, or why there is none. -/
def execute (env : Env σ τ) (o : Options) (w : World σ τ) : Except RunError Int × World σ τ :=
  let env := env.within (executeSpan o.build)
  perform env o (w.log env (dispatchingRecord o.action o.discoveryLayout))

end Testbed
