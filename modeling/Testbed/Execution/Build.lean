import Testbed.Execution.Failure
import Testbed.Execution.World

/-!
# Building

A build configures the project and then compiles it. Ordinarily a step that fails is only logged
and the next one runs all the same. A strict build ends with the first step that fails.

* `buildStep` runs one step and `build` both.
-/

namespace Testbed

variable {σ τ : Type}

/-- The part of the program that carries out actions, as records name it. -/
def actionTarget : String := "dsrun::cli::commands"

/-- The record of a build step that could not be started. -/
def stepUnlaunchableRecord (e : LaunchError) : Log.Record :=
  ⟨.warn, actionTarget, e.message, []⟩

/-- The record of a build step that failed and is passed over. -/
def stepFailedRecord (step : Invocation) (code : Int) : Log.Record where
  level := .warn
  target := actionTarget
  message := "build step `" ++ step.display ++ "` failed, continuing"
  fields := [⟨"exit_code", .text (toString code)⟩]

/-- The span of a build. -/
def buildSpan (buildDir : Path) (strict : Bool) : Log.Span where
  target := actionTarget
  name := "build"
  fields := [⟨"build_dir", .text (Text.lossy buildDir)⟩, ⟨"strict", .flag strict⟩]

/-- Runs a build step and gives its code; one that cannot be started is logged and has the code
for that. -/
def stepCode (env : Env σ τ) (step : Invocation) (w : World σ τ) : Int × World σ τ :=
  match w.call env step with
  | (.ok code, w) => (code, w)
  | (.error e, w) => (launchFailureCode, w.log env (stepUnlaunchableRecord e))

/-- Runs a build step. Where it fails, a strict build ends and another one logs that and goes
on. -/
def buildStep (env : Env σ τ) (strict : Bool) (step : Invocation) (w : World σ τ) :
    Except RunError Unit × World σ τ :=
  match stepCode env step w with
  | (code, w) =>
    if code = 0 then (.ok (), w)
    else if strict then (.error (.stepFailed step code), w)
    else (.ok (), w.log env (stepFailedRecord step code))

/-- Runs build steps in order, up to the first one that ends the build. -/
def buildSteps (env : Env σ τ) (strict : Bool) :
    List Invocation → World σ τ → Except RunError Unit × World σ τ
  | [], w => (.ok (), w)
  | step :: rest, w =>
    match buildStep env strict step w with
    | (.ok (), w) => buildSteps env strict rest w
    | (.error e, w) => (.error e, w)

/-- Configures the project and compiles it. -/
def build (env : Env σ τ) (t : Toolchain) (buildDir : Path) (strict : Bool) (w : World σ τ) :
    Except RunError Unit × World σ τ :=
  buildSteps (env.within (buildSpan buildDir strict)) strict
    [t.configure buildDir, t.compile buildDir] w

end Testbed
