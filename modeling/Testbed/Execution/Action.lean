import Testbed.Execution.Build

/-!
# Actions

What a run can do: list the tests, run all of them, run one of them, or only build.

* `listTests`, `runAll`, `runOne` and `buildOnly` each end with an exit code or an error.
-/

namespace Testbed

variable {σ τ : Type}

/-- The part of the program that looks for tests, as records name it. -/
def discoveryTarget : String := "dsrun::discovery"

/-- The record of a root that is no directory. -/
def noDirectoryRecord (root : Path) : Log.Record where
  level := .debug
  target := discoveryTarget
  message := "no test directory"
  fields := [⟨"root", .text (Text.lossy root)⟩]

/-- The span of a search for tests. -/
def discoverSpan (buildDir : Path) : Log.Span where
  target := discoveryTarget
  name := "discover"
  fields := [⟨"build_dir", .text (Text.lossy buildDir)⟩]

/-- Logs where a search for tests finds no directory. -/
def logDiscovery (env : Env σ τ) (buildDir : Path) (layout : Layout) (w : World σ τ) :
    World σ τ :=
  if w.files.isDirectory (layout.root buildDir) then w
  else w.log (env.within (discoverSpan buildDir)) (noDirectoryRecord (layout.root buildDir))

/-- A line of output: a text and a newline. -/
def lineOf (text : String) : Bytes := utf8 text ++ [10]

/-- Writes one line for each name, up to the first that the output does not take. -/
def writeNames (env : Env σ τ) : List String → World σ τ → Except RunError Int × World σ τ
  | [], w => (.ok successCode, w)
  | name :: rest, w =>
    match w.write env (lineOf name) with
    | (none, w) => writeNames env rest w
    | (some reason, w) => (.error (.listRefused reason), w)

/-- Writes the names of the compiled tests, one on a line. Nothing is built. -/
def listTests (env : Env σ τ) (buildDir : Path) (layout : Layout) (w : World σ τ) :
    Except RunError Int × World σ τ :=
  let targets := discover w.files buildDir layout
  let w := logDiscovery env buildDir layout w
  if targets.isEmpty then (.error .nothingToList, w)
  else writeNames env (targets.map TestTarget.name) w

/-- Runs the child that does the actual work; its code is that of the run. -/
def launch (env : Env σ τ) (i : Invocation) (w : World σ τ) : Except RunError Int × World σ τ :=
  match w.call env i with
  | (.ok code, w) => (.ok code, w)
  | (.error e, w) => (.error (.unlaunchable e), w)

/-- Builds and then runs every test. -/
def runAll (env : Env σ τ) (t : Toolchain) (buildDir : Path) (strict : Bool) (w : World σ τ) :
    Except RunError Int × World σ τ :=
  match build env t buildDir strict w with
  | (.error e, w) => (.error e, w)
  | (.ok (), w) => launch env (t.testAll buildDir) w

/-- Writes the path of a binary on a line, flushes the output and runs the binary. -/
def announceAndLaunch (env : Env σ τ) (binary : Path) (w : World σ τ) :
    Except RunError Int × World σ τ :=
  match w.write env (lineOf (Text.lossy binary)) with
  | (some reason, w) => (.error (.pathRefused reason), w)
  | (none, w) =>
    match w.flush env with
    | (some reason, w) => (.error (.pathRefused reason), w)
    | (none, w) => launch env ⟨binary, []⟩ w

/-- Builds and then runs the binary of one test, whose path is written first. -/
def runOne (env : Env σ τ) (t : Toolchain) (buildDir : Path) (layout : Layout) (name : String)
    (strict : Bool) (w : World σ τ) : Except RunError Int × World σ τ :=
  match build env t buildDir strict w with
  | (.error e, w) => (.error e, w)
  | (.ok (), w) =>
    match resolve w.files buildDir layout name, logDiscovery env buildDir layout w with
    | .error e, w => (.error (.unresolved e), w)
    | .ok binary, w => announceAndLaunch env binary w

/-- Builds and does nothing else. -/
def buildOnly (env : Env σ τ) (t : Toolchain) (buildDir : Path) (strict : Bool) (w : World σ τ) :
    Except RunError Int × World σ τ :=
  match build env t buildDir strict w with
  | (.error e, w) => (.error e, w)
  | (.ok (), w) => (.ok successCode, w)

end Testbed
