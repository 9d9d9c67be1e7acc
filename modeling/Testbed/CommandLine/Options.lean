import Testbed.Layout
import Testbed.Toolchain

/-!
# Options

What the command line asks for, with a default for everything it does not say.

* `Options` holds all settings of a run;
* `Options.action`, `Options.toolchain` and `Options.discoveryLayout` are what a run makes of them;
* `Options.action_eq_list_iff` and the three after it say which settings lead to which action.
-/

namespace Testbed

/-- The conventions that can be chosen by name. -/
inductive LayoutKind
  | testBin
  | groups
  deriving DecidableEq, Repr

namespace LayoutKind

/-- The name of a convention. -/
def name : LayoutKind → String
  | .testBin => "test-bin"
  | .groups => "groups"

/-- Every convention, in the order in which they are listed. -/
def all : List LayoutKind := [.testBin, .groups]

/-- The convention of a given name. -/
def ofName? (s : String) : Option LayoutKind := all.find? fun k => k.name == s

theorem ofName?_eq_some_iff {s : String} {k : LayoutKind} : ofName? s = some k ↔ s = k.name := by
  constructor
  · intro h
    have := List.find?_some h
    simpa using (beq_iff_eq.mp this).symm
  · rintro rfl
    cases k <;> decide

end LayoutKind

/-- What a run does. -/
inductive Action
  /-- Lists the compiled tests. -/
  | list
  /-- Builds and runs every test. -/
  | runAll
  /-- Builds and runs the test of this name. -/
  | runOne (name : String)
  /-- Builds and does nothing else. -/
  | buildOnly
  deriving DecidableEq, Repr

/-- All settings of a run. -/
structure Options where
  listTests : Bool
  runAll : Bool
  testName : Option String
  build : Path
  sourceDir : Path
  jobs : Option Jobs
  layout : LayoutKind
  groupDir : String
  binarySuffix : String
  strict : Bool
  cmake : Path
  ctest : Path
  deriving DecidableEq

namespace Options

/-- The build directory, unless another one is named. -/
def defaultBuildDir : String := "./build"

/-- The settings of a command line that says nothing. -/
def default : Options where
  listTests := false
  runAll := false
  testName := none
  build := utf8 defaultBuildDir
  sourceDir := Toolchain.defaultSourceDir
  jobs := none
  layout := .testBin
  groupDir := Layout.defaultGroupDir
  binarySuffix := Layout.defaultSuffix
  strict := false
  cmake := Toolchain.defaultCmake
  ctest := Toolchain.defaultCtest

/-- What to do: listing comes before everything else, and running all tests before running one. -/
def action (o : Options) : Action :=
  if o.listTests then .list
  else if o.runAll then .runAll
  else
    match o.testName with
    | some name => .runOne name
    | none => .buildOnly

section

variable {o : Options}

theorem action_eq_list_iff : o.action = .list ↔ o.listTests = true := by
  unfold action
  cases o.listTests <;> cases o.runAll <;> cases o.testName <;> simp

theorem action_eq_runAll_iff : o.action = .runAll ↔ o.listTests = false ∧ o.runAll = true := by
  unfold action
  cases o.listTests <;> cases o.runAll <;> cases o.testName <;> simp

theorem action_eq_runOne_iff {name : String} :
    o.action = .runOne name ↔
      o.listTests = false ∧ o.runAll = false ∧ o.testName = some name := by
  unfold action
  cases o.listTests <;> cases o.runAll <;> cases o.testName <;> simp

theorem action_eq_buildOnly_iff :
    o.action = .buildOnly ↔ o.listTests = false ∧ o.runAll = false ∧ o.testName = none := by
  unfold action
  cases o.listTests <;> cases o.runAll <;> cases o.testName <;> simp

end

/-- The external programs, with the worker count of the host where none is given. -/
def toolchain (hostJobs : Jobs) (o : Options) : Toolchain where
  cmake := o.cmake
  ctest := o.ctest
  sourceDir := o.sourceDir
  jobs := o.jobs.getD hostJobs

/-- Where compiled tests are looked for. -/
def discoveryLayout (o : Options) : Layout :=
  match o.layout with
  | .testBin => .testBin
  | .groups => .groups o.groupDir o.binarySuffix

end Options

end Testbed
