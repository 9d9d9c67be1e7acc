import Testbed.Path
import Testbed.Process.Invocation

/-!
# The build system and the test runner

Two external programs do the work: one configures and compiles the project, the other runs all
its tests. This module only writes their command lines.

* `Toolchain` holds the programs and what their command lines share;
* `Toolchain.configure`, `Toolchain.compile` and `Toolchain.testAll` are the three command lines.
-/

namespace Testbed

/-- A worker count: at least one, and at most what 64 bits hold. -/
structure Jobs where
  count : Nat
  positive : 1 ≤ count
  bounded : count ≤ 18446744073709551615
  deriving DecidableEq

/-- The worker count as the children get it: in decimal, without sign or leading zeros. -/
def Jobs.text (j : Jobs) : String := toString j.count

/-- One worker. -/
def Jobs.one : Jobs := ⟨1, by decide, by decide⟩

/-- The external programs and the settings that their command lines share. -/
structure Toolchain where
  cmake : Path
  ctest : Path
  sourceDir : Path
  jobs : Jobs
  deriving DecidableEq

namespace Toolchain

/-- The kind of build that every configure step asks for. -/
def buildType : String := "Debug"

/-- The build system, unless another program is named. -/
def defaultCmake : Path := utf8 "cmake"

/-- The test runner, unless another program is named. -/
def defaultCtest : Path := utf8 "ctest"

/-- The source directory, unless another one is named. -/
def defaultSourceDir : Path := utf8 "."

/-- Prepares the source directory for building in the build directory. -/
def configure (t : Toolchain) (buildDir : Path) : Invocation where
  program := t.cmake
  args := [utf8 ("-DCMAKE_BUILD_TYPE=" ++ buildType), utf8 "-S", t.sourceDir, utf8 "-B", buildDir]

/-- Compiles what was configured in the build directory. -/
def compile (t : Toolchain) (buildDir : Path) : Invocation where
  program := t.cmake
  args := [utf8 "--build", buildDir, utf8 "-j", utf8 t.jobs.text]

/-- Runs every test registered in the build directory. -/
def testAll (t : Toolchain) (buildDir : Path) : Invocation where
  program := t.ctest
  args := [utf8 "-j", utf8 t.jobs.text, utf8 "--test-dir", buildDir]

end Toolchain

end Testbed
