import Testbed.Path

/-!
# Where compiled tests live

Two conventions say where in a build directory the compiled tests are. In the first, every entry
of one directory is a test binary and its file name is the name of the test. In the second, every
entry of one directory is a group, and the group's binary is the entry of its `tests` directory
whose name ends in a given suffix.

* `Layout` is the convention and `Layout.root` the directory whose entries are the tests.
-/

namespace Testbed

/-- The convention that maps test names to binaries. -/
inductive Layout
  /-- Every entry of the test directory is a binary. -/
  | testBin
  /-- Every entry of the group directory is a group of tests. -/
  | groups (groupDir suffix : String)
  deriving DecidableEq, Repr

namespace Layout

/-- The directory of a build directory that holds one binary for each test. -/
def testBinDir : String := "test_bin"

/-- The directory that holds the groups, unless another one is named. -/
def defaultGroupDir : String := "src"

/-- The suffix of a group's binary, unless another one is named. -/
def defaultSuffix : String := "gtest"

/-- The directory of a group that holds its binary. -/
def groupTestsDir : String := "tests"

/-- The convention with groups, in the default directory and with the default suffix. -/
def defaultGroups : Layout := .groups defaultGroupDir defaultSuffix

/-- The directory whose entries are the tests or the groups. -/
def root (buildDir : Path) : Layout → Path
  | .testBin => Path.join buildDir (utf8 testBinDir)
  | .groups groupDir _ => Path.join buildDir (utf8 groupDir)

end Layout

end Testbed
