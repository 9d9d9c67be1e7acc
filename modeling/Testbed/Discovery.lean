import Testbed.FileSystem.Walk
import Testbed.Layout
import Testbed.Text.Utf8

/-!
# Finding compiled tests

Compiled tests are found by directory convention alone, and looked for afresh each time, so that
what a build has just made is seen.

* `discover` lists the tests below a build directory;
* `resolve` gives the binary that runs one of them, or a `ResolutionError`.
-/

namespace Testbed

/-- A test or a group of tests that was found. -/
structure TestTarget where
  /-- The file name as text. -/
  name : String
  /-- The binary itself, or the directory of the group. -/
  path : Path
  deriving DecidableEq

/-- Why a name does not lead to a binary. -/
inductive ResolutionError
  /-- No test has this name. -/
  | notFound (name : String)
  /-- The group has no binary with this suffix in this directory. -/
  | missingBinary (directory : Path) (suffix : String)
  deriving DecidableEq

/-- The text of each cause. -/
def ResolutionError.message : ResolutionError → String
  | .notFound name =>
    "Could not find the test name you supplied (" ++ name ++
      "). Use the --list-tests to see all available tests"
  | .missingBinary directory suffix =>
    "Could not find a `*" ++ suffix ++ "` test binary in " ++ Text.lossy directory

/-- Whether a name is one of those that are no groups: it starts with a dot. -/
def isHidden (name : String) : Bool := name.toList.head? == some '.'

/-- The test that an entry of the root stands for, if it stands for one. -/
def target? (root : Path) (layout : Layout) (entry : FileName) : Option TestTarget :=
  let name := Text.lossy entry.bytes
  match layout with
  | .testBin => some ⟨name, Path.join root entry.bytes⟩
  | .groups _ _ => if isHidden name then none else some ⟨name, Path.join root entry.bytes⟩

/-- Every test below a build directory, in enumeration order; none if there is no directory at
the root of the layout. -/
def discover (fs : FileSystem) (buildDir : Path) (layout : Layout) : List TestTarget :=
  match fs.list (layout.root buildDir) with
  | .ok entries => entries.filterMap (target? (layout.root buildDir) layout)
  | .error _ => []

/-- Whether a file name is text that ends in a suffix. -/
def hasSuffix (suffix : String) (entry : FileName) : Bool :=
  (Text.decode? entry.bytes).isSome && (utf8 suffix).isSuffixOf entry.bytes

/-- The first entry of a directory whose name ends in the suffix. -/
def findBinary (fs : FileSystem) (directory : Path) (suffix : String) :
    Except ResolutionError Path :=
  match fs.list directory with
  | .error _ => .error (.missingBinary directory suffix)
  | .ok entries =>
    match entries.find? (hasSuffix suffix) with
    | none => .error (.missingBinary directory suffix)
    | some entry => .ok (Path.join directory entry.bytes)

/-- The binary that runs the test of a given name: the first target of that name leads to it. -/
def resolve (fs : FileSystem) (buildDir : Path) (layout : Layout) (name : String) :
    Except ResolutionError Path :=
  match (discover fs buildDir layout).find? fun t => t.name == name with
  | none => .error (.notFound name)
  | some target =>
    match layout with
    | .testBin => .ok target.path
    | .groups _ suffix => findBinary fs (Path.join target.path (utf8 Layout.groupTestsDir)) suffix

end Testbed
