import Testbed.CommandLine.Options

/-!
# The vocabulary of the command line

Flags stand alone, valued options take a value, and two more words ask for information. Each has
a long name, and some have a letter.

* `Flag` and `Valued` are the options that set something, and `Key` covers both;
* `Word` is anything that can be named, and `Word.ofLong?` and `Word.ofLetter?` look names up;
* `Setting` is an option with its value, checked and typed.
-/

namespace Testbed.CommandLine

/-- The options that take no value. -/
inductive Flag
  | listTests
  | runAll
  | strict
  deriving DecidableEq, Repr

/-- The options that take a value. -/
inductive Valued
  | testName
  | build
  | sourceDir
  | jobs
  | layout
  | groupDir
  | binarySuffix
  | cmake
  | ctest
  deriving DecidableEq, Repr

/-- An option that sets something. -/
inductive Key
  | flag (f : Flag)
  | valued (v : Valued)
  deriving DecidableEq, Repr

/-- Whatever can be named on the command line. -/
inductive Word
  | key (k : Key)
  | help
  | version
  deriving DecidableEq, Repr

namespace Key

/-- Every option. -/
def all : List Key :=
  [.flag .listTests, .flag .runAll, .valued .testName, .valued .build, .valued .sourceDir,
    .valued .jobs, .valued .layout, .valued .groupDir, .valued .binarySuffix, .flag .strict,
    .valued .cmake, .valued .ctest]

/-- The long name of an option, without the dashes before it. -/
def long : Key → String
  | .flag .listTests => "list-tests"
  | .flag .runAll => "run-all"
  | .flag .strict => "strict"
  | .valued .testName => "test-name"
  | .valued .build => "build"
  | .valued .sourceDir => "source-dir"
  | .valued .jobs => "jobs"
  | .valued .layout => "layout"
  | .valued .groupDir => "group-dir"
  | .valued .binarySuffix => "binary-suffix"
  | .valued .cmake => "cmake"
  | .valued .ctest => "ctest"

/-- The letter of an option, if it has one. -/
def letter? : Key → Option Char
  | .flag .listTests => some 'l'
  | .flag .runAll => some 'r'
  | .valued .testName => some 't'
  | .valued .build => some 'b'
  | .valued .sourceDir => some 'S'
  | .valued .jobs => some 'j'
  | _ => none

/-- How messages show the value of an option. -/
def placeholder : Valued → String
  | .testName => " <NAME>"
  | .build => " [<PATH>]"
  | .sourceDir => " <PATH>"
  | .jobs => " <N>"
  | .layout => " <LAYOUT>"
  | .groupDir => " <NAME>"
  | .binarySuffix => " <SUFFIX>"
  | .cmake => " <PROGRAM>"
  | .ctest => " <PROGRAM>"

/-- How messages show an option. -/
def shown (k : Key) : String :=
  "--" ++ k.long ++
    match k with
    | .flag _ => ""
    | .valued v => placeholder v

end Key

namespace Word

/-- Whatever can be named. -/
def all : List Word := Key.all.map .key ++ [.help, .version]

/-- The long name of a word, without the dashes before it. -/
def long : Word → String
  | .key k => k.long
  | .help => "help"
  | .version => "version"

/-- The letter of a word, if it has one. -/
def letter? : Word → Option Char
  | .key k => k.letter?
  | .help => some 'h'
  | .version => some 'V'

/-- How messages show a word. -/
def shown : Word → String
  | .key k => k.shown
  | .help => "--help"
  | .version => "--version"

/-- The word with a given long name. -/
def ofLong? (name : Bytes) : Option Word := all.find? fun w => utf8 w.long == name

/-- The word with a given letter. -/
def ofLetter? (b : UInt8) : Option Word :=
  all.find? fun w =>
    match w.letter? with
    | some c => c.toNat == b.toNat
    | none => false

end Word

/-- An option with its value. -/
inductive Setting
  | flag (f : Flag)
  | testName (name : String)
  | build (path : Path)
  | sourceDir (path : Path)
  | jobs (count : Jobs)
  | layout (kind : LayoutKind)
  | groupDir (name : String)
  | binarySuffix (suffix : String)
  | cmake (program : Path)
  | ctest (program : Path)
  deriving DecidableEq

namespace Setting

/-- The option that a setting sets. -/
def key : Setting → Key
  | .flag f => .flag f
  | .testName _ => .valued .testName
  | .build _ => .valued .build
  | .sourceDir _ => .valued .sourceDir
  | .jobs _ => .valued .jobs
  | .layout _ => .valued .layout
  | .groupDir _ => .valued .groupDir
  | .binarySuffix _ => .valued .binarySuffix
  | .cmake _ => .valued .cmake
  | .ctest _ => .valued .ctest

/-- The options with one setting changed. -/
def applyTo (o : Options) : Setting → Options
  | .flag .listTests => { o with listTests := true }
  | .flag .runAll => { o with runAll := true }
  | .flag .strict => { o with strict := true }
  | .testName name => { o with testName := some name }
  | .build path => { o with build := path }
  | .sourceDir path => { o with sourceDir := path }
  | .jobs count => { o with jobs := some count }
  | .layout kind => { o with layout := kind }
  | .groupDir name => { o with groupDir := name }
  | .binarySuffix suffix => { o with binarySuffix := suffix }
  | .cmake program => { o with cmake := program }
  | .ctest program => { o with ctest := program }

/-- The options that settings amount to. -/
def toOptions (settings : List Setting) : Options := settings.foldl applyTo Options.default

end Setting

end Testbed.CommandLine
