import Testbed.CommandLine.UsageError
import Testbed.Text.Utf8

/-!
# Reading the command line

Arguments are read from left to right. An option whose value would be the next argument stays
open until it is settled: by the next option, or at the end. Only then is its value checked, so
that a word that cannot be understood is reported first. Which options exclude each other is
looked at when all arguments are read.

* `readArgument` reads one argument and `readArguments` all of them;
* `parse` reads a command line into `Options`, or says why it is not carried out.
-/

namespace Testbed.CommandLine

/-- The byte that starts an option. -/
def dash : UInt8 := 45

/-- The byte between an option and the value attached to it. -/
def equals : UInt8 := 61

/-- What has been read so far. -/
structure Progress where
  /-- The settings that are complete, in order. -/
  settings : List Setting
  /-- An option whose value is not attached to it, with the value if it has come. -/
  pending : Option (Valued × Option Bytes)
  deriving DecidableEq

/-- The value of an option that may stand without one. -/
def implied? : Valued → Option Bytes
  | .build => some (utf8 Options.defaultBuildDir)
  | _ => none

/-- A value that is a path, which must not be empty. -/
def readPath (v : Valued) (value : Bytes) : Except UsageError Path :=
  if value.isEmpty then .error (.missingValue v) else .ok value

/-- A value that is text. -/
def readText (value : Bytes) : Except UsageError String :=
  match Text.decode? value with
  | some s => .ok s
  | none => .error .notText

/-- A value that is a worker count. -/
def readJobs (value : Bytes) : Except UsageError Jobs :=
  match Text.decode? value with
  | none => .error .notText
  | some s =>
    match h : Text.readNumber 18446744073709551615 s.toList with
    | .error why => .error (.invalidJobs s why)
    | .ok n =>
      if hn : 1 ≤ n then .ok ⟨n, hn, Text.readNumber_le h⟩ else .error (.invalidJobs s .zero)

/-- A value that is the name of a convention. -/
def readLayout (value : Bytes) : Except UsageError LayoutKind :=
  if value.isEmpty then .error (.missingValue .layout)
  else
    match (Text.decode? value).bind LayoutKind.ofName? with
    | some k => .ok k
    | none => .error (.unknownLayout (Text.lossy value))

/-- An option with its value, if the value is admissible. -/
def checkValue (v : Valued) (value : Bytes) : Except UsageError Setting :=
  match v with
  | .testName => (readText value).map .testName
  | .build => (readPath v value).map .build
  | .sourceDir => (readPath v value).map .sourceDir
  | .jobs => (readJobs value).map .jobs
  | .layout => (readLayout value).map .layout
  | .groupDir => (readText value).map .groupDir
  | .binarySuffix => (readText value).map .binarySuffix
  | .cmake => (readPath v value).map .cmake
  | .ctest => (readPath v value).map .ctest

/-- The settings with one more, unless its option is set already. -/
def add (settings : List Setting) (k : Key) (setting : Except UsageError Setting) :
    Except UsageError (List Setting) :=
  if k ∈ settings.map Setting.key then .error (.repeated k)
  else
    match setting with
    | .ok s => .ok (settings ++ [s])
    | .error e => .error e

/-- The settings, with the option that is still open. -/
def settle (p : Progress) : Except UsageError (List Setting) :=
  match p.pending with
  | none => .ok p.settings
  | some (v, value) =>
    match value.or (implied? v) with
    | none => .error (.missingValue v)
    | some value => add p.settings (.valued v) (checkValue v value)

/-- Goes on with a valued option: with the value attached to it, or open if there is none. -/
def openValued (p : Progress) (v : Valued) (attached : Option Bytes) : Except UsageError Progress :=
  match settle p with
  | .error e => .error e
  | .ok settings =>
    match attached with
    | none => .ok ⟨settings, some (v, none)⟩
    | some value =>
      match add settings (.valued v) (checkValue v value) with
      | .error e => .error e
      | .ok settings => .ok ⟨settings, none⟩

/-- Goes on with a word that takes no value. -/
def meet (p : Progress) (f : Flag) : Except UsageError Progress :=
  match settle p with
  | .error e => .error e
  | .ok settings =>
    match add settings (.flag f) (.ok (.flag f)) with
    | .error e => .error e
    | .ok settings => .ok ⟨settings, none⟩

/-- Ends with information, if what is open can be settled. -/
def inform (p : Progress) (information : UsageError) : Except UsageError Progress :=
  match settle p with
  | .error e => .error e
  | .ok _ => .error information

/-- A letter that names no option, as messages show it: the character there, or all the rest if
there is none. -/
def unknownLetter (rest : Bytes) : UsageError :=
  .unknown
    ("-" ++
      match (List.range 4).findSome? fun n => Text.decode? (rest.take (n + 1)) with
      | some c => c
      | none => Text.lossy rest)

/-- Reads letters after one dash: flags up to the first valued option, which takes the rest, with
or without an equals sign before it, as its value. -/
def readLetters (p : Progress) : Bytes → Except UsageError Progress
  | [] => .ok p
  | b :: rest =>
    match Word.ofLetter? b with
    | none => .error (unknownLetter (b :: rest))
    | some .help => inform p (.help false)
    | some .version => inform p .version
    | some (.key (.flag f)) =>
      match meet p f with
      | .error e => .error e
      | .ok p => readLetters p rest
    | some (.key (.valued v)) =>
      openValued p v
        (match rest with
        | [] => none
        | c :: value => if c = equals then some value else some rest)

/-- The bytes before the first equals sign, and those after it if there is one. -/
def splitValue (body : Bytes) : Bytes × Option Bytes :=
  (body.takeWhile (· != equals),
    match body.dropWhile (· != equals) with
    | [] => none
    | _ :: value => some value)

/-- Reads a long name after two dashes, with the value attached to it if there is one. -/
def readLong (p : Progress) (body : Bytes) : Except UsageError Progress :=
  let (name, value) := splitValue body
  match Word.ofLong? name with
  | none => .error (.unknown ("--" ++ Text.lossy name))
  | some (.key (.valued v)) => openValued p v value
  | some w =>
    match value with
    | some value => .error (.needlessValue (Text.lossy value) w)
    | none =>
      match w with
      | .help => inform p (.help true)
      | .version => inform p .version
      | .key (.flag f) => meet p f
      | .key (.valued v) => openValued p v none

/-- Reads a word that is no option: the value of the option before it, if that is open. -/
def readValue (p : Progress) (word : Bytes) : Except UsageError Progress :=
  match p.pending with
  | some (v, none) => .ok ⟨p.settings, some (v, some word)⟩
  | _ => .error (.unknown (Text.lossy word))

/-- Reads one argument other than two dashes alone. -/
def readArgument (p : Progress) (arg : Bytes) : Except UsageError Progress :=
  match arg with
  | [] => readValue p arg
  | first :: rest =>
    if first = dash then
      match rest with
      | [] => readValue p arg
      | second :: body => if second = dash then readLong p body else readLetters p rest
    else readValue p arg

/-- Reads arguments. After two dashes alone nothing may follow. -/
def readArguments : Progress → List Bytes → Except UsageError (List Setting)
  | p, [] => settle p
  | p, arg :: rest =>
    if arg = [dash, dash] then
      match rest with
      | [] => settle p
      | stray :: _ => .error (.unknown (Text.lossy stray))
    else
      match readArgument p arg with
      | .error e => .error e
      | .ok p => readArguments p rest

/-- Whether two options exclude each other: running all tests and running one. -/
def excludes (a b : Key) : Bool :=
  (a == .flag .runAll && b == .valued .testName) || (a == .valued .testName && b == .flag .runAll)

/-- The first option that another one excludes, with the other one. -/
def conflict? : List Key → Option (Key × Key)
  | [] => none
  | a :: rest =>
    match rest.find? (excludes a) with
    | some b => some (a, b)
    | none => conflict? rest

/-- Reads a command line into options, or says why it is not carried out. -/
def parse (args : List Bytes) : Except UsageError Options :=
  match readArguments ⟨[], none⟩ args with
  | .error e => .error e
  | .ok settings =>
    match conflict? (settings.map Setting.key) with
    | some (a, b) => .error (.conflict a b)
    | none => .ok (Setting.toOptions settings)

end Testbed.CommandLine
