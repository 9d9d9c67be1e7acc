import Testbed.CommandLine.Help
import Testbed.CommandLine.Vocabulary
import Testbed.Text.Number
import Testbed.Text.Paragraph
import Testbed.Text.Plain

/-!
# Command lines that are not carried out

A command line may ask for information instead of work, and it may be faulty. Both end the
program before it does anything.

* `UsageError` lists the causes, `UsageError.message` the texts and `UsageError.exitCode` the
  exit codes.

The text about a fault is the first paragraph of what the user sees. Below it the program prints a
line on usage and a hint, which are left out here.
-/

namespace Testbed.CommandLine

/-- Why a command line is not carried out. -/
inductive UsageError
  /-- It asks for help, at length or not. -/
  | help (long : Bool)
  /-- It asks for the version. -/
  | version
  /-- Something is neither an option nor the value of one. -/
  | unknown (shown : String)
  /-- An option is set twice. -/
  | repeated (k : Key)
  /-- Two options exclude each other; `first` stands first. -/
  | conflict (first second : Key)
  /-- An option lacks its value. -/
  | missingValue (v : Valued)
  /-- There is no convention of this name. -/
  | unknownLayout (value : String)
  /-- A word that takes no value has one. -/
  | needlessValue (value : String) (w : Word)
  /-- This is no worker count. -/
  | invalidJobs (value : String) (why : Text.NumberError)
  /-- A value that must be text is none. -/
  | notText
  deriving DecidableEq

namespace UsageError

/-- The conventions that can be chosen, as a line of a message. -/
def possibleLayouts : String :=
  "\n  [possible values: " ++ ", ".intercalate (LayoutKind.all.map LayoutKind.name) ++ "]"

/-- What is added to a message about the value of an option. -/
def possibleValues : Valued → String
  | .layout => possibleLayouts
  | _ => ""

/-- What a message says about each cause; what the user typed is repeated as plain text. -/
def description (medium : Text.Medium) : UsageError → String
  | .help long => if long then Help.long else Help.short
  | .version => Help.version
  | .unknown shown => "unexpected argument '" ++ Text.plain medium shown ++ "' found"
  | .repeated k => "the argument '" ++ k.shown ++ "' cannot be used multiple times"
  | .conflict first second =>
    "the argument '" ++ first.shown ++ "' cannot be used with '" ++ second.shown ++ "'"
  | .missingValue v =>
    "a value is required for '" ++ (Key.valued v).shown ++ "' but none was supplied" ++
      possibleValues v
  | .unknownLayout value =>
    "invalid value '" ++ Text.plain medium value ++ "' for '" ++ (Key.valued .layout).shown ++
      "'" ++ possibleLayouts
  | .needlessValue value w =>
    "unexpected value '" ++ Text.plain medium value ++ "' for '" ++ w.shown ++
      "' found; no more were expected"
  | .invalidJobs value why =>
    "invalid value '" ++ Text.plain medium value ++ "' for '" ++ (Key.valued .jobs).shown ++
      "': " ++ why.message
  | .notText => "invalid UTF-8 was detected in one or more arguments"

/-- Whether the command line asks for information, which is no fault. -/
def isInformation : UsageError → Bool
  | .help _ => true
  | .version => true
  | _ => false

/-- What the user is told in a medium: the information asked for, or one paragraph about the
fault. The line on usage and the hint that are printed below that paragraph are left out. -/
def messageIn (medium : Text.Medium) (e : UsageError) : String :=
  if e.isInformation then e.description medium
  else Text.firstParagraph ("error: " ++ e.description medium)

/-- What the user is told, as a text. -/
def message (e : UsageError) : String := e.messageIn .text

/-- The exit code: success where information was asked for, and 2 for a fault. -/
def exitCode (e : UsageError) : Int := if e.isInformation then 0 else 2

end UsageError

end Testbed.CommandLine
