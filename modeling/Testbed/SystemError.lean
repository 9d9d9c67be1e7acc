/-!
# Errors of the operating system

The causes for which the system refuses a request, each with its number and its text.
-/

namespace Testbed

/-- Why the operating system refuses a request. -/
inductive SystemError
  | noEntry
  | argumentsTooLong
  | notExecutableFormat
  | permission
  | busy
  | exists
  | notDirectory
  | isDirectory
  | invalid
  | nameTooLong
  | notEmpty
  | tooManyLinks
  deriving DecidableEq, Repr

namespace SystemError

/-- The number of an error. -/
def number : SystemError → Nat
  | .noEntry => 2
  | .argumentsTooLong => 7
  | .notExecutableFormat => 8
  | .permission => 13
  | .busy => 16
  | .exists => 17
  | .notDirectory => 20
  | .isDirectory => 21
  | .invalid => 22
  | .nameTooLong => 36
  | .notEmpty => 39
  | .tooManyLinks => 40

/-- What an error says. -/
def description : SystemError → String
  | .noEntry => "No such file or directory"
  | .argumentsTooLong => "Argument list too long"
  | .notExecutableFormat => "Exec format error"
  | .permission => "Permission denied"
  | .busy => "Device or resource busy"
  | .exists => "File exists"
  | .notDirectory => "Not a directory"
  | .isDirectory => "Is a directory"
  | .invalid => "Invalid argument"
  | .nameTooLong => "File name too long"
  | .notEmpty => "Directory not empty"
  | .tooManyLinks => "Too many levels of symbolic links"

/-- The text of an error: what it says, and its number. -/
def message (e : SystemError) : String :=
  e.description ++ " (os error " ++ toString e.number ++ ")"

end SystemError

end Testbed
