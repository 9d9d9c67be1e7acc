/-!
# Programs that the system provides

A host has some programs besides those that are written as scripts.

* `Tool` lists them, `Tool.all` in order, and `Tool.name` says how each is called.
-/

namespace Testbed

/-- A program that the system provides. -/
inductive Tool
  /-- Reads commands and carries them out. -/
  | shell
  /-- Does nothing, successfully. -/
  | succeed
  /-- Does nothing, unsuccessfully. -/
  | fail
  /-- Runs another program with other variables. -/
  | environment
  | baseName
  | bracket
  | changeMode
  | concatenate
  | copy
  | count
  | cut
  | directoryName
  | distinct
  | echo
  | expression
  | first
  | last
  | link
  | list
  | makeDirectory
  | move
  | printFormatted
  | readLink
  | remove
  | removeDirectory
  | reverse
  | reverseLines
  | search
  | sequence
  | sleep
  | sort
  | split
  | test
  | touch
  | exchange
  | workingDirectory
  deriving DecidableEq, Repr

namespace Tool

/-- The name of a program. -/
def name : Tool → String
  | .shell => "sh"
  | .succeed => "true"
  | .fail => "false"
  | .environment => "env"
  | .baseName => "basename"
  | .bracket => "["
  | .changeMode => "chmod"
  | .concatenate => "cat"
  | .copy => "cp"
  | .count => "wc"
  | .cut => "cut"
  | .directoryName => "dirname"
  | .distinct => "uniq"
  | .echo => "echo"
  | .expression => "expr"
  | .first => "head"
  | .last => "tail"
  | .link => "ln"
  | .list => "ls"
  | .makeDirectory => "mkdir"
  | .move => "mv"
  | .printFormatted => "printf"
  | .readLink => "readlink"
  | .remove => "rm"
  | .removeDirectory => "rmdir"
  | .reverse => "rev"
  | .reverseLines => "tac"
  | .search => "grep"
  | .sequence => "seq"
  | .sleep => "sleep"
  | .sort => "sort"
  | .split => "tee"
  | .test => "test"
  | .touch => "touch"
  | .exchange => "tr"
  | .workingDirectory => "pwd"

/-- All programs. -/
def all : List Tool :=
  [.shell, .succeed, .fail, .environment, .baseName, .bracket, .changeMode, .concatenate, .copy,
    .count, .cut, .directoryName, .distinct, .echo, .expression, .first, .last, .link, .list,
    .makeDirectory, .move, .printFormatted, .readLink, .remove, .removeDirectory, .reverse,
    .reverseLines, .search, .sequence, .sleep, .sort, .split, .test, .touch, .exchange,
    .workingDirectory]

end Tool

end Testbed
