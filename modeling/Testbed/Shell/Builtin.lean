import Testbed.Bytes

/-!
# Commands of the shell

Some commands are carried out by the shell itself, without a program.

* `Builtin` lists them, and `Builtin.ofName?` finds one by its name;
* `Builtin.isSpecial` says which of them change the shell itself, so that a fault in one of them
  ends the script.
-/

namespace Testbed.Shell

/-- The commands of the shell. -/
inductive Builtin
  | alias | background | bracket | break | changeDirectory | command | continue | dot | echo | eval
  | exec | exit | export | fail | foreground | getOptions | hash | jobs | kill | limit | local
  | mask | nothing | printFormatted | read | readOnly | return | set | shift | succeed | test
  | times | trap | type | unalias | unset | wait | workingDirectory
  deriving DecidableEq, Repr

namespace Builtin

/-- The names of the commands. -/
def names : List (String × Builtin) :=
  [("alias", .alias), ("bg", .background), ("[", .bracket), ("break", .break),
    ("cd", .changeDirectory), ("chdir", .changeDirectory), ("command", .command),
    ("continue", .continue), (".", .dot), ("echo", .echo), ("eval", .eval), ("exec", .exec),
    ("exit", .exit), ("export", .export), ("false", .fail), ("fg", .foreground),
    ("getopts", .getOptions), ("hash", .hash), ("jobs", .jobs), ("kill", .kill),
    ("ulimit", .limit), ("local", .local), ("umask", .mask), (":", .nothing),
    ("printf", .printFormatted), ("read", .read), ("readonly", .readOnly), ("return", .return),
    ("set", .set), ("shift", .shift), ("true", .succeed), ("test", .test), ("times", .times),
    ("trap", .trap), ("type", .type), ("unalias", .unalias), ("unset", .unset), ("wait", .wait),
    ("pwd", .workingDirectory)]

/-- The command of a name. -/
def ofName? (name : Bytes) : Option Builtin :=
  (names.find? fun p => utf8 p.1 == name).map Prod.snd

/-- Whether a fault of a command ends the script, and variables that are set before it stay set. -/
def isSpecial : Builtin → Bool
  | .dot | .nothing | .break | .continue | .eval | .exec | .exit | .export | .local | .readOnly
  | .return | .set | .shift | .times | .trap | .unset => true
  | _ => false

/-- Whether arguments that set variables are not cut into fields. -/
def assigns : Builtin → Bool
  | .export | .local | .readOnly | .alias => true
  | _ => false

end Builtin

end Testbed.Shell
