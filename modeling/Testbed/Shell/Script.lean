import Testbed.Bytes

/-!
# Scripts

Children may be scripts in the command language of the system. A script is a list of commands, and
a command is made of words: texts in which parts stand for the values of parameters, for what
another script prints, or for the value of an expression.

* `Piece` is a part of a word, and `Modifier` what is done with the value of a parameter;
* `Redirection` leads a descriptor elsewhere while a command is carried out;
* `Command` is a command: a program with arguments, or other commands put together.
-/

namespace Testbed.Shell

/-- Something whose value is put in place of its name. -/
inductive Parameter
  /-- An argument of the script by its number; 0 is the script itself. -/
  | argument (n : Nat)
  /-- All arguments, each a field of its own between double quotes. -/
  | arguments
  /-- All arguments as one field. -/
  | joinedArguments
  /-- How many arguments there are. -/
  | argumentCount
  /-- The number of the process that runs the script. -/
  | process
  /-- The number of the last process in the background. -/
  | background
  /-- The exit code of the last command. -/
  | status
  /-- The letters of the options that are set. -/
  | options
  | variable (name : Bytes)
  deriving DecidableEq, Repr

/-- What a word beside a parameter is for, where the parameter has no value. -/
inductive Alternative
  /-- It is used instead. -/
  | use
  /-- It is used instead, and the parameter gets its value. -/
  | assign
  /-- It is the reason why the script ends. -/
  | complain
  /-- Nothing, but where the parameter has a value, it is used instead of that. -/
  | replace
  deriving DecidableEq, Repr

/-- What a redirection does with its file. -/
inductive Direction
  /-- Empties the file and prints into it, unless files must not be overwritten. -/
  | into
  /-- Empties the file in any case and prints into it. -/
  | over
  /-- Prints at the end of the file. -/
  | onto
  /-- Reads from the file. -/
  | outOf
  /-- Reads from the file, which is made if it is missing. -/
  | inAndOut
  deriving DecidableEq, Repr

mutual

/-- A part of a word. -/
inductive Piece
  | literal (quoted : Bool) (bytes : Bytes)
  /-- The home directory. -/
  | home
  /-- The value of a parameter. -/
  | value (quoted : Bool) (p : Parameter) (m : Modifier)
  /-- What a script prints. -/
  | output (quoted : Bool) (script : List Command)
  /-- The value of an expression. -/
  | number (quoted : Bool) (expression : List Piece)

/-- What is done with the value of a parameter before it is used. -/
inductive Modifier
  | none
  /-- Its length is used instead. -/
  | length
  /-- A word is used where there is no value, or, if `emptyToo`, an empty one. -/
  | otherwise (a : Alternative) (emptyToo : Bool) (word : List Piece)
  /-- What a pattern covers at the end or at the start is left out. -/
  | trimmed (atEnd longest : Bool) (pattern : List Piece)
  /-- Nothing that is known. -/
  | unknown

/-- A redirection of a descriptor. -/
inductive Redirection
  | file (descriptor : Nat) (direction : Direction) (name : List Piece)
  /-- The descriptor becomes what another one is, or is closed. -/
  | duplicate (descriptor : Nat) (target : List Piece)
  /-- The descriptor reads a text from the script itself. -/
  | document (descriptor : Nat) (text : List Piece)

/-- A command. Lines are counted from 1. -/
inductive Command
  /-- Sets variables, or runs a program with redirections. -/
  | simple (line : Nat) (assignments : List (Bytes × List Piece)) (words : List (List Piece))
      (redirections : List Redirection)
  /-- Carries out the first branch that has a pattern for the subject. -/
  | choose (line : Nat) (subject : List Piece)
      (branches : List (List (List Piece) × List Command))
  /-- Carries out one of two scripts, by the outcome of a third. -/
  | conditional (test yes no : List Command)
  /-- Carries out a script for each field of the words, which a variable holds meanwhile. -/
  | each (line : Nat) (name : Bytes) (words : List (List Piece)) (body : List Command)
  /-- Carries out a script as long as another one succeeds, or fails. -/
  | loop (whileFails : Bool) (test body : List Command)
  /-- Carries out a script. -/
  | group (body : List Command)
  /-- Carries out a script that cannot change this one, nor end it. -/
  | subshell (line : Nat) (body : List Command) (redirections : List Redirection)
  /-- Carries out a command with redirections. -/
  | redirected (line : Nat) (c : Command) (redirections : List Redirection)
  /-- Succeeds if the command fails. -/
  | negated (c : Command)
  /-- Lets each command read what the one before prints. -/
  | pipe (stages : List Command)
  /-- Carries out the second command if the first succeeds. -/
  | both (first second : Command)
  /-- Carries out the second command if the first fails. -/
  | either (first second : Command)
  /-- Carries out a command beside what follows. -/
  | background (c : Command)
  /-- Gives a command a name. -/
  | define (line : Nat) (name : Bytes) (body : Command)

end

/-- A word before its parameters are replaced. -/
abbrev Word := List Piece

end Testbed.Shell
