import Testbed.Shell.Machine
import Testbed.Shell.Token

/-!
# The arguments of commands

The commands of the shell take their arguments apart in the same ways.

* `countOf`, `takeOptions`, `splitAssignment` and `checkName` read arguments;
* `quote` writes a text as a script would have to write it.
-/

namespace Testbed.Shell.Duties

open Host Act

/-- The number that an argument spells. -/
def countOf (arg : Bytes) : Act Nat :=
  match Numeral.count? arg with
  | some n => return n
  | none => fail (utf8 "Illegal number: " ++ arg)

/-- The options of letters in front of arguments, and the other arguments. -/
def takeOptions (known : Bytes) : List Bytes → Act (Bytes × List Bytes)
  | [] => return ([], [])
  | arg :: rest =>
    match arg with
    | [45, 45] => return ([], rest)
    | 45 :: first :: more =>
      match (first :: more).find? fun b => !known.contains b with
      | some b => fail (utf8 "Illegal option -" ++ [b])
      | none => do
        let r ← takeOptions known rest
        return ((first :: more) ++ r.1, r.2)
    | arg => return ([], arg :: rest)

/-- A text in quotes, as a script would have to write it. The first argument bounds its length. -/
def quoteParts : Nat → Bytes → Bytes
  | 0, _ => []
  | fuel + 1, text =>
    let plain := text.takeWhile (· != 39)
    let rest := text.drop plain.length
    let quotes := rest.takeWhile (· == 39)
    let first := 39 :: (plain ++ [39])
    if rest.isEmpty then first
    else
      let after := rest.drop quotes.length
      let second := 34 :: (quotes ++ [34])
      if after.isEmpty then first ++ second else first ++ second ++ quoteParts fuel after

/-- A text in quotes, as a script would have to write it. -/
def quote (text : Bytes) : Bytes := quoteParts (text.length + 1) text

/-- An argument as a name, and the value that it sets if it sets one. -/
def splitAssignment (arg : Bytes) : Bytes × Option Bytes :=
  match arg.dropWhile (· != 61) with
  | [] => (arg, none)
  | _ :: value => (arg.takeWhile (· != 61), some value)

/-- Checks that a text is the name of a variable. -/
def checkName (name : Bytes) : Act Unit :=
  if isName name then pure () else fail (name ++ utf8 ": bad variable name")

/-- Prints a line. -/
def printLine (text : Bytes) : Act Unit := print 1 (text ++ [10])

end Testbed.Shell.Duties
