import Testbed.Shell.Condition
import Testbed.Shell.Duties.Names
import Testbed.Shell.Duties.Places
import Testbed.Shell.Duties.Signals
import Testbed.Shell.Duties.Text
import Testbed.Shell.Duties.Variables
import Testbed.Shell.Escape

/-!
# What the commands of the shell do

The commands of the shell take arguments, do something, and give an exit code. Those here need no
other commands to be carried out.

* `Duties.run` does what any of them does;
* `Duties.judge` decides a condition.
-/

namespace Testbed.Shell.Duties

open Host Act

/-- Decides a condition. -/
def judge (args : List Bytes) : Act Nat := do
  match Condition.holds (← get).site args with
  | .error e => fail e
  | .ok r => return if r then 0 else 1

/-- Carries a command out that needs no other commands to be carried out. -/
def run : Builtin → List Bytes → Act Nat
  | .echo, args => do
    print 1 (Escape.echo args)
    return 0
  | .printFormatted, args => printFormatted args
  | .test, args => judge args
  | .bracket, args =>
    if args.getLast? = some [93] then judge args.dropLast else fail (utf8 "missing ]")
  | .read, args => read args
  | .changeDirectory, args => changeDirectory args
  | .workingDirectory, _ => do
    printLine (pathOf (← get).site.files.cwd)
    return 0
  | .set, args => configure args
  | .shift, args => shift args
  | .getOptions, args => getOptions args
  | .export, args => marked "export" (·.exported) (fun v => { v with exported := true }) args
  | .readOnly, args => marked "readonly" (·.fixed) (fun v => { v with fixed := true }) args
  | .local, args => makeLocal args
  | .unset, args => unset args
  | .trap, args => setTraps args
  | .kill, args => kill args
  | .wait, args => wait args
  | .exit, args => exit args
  | .return, args => leave args
  | .break, args => leaveLoops false args
  | .continue, args => leaveLoops true args
  | .type, args => describeAll args
  | .mask, args => setMask args
  | .alias, args => nameTexts args
  | .unalias, args => forgetTexts args
  | .hash, args => lookUp args
  | .times, _ => do
    print 1 (utf8 "0m0.000000s 0m0.000000s\n0m0.000000s 0m0.000000s\n")
    return 0
  | .fail, _ => return 1
  | .foreground, _ => fail (utf8 "No current job")
  | .background, _ => fail (utf8 "No current job")
  | _, _ => return 0

end Testbed.Shell.Duties
