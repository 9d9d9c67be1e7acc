import Testbed.Shell.Expansion
import Testbed.Shell.Process

/-!
# Redirections

A redirection makes a descriptor stand for another open file while something is carried out.

* `Resolved` is a redirection whose words have been replaced by their values;
* `follow` follows one, and `redirecting` carries something out with several of them.
-/

namespace Testbed.Shell

open Host Act

/-- A redirection whose words have been replaced by their values. -/
inductive Resolved
  | file (descriptor : Nat) (direction : Direction) (path : Path)
  | duplicate (descriptor : Nat) (source : Option Nat)
  | document (descriptor : Nat) (text : Bytes)
  deriving DecidableEq

/-- A redirection with the values of its words. -/
def resolve (run : Capture) : Redirection → Act Resolved
  | .file d direction name => return .file d direction (← flat run name)
  | .document d text => return .document d (← flat run text)
  | .duplicate d target => do
    match ← flat run target with
    | [45] => return .duplicate d none
    | [b] =>
      if isDigitByte b then return .duplicate d (some (b.toNat - 48))
      else fail (utf8 "Syntax error: Bad fd number")
    | _ => fail (utf8 "Syntax error: Bad fd number")

/-- What a message says about a path that cannot be opened. -/
def openFault (direction : Direction) (path : Path) (e : SystemError) : Bytes :=
  let missing := e = .noEntry || e = .notDirectory
  if direction = .outOf then
    utf8 "cannot open " ++ path ++ utf8 (": " ++ if missing then "No such file" else e.description)
  else
    utf8 "cannot create " ++ path ++
      utf8 (": " ++ if missing then "Directory nonexistent" else e.description)

/-- What a redirection opens its file for. -/
def accessOf : Direction → Access
  | .into => .printing
  | .over => .printing
  | .onto => .appending
  | .outOf => .reading
  | .inAndOut => .both

/-- Makes a descriptor stand for an open file. -/
def pointTo (d n : Nat) : Act Unit :=
  modify fun m => { m with descriptors := m.descriptors.set d n }

/-- Follows a redirection. -/
def follow : Resolved → Act Unit
  | .file d direction path => do
    let m ← get
    let there := isFile m.site.files path && path != utf8 "/dev/null"
    if direction = .into && m.has 67 && there then
      fail (openFault direction path .exists)
    match m.site.openPath m.descriptors (accessOf direction) path with
    | .error e => fail (openFault direction path e)
    | .ok (n, site) => do
      set { m with site := site }
      pointTo d n
  | .duplicate d none => modify fun m => { m with descriptors := m.descriptors.close d }
  | .duplicate d (some source) => do
    match (← get).descriptors.lookup source with
    | some n => pointTo d n
    | none => fail (Numeral.print source ++ utf8 ": Bad file descriptor")
  | .document d text => do pointTo d (← openNew (.text text))

/-- Follows redirections, and says whether that was possible. -/
def followAll (redirections : List Resolved) : Act Bool := do
  match ← attempt (redirections.forM follow) with
  | none => return true
  | some .fails => return false
  | some s => stop s

/-- Carries something out with redirections, if they can be followed. -/
def redirecting (redirections : List Resolved) (act : Act Unit) : Act Unit := do
  withDescriptors (← get).descriptors do
    if ← followAll redirections then act

end Testbed.Shell
