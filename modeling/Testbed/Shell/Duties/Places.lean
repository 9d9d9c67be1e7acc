import Testbed.Shell.Duties.Arguments

/-!
# Commands for what surrounds a script

A script works in a directory, and its new files do not get all permissions.

* `changeDirectory` goes to another directory;
* `setMask` sets what permissions new files do not get, or says it.
-/

namespace Testbed.Shell.Duties

open Host Act

/-! ## Places -/

/-- Goes to another directory. -/
def changeDirectory (args : List Bytes) : Act Nat := do
  let (_, args) ← takeOptions (utf8 "LP") args
  let m ← get
  let back := args.head? = some [45]
  let path :=
    match args with
    | [] => (m.value? (utf8 "HOME")).getD []
    | arg :: _ => if back then (m.value? (utf8 "OLDPWD")).getD [] else arg
  let path := if path.isEmpty then selfName else path
  match m.site.files.locateDirectory path with
  | .error _ => fail (utf8 "can't cd to " ++ path)
  | .ok l => do
    let files := { m.site.files with cwd := l }
    set { m with site := { m.site with files := files } }
    assign (utf8 "OLDPWD") (pathOf m.site.files.cwd)
    assign (utf8 "PWD") (pathOf l)
    if back then printLine (pathOf l)
    return 0

/-! ## Permissions -/

/-- Three permissions as letters. -/
def permissionLetters (n : Nat) : Bytes :=
  (if n / 4 % 2 = 1 then [114] else []) ++ (if n / 2 % 2 = 1 then [119] else []) ++
    (if n % 2 = 1 then [120] else [])

/-- Permissions after changes that a text asks for, at most so many: for whom, how and which. -/
def changedPermissions : Nat → Nat → Bytes → Option Nat
  | 0, _, _ => none
  | fuel + 1, given, text =>
    let who := text.takeWhile (utf8 "ugoa").contains
    match text.drop who.length with
    | op :: more =>
      let which := more.takeWhile (utf8 "rwx").contains
      let bit (b : UInt8) (n : Nat) : Nat := if which.contains b then n else 0
      let one := bit 114 4 + bit 119 2 + bit 120 1
      let all := who.isEmpty || who.contains 97
      let place (b : UInt8) (n : Nat) : Nat := if all || who.contains b then n else 0
      let places := place 117 64 + place 103 8 + place 111 1
      let asked := one * places
      let given? : Option Nat :=
        if op = 61 then some (given &&& (511 - 7 * places) ||| asked)
        else if op = 43 then some (given ||| asked)
        else if op = 45 then some (given &&& (511 - asked))
        else none
      match given?, more.drop which.length with
      | some given, [] => some given
      | some given, 44 :: rest => changedPermissions fuel given rest
      | _, _ => none
    | [] => none

/-- Sets what permissions new files do not get, or says it. -/
def setMask (args : List Bytes) : Act Nat := do
  let (options, args) ← takeOptions [83] args
  let m ← get
  match args with
  | [] =>
    if options.contains 83 then
      let given := 511 - m.mask
      printLine (utf8 "u=" ++ permissionLetters (given / 64) ++ utf8 ",g=" ++
        permissionLetters (given / 8 % 8) ++ utf8 ",o=" ++ permissionLetters (given % 8))
    else
      let digits := [m.mask / 64, m.mask / 8 % 8, m.mask % 8]
      printLine (48 :: digits.map fun n => UInt8.ofNat (48 + n))
    return 0
  | arg :: _ =>
    if (arg.head?.map isDigitByte).getD false then
      if arg.all fun b => 48 ≤ b && b ≤ 55 then
        let value : Nat := arg.foldl (fun (n : Nat) b => n * 8 + (b.toNat - 48)) 0
        set { m with mask := value % 512 }
        return 0
      else fail (utf8 "Illegal number: " ++ arg)
    else
      match changedPermissions (arg.length + 1) (511 - m.mask) arg with
      | some given => do
        set { m with mask := 511 - given }
        return 0
      | none => fail (utf8 "Illegal mode: " ++ arg)

end Testbed.Shell.Duties
