import Testbed.Host.Work.Lines
import Testbed.Host.Work.Basic

/-!
# Programs that change files

* `makeDirectory`, `removeDirectory`, `remove` and `touch` make and remove what stands at paths;
* `copy`, `move` and `link` give it another place or another name;
* `changeMode` changes what may be run.
-/

namespace Testbed.Host.Change

open Work

/-- Makes a change for each operand, and complains about one that is refused. -/
def each (a : Arguments) (text : String)
    (call : FileSystem → Path → Except SystemError FileSystem) : Work Unit := do
  for path in a.operands do
    match ← change fun fs => call fs path with
    | none => pure ()
    | some e => complain (refusal text path e)

/-! ## Making and removing -/

/-- Makes directories, with the missing ones above them if that is asked for. -/
def makeDirectory : Work Unit :=
  withArguments ⟨utf8 "pv", utf8 "m", [("parents", 112)]⟩ fun a =>
    needing 1 "" a
      (if a.has 112 then
        each a "cannot create directory " fun fs path =>
          match fs.makeDirectories path with
          | (.ok (), fs) => .ok fs
          | (.error .exists, _) => .error .exists
          | (.error e, _) => .error e
      else each a "cannot create directory " FileSystem.makeOne)

/-- Removes empty directories. -/
def removeDirectory : Work Unit :=
  withArguments ⟨utf8 "pv", [], []⟩ fun a =>
    needing 1 "" a (each a "failed to remove " FileSystem.removeDirectory)

/-- Removes what stands at a path; a directory only if that is asked for. -/
def removeOne (recursive : Bool) (fs : FileSystem) (path : Path) :
    Except SystemError FileSystem :=
  if recursive then
    match fs.removeAll path with
    | (.ok (), fs) => .ok fs
    | (.error e, _) => .error e
  else fs.removeFile path

/-- Removes files, and directories if that is asked for. -/
def remove : Work Unit :=
  withArguments ⟨utf8 "rRfvd", [], [("recursive", 114), ("force", 102)]⟩ fun a =>
    if a.has 102 && a.operands.isEmpty then pure ()
    else
      needing 1 "" a do
        let recursive := a.has 114 || a.has 82
        for path in a.operands do
          match ← change fun fs => removeOne recursive fs path with
          | none => pure ()
          | some e =>
            if a.has 102 && (e = .noEntry || e = .notDirectory) then pure ()
            else complain (refusal "cannot remove " path e)

/-- Makes a file unless something stands there. -/
def touchOne (fs : FileSystem) (path : Path) : Except SystemError FileSystem :=
  match fs.locate path with
  | .ok _ => .ok fs
  | .error _ => fs.writeFile path [] false

/-- Makes the files that are missing. -/
def touch : Work Unit :=
  withArguments ⟨utf8 "acmf", utf8 "dtr", []⟩ fun a =>
    if a.operands.isEmpty then misuse (utf8 "missing file operand")
    else if a.has 99 then pure ()
    else each a "cannot touch " touchOne

/-! ## Other places and names -/

/-- The last part of a path, without slashes at its end. -/
def lastPart (path : Path) : Bytes :=
  let trimmed := (path.reverse.dropWhile (· == slash)).reverse
  (trimmed.reverse.takeWhile (· != slash)).reverse

/-- Where something goes that is to stand at a path: below it, under its own name, if the path leads
to a directory. -/
def destination (fs : FileSystem) (source target : Path) : Path :=
  if fs.isDirectory target then Path.join target (lastPart source) else target

/-- Goes on with each operand but the last, which is the target of all. -/
def toward (a : Arguments) (work : Path → Path → Work Unit) : Work Unit :=
  needing 2 "destination file" a do
    let target := a.operands.getLast?.getD []
    let sources := a.operands.dropLast
    if 1 < sources.length && !(← files).isDirectory target then
      complain (utf8 "target " ++ quote target ++
        utf8 (if (← files).locate target |>.isOk then ": Not a directory"
          else ": No such file or directory"))
    else
      for source in sources do
        work source (destination (← files) source target)

/-- Copies what stands at a path, with all that a directory holds. The first argument bounds the
depth. -/
def copyTree : Nat → FileSystem → Path → Path → Except SystemError FileSystem
  | 0, fs, _, _ => .ok fs
  | fuel + 1, fs, source, target =>
    match fs.locate source with
    | .error e => .error e
    | .ok l =>
      if fs.tree.isDirectory l then
        let made := if fs.isDirectory target then .ok fs else fs.makeOne target
        (fs.tree.children l).foldl
          (fun fs name =>
            fs.bind fun fs =>
              copyTree fuel fs (Path.join source name.bytes) (Path.join target name.bytes))
          made
      else
        match fs.tree.entryAt l with
        | some (.file content executable) => fs.writeFile target content executable
        | some (.tool tool) =>
          match fs.find target with
          | .ok (.vacant d name) =>
            .ok { fs with tree := fs.tree.put (name :: d) (.tool tool) }
          | .ok (.found l) => .ok { fs with tree := fs.tree.put l (.tool tool) }
          | .error e => .error e
        | _ => .error .noEntry

/-- How deep directories are copied. -/
def copyDepth : Nat := 64

/-- Copies files, and directories if that is asked for. -/
def copy : Work Unit :=
  withArguments ⟨utf8 "rRafpv", [], [("recursive", 114)]⟩ fun a =>
    toward a fun source target => do
      let fs ← files
      match fs.locate source with
      | .error e => complain (refusal "cannot stat " source e)
      | .ok l =>
        if fs.tree.isDirectory l && !(a.has 114 || a.has 82 || a.has 97) then
          complain (utf8 "-r not specified; omitting directory " ++ quote source)
        else if (fs.locate target).toOption = some l then
          complain (quote source ++ utf8 " and " ++ quote target ++ utf8 " are the same file")
        else
          match ← change fun fs => copyTree copyDepth fs source target with
          | none => pure ()
          | some e => complain (refusal "cannot create regular file " target e)

/-- Moves files and directories. -/
def move : Work Unit :=
  withArguments ⟨utf8 "fnv", [], [("force", 102)]⟩ fun a =>
    toward a fun source target => do
      match (← files).standing source with
      | .error e => complain (refusal "cannot stat " source e)
      | .ok _ =>
        match ← change fun fs => fs.moveTo source target with
        | none => pure ()
        | some e =>
          complain (utf8 "cannot move " ++ quote source ++ utf8 " to " ++ quote target ++
            utf8 (": " ++ e.description))

/-- Gives what stands at a path another name: a link that holds the path, or a copy of the entry. -/
def linkOne (symbolic force : Bool) (source target : Path) (fs : FileSystem) :
    Except SystemError FileSystem :=
  let fs := if force then (fs.removeFile target).toOption.getD fs else fs
  if symbolic then fs.makeLink target source
  else
    match fs.standing source with
    | .error e => .error e
    | .ok l =>
      match fs.tree.entryAt l, fs.slot target with
      | some e, .ok ⟨d, .child name, _⟩ =>
        if (fs.tree.entryAt (name :: d)).isSome then .error .exists
        else .ok { fs with tree := fs.tree.put (name :: d) e }
      | _, .error e => .error e
      | _, _ => .error .exists

/-- Makes links. -/
def link : Work Unit :=
  withArguments ⟨utf8 "sfnvT", [], [("symbolic", 115), ("force", 102)]⟩ fun a =>
    let a := if a.operands.length = 1 then { a with operands := a.operands ++ [selfName] } else a
    if a.operands.isEmpty then misuse (utf8 "missing file operand")
    else
      toward a fun source target => do
        match ← change (linkOne (a.has 115) (a.has 102) source target) with
        | none => pure ()
        | some e =>
          complain (refusal
            (if a.has 115 then "failed to create symbolic link "
              else "failed to create hard link ") target e)

/-! ## Modes -/

/-- A change of what may be run. -/
inductive Mode
  | set (executable : Bool)
  | keep
  deriving DecidableEq, Repr

/-- Reads a change that is written with letters: who, a sign, and what. -/
def letterMode? (text : Bytes) : Option Mode :=
  let who := text.takeWhile fun b => (utf8 "ugoa").contains b
  match text.drop who.length with
  | sign :: what =>
    if !(utf8 "+-=").contains sign || !what.all fun b => (utf8 "rwxXst").contains b then none
    else
      let all := who.isEmpty || who.contains 97
      if what.contains 120 then
        if sign = 45 then if all then some (.set false) else some .keep else some (.set true)
      else if sign = 61 && all then some (.set false)
      else some .keep
  | [] => none

/-- Reads a change, written with octal digits or with letters. -/
def mode? (text : Bytes) : Option Mode :=
  if !text.isEmpty && text.all fun b => 48 ≤ b && b ≤ 55 then
    let n := text.foldl (fun n b => n * 8 + (b.toNat - 48)) 0
    some (.set (n % 2 = 1 || n / 8 % 2 = 1 || n / 64 % 2 = 1))
  else letterMode? text

/-- Changes what may be run, of the file at a path. -/
def applyMode (mode : Mode) (fs : FileSystem) (path : Path) : Except SystemError FileSystem :=
  match fs.locate path with
  | .error e => .error e
  | .ok l =>
    match fs.tree.entryAt l, mode with
    | some (.file content _), .set executable =>
      .ok { fs with tree := fs.tree.put l (.file content executable) }
    | _, _ => .ok fs

/-- Changes which files may be run. -/
def changeMode : Work Unit := do
  let args := (← get).start.args
  let dashed := args.head?.any fun a => a.head? = some 45 && (mode? a).isSome
  match Arguments.read ⟨utf8 "Rfv", [], []⟩ (if dashed then utf8 "--" :: args else args) with
  | .error e => misuse e
  | .ok a =>
    match a.operands with
    | [] => misuse (utf8 "missing operand")
    | [text] => misuse (utf8 "missing operand after " ++ quote text)
    | text :: paths =>
      match (Lines.fields 44 text).mapM mode? with
      | none => misuse (utf8 "invalid mode: " ++ quote text)
      | some modes =>
        for mode in modes do
          each { a with operands := paths } "cannot access " (applyMode mode)

end Testbed.Host.Change
