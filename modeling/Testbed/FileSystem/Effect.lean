import Testbed.FileSystem.Walk

/-!
# Changes to a file system

What a child process, or whoever prepares a directory, may do to files. The system's own calls
either succeed or are refused with a cause and change nothing. An effect is made up of such calls:
one that is refused leaves behind what the calls before it did.

* `makeOne`, `makeLink`, `writeFile` and `moveTo` are calls of the system;
* `makeDirectories` and `removeAll` are made up of several;
* `Effect` lists the changes, `Effect.apply` carries one out, and `Effect.applyAll` several, going
  on after one that is refused.
-/

namespace Testbed

/-- A change to a file system. -/
inductive Effect
  /-- Makes a directory and the missing ones above it. -/
  | makeDirectory (path : Path)
  /-- Writes a file and makes the missing directories above it. An executable file may be run; a
  file that stands there already stays executable if it was. -/
  | write (path : Path) (content : Bytes) (executable : Bool)
  /-- Makes a symbolic link that holds `target`, and the missing directories above it. -/
  | link (path target : Path)
  /-- Removes a file, a link or a whole directory. -/
  | remove (path : Path)
  /-- Moves what stands at `path` to `target`. -/
  | rename (path target : Path)
  deriving DecidableEq

/-- Whether a change was made, or the cause for which it was refused; and the files afterwards. -/
abbrev Change (α : Type) := Except SystemError Unit × α

namespace FileSystem

/-! ## Calls of the system -/

/-- What the last step of a path names, for calls that act on an entry of a directory and not on
what it leads to. -/
structure Slot where
  /-- The directory in which the last step is taken. -/
  directory : Location
  last : Component
  /-- Whether a slash follows the last step. -/
  slashed : Bool
  deriving DecidableEq

/-- The last step of a path, and the directory that the steps before it lead to. -/
def slot (fs : FileSystem) (p : Path) : Except SystemError Slot :=
  if nul ∈ p then .error .invalid
  else if p.isEmpty then .error .noEntry
  else if maxPathLength ≤ p.length then .error .nameTooLong
  else
    let steps := (Path.pieces p).filterMap Path.component?
    match walk fs.tree maxLinks (startOf p fs.cwd) steps.dropLast with
    | .error e => .error e
    | .ok (.vacant _ _) => .error .noEntry
    | .ok (.found d) =>
      if fs.tree.isDirectory d then
        .ok ⟨d, steps.getLast?.getD .here, p.endsWithSlash⟩
      else .error .notDirectory

/-- Makes the directory at a path. -/
def makeOne (fs : FileSystem) (p : Path) : Except SystemError FileSystem :=
  match fs.slot p with
  | .error e => .error e
  | .ok ⟨d, .child name, _⟩ =>
    if (fs.tree.entryAt (name :: d)).isSome then .error .exists
    else .ok { fs with tree := fs.tree.put (name :: d) .directory }
  | .ok ⟨_, .impossible, _⟩ => .error .nameTooLong
  | .ok _ => .error .exists

/-- Makes a symbolic link at a path. -/
def makeLink (fs : FileSystem) (p target : Path) : Except SystemError FileSystem :=
  if nul ∈ target then .error .invalid
  else if target.isEmpty then .error .noEntry
  else if maxPathLength ≤ target.length then .error .nameTooLong
  else
    match fs.slot p with
    | .error e => .error e
    | .ok ⟨d, .child name, slashed⟩ =>
      if (fs.tree.entryAt (name :: d)).isSome then .error .exists
      else if slashed then .error .noEntry
      else .ok { fs with tree := fs.tree.put (name :: d) (.link target) }
    | .ok ⟨_, .impossible, _⟩ => .error .nameTooLong
    | .ok _ => .error .exists

/-- Writes a file at a path whose directory exists, following links. -/
def writeFile (fs : FileSystem) (p : Path) (content : Bytes) (executable : Bool) :
    Except SystemError FileSystem :=
  match fs.find p with
  | .error e => .error e
  | .ok (.vacant d name) =>
    .ok { fs with tree := fs.tree.put (name :: d) (.file content executable) }
  | .ok (.found l) =>
    match fs.tree.entryAt l with
    | some (.file _ before) =>
      .ok { fs with tree := fs.tree.put l (.file content (before || executable)) }
    | some (.tool _) => .error .permission
    | _ => .error .isDirectory

/-- Removes the file or the link at a path. -/
def removeFile (fs : FileSystem) (p : Path) : Except SystemError FileSystem :=
  match fs.slot p with
  | .error e => .error e
  | .ok ⟨d, .child name, slashed⟩ =>
    match fs.tree.entryAt (name :: d) with
    | none => .error .noEntry
    | some .directory => .error .isDirectory
    | some _ =>
      if slashed then .error .notDirectory
      else .ok { fs with tree := fs.tree.erase (name :: d) }
  | .ok ⟨_, .impossible, _⟩ => .error .nameTooLong
  | .ok _ => .error .isDirectory

/-- Removes the empty directory at a path. -/
def removeDirectory (fs : FileSystem) (p : Path) : Except SystemError FileSystem :=
  match fs.slot p with
  | .error e => .error e
  | .ok ⟨d, .child name, _⟩ =>
    match fs.tree.entryAt (name :: d) with
    | none => .error .noEntry
    | some .directory =>
      if (fs.tree.children (name :: d)).isEmpty then
        .ok { fs with tree := fs.tree.erase (name :: d) }
      else .error .notEmpty
    | some _ => .error .notDirectory
  | .ok ⟨_, .impossible, _⟩ => .error .nameTooLong
  | .ok ⟨_, .up, _⟩ => .error .notEmpty
  | .ok ⟨_, .here, _⟩ => .error .invalid

/-- Why what stands at `source` cannot take the place of `target`, if it cannot. `slashed` says
whether a slash follows one of the two paths, which only a directory may have. -/
def renameRefusal (t : Tree) (source target : Location) (slashed : Bool) : Option SystemError :=
  match t.entryAt source, t.entryAt target with
  | none, _ => some .noEntry
  | some .directory, there =>
    if source = target then none
    else if Tree.below source target then some .invalid
    else
      match there with
      | none => none
      | some .directory => if (t.children target).isEmpty then none else some .notEmpty
      | some _ => some .notDirectory
  | some _, there =>
    if slashed then some .notDirectory
    else if there = some .directory then some .isDirectory
    else none

/-- Moves what stands at `source` to `target`. -/
def moveTo (fs : FileSystem) (source target : Path) : Except SystemError FileSystem :=
  match fs.slot source, fs.slot target with
  | .error e, _ => .error e
  | .ok _, .error e => .error e
  | .ok ⟨d, .child name, slashed⟩, .ok ⟨d', .child name', slashed'⟩ =>
    match renameRefusal fs.tree (name :: d) (name' :: d') (slashed || slashed') with
    | some e => .error e
    | none =>
      if name :: d = name' :: d' then .ok fs
      else .ok { fs with tree := fs.tree.move (name :: d) (name' :: d') }
  | .ok ⟨_, .impossible, _⟩, .ok _ => .error .nameTooLong
  | .ok ⟨_, .child _, _⟩, .ok ⟨_, .impossible, _⟩ => .error .nameTooLong
  | .ok _, .ok _ => .error .busy

/-! ## Several calls -/

/-- Makes the directory at the first of several paths, after those at the other ones as far as
they are missing. The paths are those of a directory and of the ones above it. -/
def makeAlong (fs : FileSystem) : List Path → Change FileSystem
  | [] => (.error .noEntry, fs)
  | p :: above =>
    if p.isEmpty then (.ok (), fs)
    else
      match fs.makeOne p with
      | .ok fs => (.ok (), fs)
      | .error .noEntry =>
        match makeAlong fs above with
        | (.error e, fs) => (.error e, fs)
        | (.ok (), fs) =>
          match fs.makeOne p with
          | .ok fs => (.ok (), fs)
          | .error e => if fs.isDirectory p then (.ok (), fs) else (.error e, fs)
      | .error e => if fs.isDirectory p then (.ok (), fs) else (.error e, fs)

/-- Makes the directory at a path and the missing ones above it; the empty path stands for the
working directory. -/
def makeDirectories (fs : FileSystem) (p : Path) : Change FileSystem :=
  fs.makeAlong (Path.ancestors (p.length + 1) p)

/-- Makes the missing directories above a path, if it has any above it. -/
def makeParents (fs : FileSystem) (p : Path) : Change FileSystem :=
  match p.parent? with
  | none => (.ok (), fs)
  | some above => fs.makeDirectories above

/-- What a call gives, where the call is the last one of a change. -/
def lastCall (fs : FileSystem) (r : Except SystemError FileSystem) : Change FileSystem :=
  match r with
  | .ok fs => (.ok (), fs)
  | .error e => (.error e, fs)

/-- Makes a call after the missing directories above a path have been made. -/
def afterParents (fs : FileSystem) (p : Path)
    (call : FileSystem → Except SystemError FileSystem) : Change FileSystem :=
  match fs.makeParents p with
  | (.error e, fs) => (.error e, fs)
  | (.ok (), fs) => fs.lastCall (call fs)

/-- What stands at a path; a link there is followed only before a slash or a dot. -/
def standing (fs : FileSystem) (p : Path) : Except SystemError Location :=
  match fs.slot p with
  | .error e => .error e
  | .ok ⟨d, .child name, false⟩ =>
    if (fs.tree.entryAt (name :: d)).isSome then .ok (name :: d) else .error .noEntry
  | .ok _ => fs.locateDirectory p

/-- Removes what a directory holds. -/
def empty (fs : FileSystem) (l : Location) : FileSystem :=
  { fs with
    tree := (fs.tree.children l).foldl (fun t name => t.erase (name :: l)) fs.tree }

/-- Removes what stands at a path: a directory is emptied before it is removed itself. -/
def removeAll (fs : FileSystem) (p : Path) : Change FileSystem :=
  match fs.standing p with
  | .error e => (.error e, fs)
  | .ok l =>
    if fs.tree.isDirectory l then
      let emptied := fs.empty l
      emptied.lastCall (emptied.removeDirectory p)
    else fs.lastCall (fs.removeFile p)

end FileSystem

namespace Effect

open FileSystem

/-- Carries out a change. -/
def apply (fs : FileSystem) : Effect → Change FileSystem
  | .makeDirectory path => fs.makeDirectories path
  | .write path content executable =>
    fs.afterParents path fun fs => fs.writeFile path content executable
  | .link path target => fs.afterParents path fun fs => fs.makeLink path target
  | .remove path => fs.removeAll path
  | .rename path target => fs.lastCall (fs.moveTo path target)

/-- Carries out changes one after the other, going on after one that is refused. -/
def applyAll (fs : FileSystem) (effects : List Effect) : FileSystem :=
  effects.foldl (fun fs e => (e.apply fs).2) fs

end Effect

end Testbed
