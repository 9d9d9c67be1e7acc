import Testbed.FileSystem.Tree
import Testbed.SystemError

/-!
# Following a path

A path is followed component by component from the root or from the working directory. Symbolic
links on the way and at the end are followed, at most `maxLinks` of them in one path.

* `walk` follows components to a `Place`: something that stands there, or a free name in a
  directory that exists;
* `FileSystem.locate` finds what a path leads to, and `FileSystem.list` what the directory there
  holds, in enumeration order.
-/

namespace Testbed

/-- A directory tree and the directory in which relative paths start. -/
structure FileSystem where
  tree : Tree
  cwd : Location

/-- Where a path leads. -/
inductive Place
  /-- To something that stands there. -/
  | found (l : Location)
  /-- To a name that is free in an existing directory. -/
  | vacant (directory : Location) (name : FileName)
  deriving DecidableEq

namespace FileSystem

/-- How many symbolic links are followed in one path. -/
def maxLinks : Nat := 40

/-- How many bytes a path may have, counting the byte that ends it. -/
def maxPathLength : Nat := 4096

/-- Where the first component of a path is looked up, seen from a directory. -/
def startOf (p : Path) (directory : Location) : Location :=
  if p.isAbsolute then [] else directory

/-- Follows components from a location. At a link, `follow` goes on with the components of its
target and those that are left. -/
def walkWith (t : Tree) (follow : Location → List Component → Except SystemError Place) :
    Location → List Component → Except SystemError Place
  | l, [] => .ok (.found l)
  | l, c :: rest =>
    if t.isDirectory l then
      match c with
      | .here => walkWith t follow l rest
      | .up => walkWith t follow l.tail rest
      | .impossible => .error .nameTooLong
      | .child name =>
        match t.entryAt (name :: l) with
        | none => if rest.isEmpty then .ok (.vacant l name) else .error .noEntry
        | some (.link target) => follow (startOf target l) (Path.components target ++ rest)
        | some _ => walkWith t follow (name :: l) rest
    else .error .notDirectory

/-- Follows components from a location, and at most the given number of links. -/
def walk (t : Tree) : Nat → Location → List Component → Except SystemError Place
  | 0 => walkWith t fun _ _ => .error .tooManyLinks
  | links + 1 => walkWith t (walk t links)

/-- Where a path leads; nowhere if it is empty or too long. -/
def find (fs : FileSystem) (p : Path) : Except SystemError Place :=
  if p.isEmpty then .error .noEntry
  else if maxPathLength ≤ p.length then .error .nameTooLong
  else walk fs.tree maxLinks (startOf p fs.cwd) p.components

/-- The location of what a path leads to. -/
def locate (fs : FileSystem) (p : Path) : Except SystemError Location :=
  match fs.find p with
  | .ok (.found l) => .ok l
  | .ok (.vacant _ _) => .error .noEntry
  | .error e => .error e

/-- The location of the directory that a path leads to. -/
def locateDirectory (fs : FileSystem) (p : Path) : Except SystemError Location :=
  match fs.locate p with
  | .ok l => if fs.tree.isDirectory l then .ok l else .error .notDirectory
  | .error e => .error e

/-- Whether a path leads to a directory. -/
def isDirectory (fs : FileSystem) (p : Path) : Bool := (fs.locateDirectory p).isOk

/-- The names in the directory that a path leads to, in enumeration order. -/
def list (fs : FileSystem) (p : Path) : Except SystemError (List FileName) :=
  (fs.locateDirectory p).map fs.tree.children

end FileSystem

end Testbed
