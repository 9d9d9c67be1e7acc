import Testbed.FileSystem.Walk

/-!
# Finding programs

A program is named by a path, or by a name without a slash that is looked up in directories.

* `programAt` says what may be run at a path;
* `search` looks a name up for a process that is about to be started;
* `firstFile?` looks a name up as a script does, which only asks for a file.
-/

namespace Testbed.Host

/-- The directories in which programs are looked for by name. -/
def searchPath : Bytes :=
  utf8 "/usr/local/sbin:/usr/local/bin:/usr/sbin:/usr/bin:/sbin:/bin"

/-- The parts of a text between colons. -/
def betweenColons : Bytes → List Bytes
  | [] => [[]]
  | b :: rest =>
    if b = 58 then [] :: betweenColons rest
    else
      match betweenColons rest with
      | [] => [[b]]
      | part :: more => (b :: part) :: more

/-- The path of a name in a directory; an empty one is the working directory. -/
def inDirectory (directory name : Bytes) : Path :=
  if directory.isEmpty then name else Path.join directory name

/-- Checks that what stands at a location may be run. -/
def runnable (fs : FileSystem) (l : Location) : Except SystemError Location :=
  match fs.tree.entryAt l with
  | some (.file _ true) => .ok l
  | some (.tool _) => .ok l
  | _ => .error .permission

/-- The program that a path leads to. -/
def programAt (fs : FileSystem) (p : Path) : Except SystemError Location :=
  match fs.locate p with
  | .error e => .error e
  | .ok l => runnable fs l

/-- Looks a name up in directories, going on after one that does not have it, and gives the path
and the location. A program that may not be run is remembered as the reason in case no other one is
found. -/
def search (fs : FileSystem) (name : Bytes) (reason : SystemError) :
    List Path → Except SystemError (Path × Location)
  | [] => .error reason
  | directory :: rest =>
    match programAt fs (inDirectory directory name) with
    | .ok l => .ok (inDirectory directory name, l)
    | .error .permission => search fs name .permission rest
    | .error .noEntry => search fs name reason rest
    | .error .notDirectory => search fs name reason rest
    | .error e => .error e

/-- The path and the location of the program that a name or a path stands for. -/
def findProgram (fs : FileSystem) (program : Bytes) : Except SystemError (Path × Location) :=
  if slash ∈ program then (programAt fs program).map fun l => (program, l)
  else if program.isEmpty then .error .noEntry
  else if 255 < program.length then .error .nameTooLong
  else search fs program .noEntry (betweenColons searchPath)

/-- Whether a path leads to something other than a directory. -/
def isFile (fs : FileSystem) (p : Path) : Bool :=
  match fs.locate p with
  | .ok l => !fs.tree.isDirectory l
  | .error _ => false

/-- The first file of a name in directories that are listed between colons. -/
def firstFile? (fs : FileSystem) (directories name : Bytes) : Option Path :=
  if name.isEmpty then none
  else
    ((betweenColons directories).map fun d => inDirectory d name).find? (isFile fs)

end Testbed.Host
