import Testbed.FileSystem.Effect
import Testbed.Process.Runner

/-!
# What processes share

The processes of a host share its files and what they have open: files, a text that is still to be
read, the two streams on which everything is printed in the end. A process names what it has open
by small numbers, its descriptors, and hands them on to the processes that it starts.

* `OpenFile` is something open, and `Site` all that processes share;
* `Site.take` and `Site.print` read and print;
* `Site.openPath` opens what stands at a path.
-/

namespace Testbed.Host

/-! ## Places -/

/-- The directory that holds devices. -/
def deviceDirectory : FileName := ⟨[100, 101, 118], by decide⟩

/-- The device that takes everything and holds nothing. -/
def nullName : FileName := ⟨[110, 117, 108, 108], by decide⟩

/-- The devices that stand for the first three descriptors of a process. -/
def ownNames : List FileName :=
  [⟨[115, 116, 100, 105, 110], by decide⟩, ⟨[115, 116, 100, 111, 117, 116], by decide⟩,
    ⟨[115, 116, 100, 101, 114, 114], by decide⟩]

/-- Where the device stands that holds nothing. -/
def nullDevice : Location := [nullName, deviceDirectory]

/-- The descriptor for which a device stands, if it stands for one. -/
def ownDescriptor? : Location → Option Nat
  | [name, directory] => if directory = deviceDirectory then ownNames.idxOf? name else none
  | _ => none

/-- The path of a location from the root. -/
def pathOf (l : Location) : Path :=
  if l.isEmpty then [slash] else l.reverse.flatMap fun name => slash :: name.bytes

/-! ## Open files -/

/-- Something that processes have open. -/
inductive OpenFile
  /-- A stream on which the run is seen to print. -/
  | stream (s : Stream)
  /-- A text of which this is left to be read. -/
  | text (rest : Bytes)
  /-- What is printed for another process to read, the last part first. -/
  | gathering (parts : List Bytes)
  /-- A file, read and written from an offset, or always written at its end. -/
  | file (l : Location) (offset : Nat) (atEnd : Bool)
  /-- Nothing to read, and nothing is kept of what is printed. -/
  | nothing
  deriving DecidableEq

/-- What processes share. -/
structure Site where
  files : FileSystem
  /-- What was opened, in order. -/
  opened : Array OpenFile
  /-- What was printed on the streams, the last part first. -/
  printed : List (Stream × Bytes)
  /-- How many processes there were. -/
  processes : Nat

/-- What a process has open: the number of an open file for each descriptor. -/
abbrev Descriptors := List (Nat × Nat)

/-- The descriptors with one that stands for an open file. -/
def Descriptors.set (ds : Descriptors) (d file : Nat) : Descriptors :=
  (d, file) :: ds.filter fun p => p.1 != d

/-- The descriptors without one. -/
def Descriptors.close (ds : Descriptors) (d : Nat) : Descriptors := ds.filter fun p => p.1 != d

/-- What something is opened for. -/
inductive Access
  | reading
  | printing
  | appending
  /-- Reading and printing, without emptying the file. -/
  | both
  deriving DecidableEq, Repr

namespace Site

/-- The site in which a first process starts that reads a text. -/
def start (files : FileSystem) (input : Bytes) : Site :=
  ⟨files, #[.text input, .stream .output, .stream .errors], [], 0⟩

/-- The descriptors of that process. -/
def startDescriptors : Descriptors := [(0, 0), (1, 1), (2, 2)]

/-- Something newly opened, and its number. -/
def add (s : Site) (f : OpenFile) : Nat × Site :=
  (s.opened.size, { s with opened := s.opened.push f })

/-- The open file behind a descriptor. -/
def file? (s : Site) (ds : Descriptors) (d : Nat) : Option OpenFile :=
  (ds.lookup d).bind fun n => s.opened[n]?

/-- Changes the open file behind a descriptor. -/
def setFile (s : Site) (ds : Descriptors) (d : Nat) (f : OpenFile) : Site :=
  match ds.lookup d with
  | some n => { s with opened := s.opened.setIfInBounds n f }
  | none => s

/-- The content of the file at a location; nothing for anything else. -/
def contentAt (s : Site) (l : Location) : Bytes :=
  match s.files.tree.entryAt l with
  | some (.file content _) => content
  | _ => []

/-- Gives the file at a location another content. -/
def setContent (s : Site) (l : Location) (content : Bytes) : Site :=
  match s.files.tree.entryAt l with
  | some (.file _ executable) =>
    { s with files := { s.files with tree := s.files.tree.put l (.file content executable) } }
  | _ => s

/-! ## Reading -/

/-- What can be read from a descriptor. -/
def readable (s : Site) (ds : Descriptors) (d : Nat) : Bytes :=
  match s.file? ds d with
  | some (.text rest) => rest
  | some (.file l offset _) => (s.contentAt l).drop offset
  | _ => []

/-- Passes over bytes that have been read from a descriptor. -/
def advance (s : Site) (ds : Descriptors) (d count : Nat) : Site :=
  match s.file? ds d with
  | some (.text rest) => s.setFile ds d (.text (rest.drop count))
  | some (.file l offset atEnd) => s.setFile ds d (.file l (offset + count) atEnd)
  | _ => s

/-- Reads all that is left. -/
def take (s : Site) (ds : Descriptors) (d : Nat) : Bytes × Site :=
  let text := s.readable ds d
  (text, s.advance ds d text.length)

/-! ## Printing -/

/-- A content with bytes written over it from an offset; a gap before them is filled with zeros. -/
def overwrite (content : Bytes) (offset : Nat) (bytes : Bytes) : Bytes :=
  content.take offset ++ List.replicate (offset - content.length) 0 ++ bytes ++
    content.drop (offset + bytes.length)

/-- Whether something can be printed to a descriptor. -/
def isOpen (s : Site) (ds : Descriptors) (d : Nat) : Bool := (s.file? ds d).isSome

/-- Prints to a descriptor. -/
def print (s : Site) (ds : Descriptors) (d : Nat) (bytes : Bytes) : Site :=
  if bytes.isEmpty then s
  else
    match s.file? ds d with
    | some (.stream stream) => { s with printed := (stream, bytes) :: s.printed }
    | some (.gathering parts) => s.setFile ds d (.gathering (bytes :: parts))
    | some (.file l offset atEnd) =>
      let content := s.contentAt l
      let offset := if atEnd then content.length else offset
      (s.setContent l (overwrite content offset bytes)).setFile ds d
        (.file l (offset + bytes.length) atEnd)
    | _ => s

/-- What was printed to a descriptor for another process to read. -/
def gathered (s : Site) (ds : Descriptors) (d : Nat) : Bytes :=
  match s.file? ds d with
  | some (.gathering parts) => parts.reverse.flatten
  | _ => []

/-! ## Opening -/

/-- Opens what stands at a location, which may be a device. -/
def openLocation (s : Site) (ds : Descriptors) (l : Location) (atEnd : Bool) : Nat × Site :=
  if l = nullDevice then s.add .nothing
  else
    match (ownDescriptor? l).bind fun d => ds.lookup d with
    | some n => (n, s)
    | none => s.add (.file l 0 atEnd)

/-- Whether a location is that of a device. -/
def isDevice (l : Location) : Bool := l = nullDevice || (ownDescriptor? l).isSome

/-- Opens what stands at a path. What is to be printed to is made if it is missing, and emptied
unless it is only added to. -/
def openPath (s : Site) (ds : Descriptors) (access : Access) (p : Path) :
    Except SystemError (Nat × Site) :=
  match access with
  | .reading => (s.files.locate p).map fun l => s.openLocation ds l false
  | access =>
    match s.files.find p with
    | .error e => .error e
    | .ok (.vacant d name) =>
      let files := { s.files with tree := s.files.tree.put (name :: d) (.file [] false) }
      .ok ({ s with files := files }.openLocation ds (name :: d) (access == Access.appending))
    | .ok (.found l) =>
      if isDevice l then .ok (s.openLocation ds l false)
      else
        match s.files.tree.entryAt l with
        | some (.file _ _) =>
          let s := if access = .printing then s.setContent l [] else s
          .ok (s.openLocation ds l (access == Access.appending))
        | some (.tool _) => .error .permission
        | _ => .error .isDirectory

/-- The content of what stands at a path. -/
def content (s : Site) (ds : Descriptors) (p : Path) : Except SystemError (Bytes × Site) :=
  match s.files.locate p with
  | .error e => .error e
  | .ok l =>
    if s.files.tree.isDirectory l then .error .isDirectory
    else
      match ownDescriptor? l with
      | some d => .ok (s.take ds d)
      | none => .ok (s.contentAt l, s)

end Site

/-! ## Processes -/

/-- What a program is started with. -/
structure Start where
  /-- The name by which it was called. -/
  zero : Bytes
  args : List Bytes
  /-- The variables that it is given. -/
  environment : List (Bytes × Bytes)
  descriptors : Descriptors

end Testbed.Host
