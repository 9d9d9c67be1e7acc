import Testbed.FileSystem.Effect

/-!
# Patterns

In a pattern a star stands for any bytes, a question mark for one, and brackets for one of those
that they list. Quoted bytes stand for themselves.

* `Cell` is a byte of a word, quoted or not, and `Glob` an element of a pattern;
* `Glob.ofCells` reads a pattern, and `Glob.covers` says whether it covers a whole text;
* `Glob.paths` lists the paths that a pattern covers.
-/

namespace Testbed.Shell

/-- A byte of a word. -/
structure Cell where
  quoted : Bool
  byte : UInt8
  deriving DecidableEq, Repr

/-- The bytes of cells. -/
def Cell.bytes (cells : List Cell) : Bytes := cells.map Cell.byte

/-- Bytes as cells. -/
def Cell.ofBytes (quoted : Bool) (bytes : Bytes) : List Cell := bytes.map fun b => ⟨quoted, b⟩

/-- Whether a cell holds a byte with its special meaning. -/
def Cell.isMark (c : Cell) (b : UInt8) : Bool := !c.quoted && c.byte == b

/-- An element of a pattern. -/
inductive Glob
  | byte (b : UInt8)
  /-- Any byte. -/
  | one
  /-- Any bytes. -/
  | many
  /-- A byte in one of the ranges, or in none of them. -/
  | among (outside : Bool) (ranges : List (UInt8 × UInt8))
  deriving DecidableEq, Repr

namespace Glob

/-! ## Reading patterns -/

/-- The bytes of a class of bytes. -/
def classRanges? (name : String) : Option (List (UInt8 × UInt8)) :=
  match name with
  | "alnum" => some [(48, 57), (65, 90), (97, 122)]
  | "alpha" => some [(65, 90), (97, 122)]
  | "blank" => some [(32, 32), (9, 9)]
  | "cntrl" => some [(0, 31), (127, 127)]
  | "digit" => some [(48, 57)]
  | "graph" => some [(33, 126)]
  | "lower" => some [(97, 122)]
  | "print" => some [(32, 126)]
  | "punct" => some [(33, 47), (58, 64), (91, 96), (123, 126)]
  | "space" => some [(32, 32), (9, 13)]
  | "upper" => some [(65, 90)]
  | "xdigit" => some [(48, 57), (65, 70), (97, 102)]
  | _ => none

/-- The names of the classes. -/
def classNames : List String :=
  ["alnum", "alpha", "blank", "cntrl", "digit", "graph", "lower", "print", "punct", "space",
    "upper", "xdigit"]

/-- The class at the front of cells that follow a bracket, and what follows it. -/
def takeClass? (cells : List Cell) : Option (List (UInt8 × UInt8) × List Cell) :=
  classNames.findSome? fun name =>
    let text := 58 :: (utf8 name ++ [58, 93])
    if text.isPrefixOf (Cell.bytes cells) then
      (classRanges? name).map fun ranges => (ranges, cells.drop text.length)
    else none

/-- Reads what brackets list, up to the closing one; `first` says whether nothing was read. The
second part is what follows; none if no bracket closes. -/
def takeRanges : Nat → Bool → List Cell → Option (List (UInt8 × UInt8) × List Cell)
  | 0, _, _ => none
  | _, _, [] => none
  | fuel + 1, first, c :: rest =>
    if c.isMark 93 && !first then some ([], rest)
    else
      match if c.isMark 91 then takeClass? rest else none with
      | some (ranges, rest) => (takeRanges fuel false rest).map fun r => (ranges ++ r.1, r.2)
      | none =>
        match rest with
        | dash :: last :: more =>
          if dash.isMark 45 && !last.isMark 93 then
            (takeRanges fuel false more).map fun r => ((c.byte, last.byte) :: r.1, r.2)
          else (takeRanges fuel false rest).map fun r => ((c.byte, c.byte) :: r.1, r.2)
        | _ => (takeRanges fuel false rest).map fun r => ((c.byte, c.byte) :: r.1, r.2)

/-- What brackets list after the opening one, and what follows. -/
def takeAmong? (cells : List Cell) : Option (Glob × List Cell) :=
  let outside := (cells.head?.map (·.isMark 33)).getD false
  let inside := if outside then cells.drop 1 else cells
  (takeRanges (inside.length + 1) true inside).map fun r => (.among outside r.1, r.2)

/-- Reads a pattern of at most so many elements. -/
def readCells : Nat → List Cell → List Glob
  | 0, _ => []
  | _, [] => []
  | fuel + 1, c :: rest =>
    if c.isMark 42 then .many :: readCells fuel rest
    else if c.isMark 63 then .one :: readCells fuel rest
    else if c.isMark 92 then
      match rest with
      | next :: more => .byte next.byte :: readCells fuel more
      | [] => [.byte 92]
    else
      match if c.isMark 91 then takeAmong? rest else none with
      | some (g, rest) => g :: readCells fuel rest
      | none => .byte c.byte :: readCells fuel rest

/-- The pattern of cells. -/
def ofCells (cells : List Cell) : List Glob := readCells cells.length cells

/-- Whether an element stands for more than one text. -/
def isOpen : Glob → Bool
  | .byte _ => false
  | _ => true

/-! ## Covering -/

/-- Whether an element other than `many` stands for a byte. -/
def holds (b : UInt8) : Glob → Bool
  | .byte c => b == c
  | .one => true
  | .many => false
  | .among outside ranges => outside != ranges.any fun r => r.1 ≤ b && b ≤ r.2

/-- A text and all that is left of it when bytes are taken from its front. -/
def suffixes : Bytes → List Bytes
  | [] => [[]]
  | b :: rest => (b :: rest) :: suffixes rest

/-- Whether a pattern covers a whole text. -/
def covers : List Glob → Bytes → Bool
  | [], text => text.isEmpty
  | .many :: rest, text => (suffixes text).any (covers rest)
  | g :: rest, text =>
    match text with
    | [] => false
    | b :: text => holds b g && covers rest text

/-- How many bytes at the start of a text a pattern covers, the fewest or the most. -/
def coveredStart (pattern : List Glob) (longest : Bool) (text : Bytes) : Option Nat :=
  let lengths := (List.range (text.length + 1)).filter fun n => covers pattern (text.take n)
  if longest then lengths.getLast? else lengths.head?

/-- A text without what a pattern covers at its start. -/
def withoutStart (pattern : List Glob) (longest : Bool) (text : Bytes) : Bytes :=
  text.drop ((coveredStart pattern longest text).getD 0)

/-- A text without what a pattern covers at its end. -/
def withoutEnd (pattern : List Glob) (longest : Bool) (text : Bytes) : Bytes :=
  let lengths := (List.range (text.length + 1)).filter fun n => covers pattern (text.drop n)
  match if longest then lengths.head? else lengths.getLast? with
  | some n => text.take n
  | none => text

/-! ## Paths -/

/-- The parts of cells between slashes. -/
def parts : List Cell → List (List Cell)
  | [] => [[]]
  | c :: rest =>
    if c.byte = slash then [] :: parts rest
    else
      match parts rest with
      | [] => [[c]]
      | part :: more => (c :: part) :: more

/-- The names in a directory that a pattern covers. A name that starts with a dot is only covered
by a pattern that starts with one. -/
def names (fs : FileSystem) (directory : Path) (pattern : List Glob) : List Bytes :=
  let hidden := pattern.head? = some (.byte 46)
  let path := if directory.isEmpty then selfName else directory
  match fs.list path with
  | .error _ => []
  | .ok inside =>
    (selfName :: parentName :: inside.map FileName.bytes).filter fun name =>
      (hidden || name.head? != some 46) && covers pattern name

/-- The paths that parts of a pattern cover behind a path. -/
def pathsFrom (fs : FileSystem) : Path → List (List Cell) → List Path
  | before, [] => [before]
  | before, part :: rest =>
    let pattern := ofCells part
    let next (name : Bytes) : Path :=
      before ++ name ++ if rest.isEmpty then [] else [slash]
    if pattern.any isOpen then
      (names fs before pattern).flatMap fun name => pathsFrom fs (next name) rest
    else
      let path := next (Cell.bytes part)
      if rest.isEmpty then if (fs.standing path).isOk then [path] else []
      else pathsFrom fs path rest

/-- The paths that a pattern covers, in order; none if the cells are no pattern. -/
def paths (fs : FileSystem) (cells : List Cell) : List Path :=
  if (ofCells cells).any isOpen then (pathsFrom fs [] (parts cells)).mergeSort precedes else []

end Glob

end Testbed.Shell
