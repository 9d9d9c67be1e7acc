import Testbed.Bytes

/-!
# Lines of texts

What the programs for texts do with lines and columns.

* `Lines.of` cuts a text into lines and `Lines.join` puts lines together;
* `Lines.first`, `Lines.last`, `Lines.sorted`, `Lines.runs` and others choose and arrange lines;
* `Ranges` are columns or fields, and `Exchange` replaces bytes by others.
-/

namespace Testbed.Host

namespace Lines

/-- The lines of a text, without their newlines. -/
def of : Bytes → List Bytes
  | [] => []
  | b :: rest =>
    if b = 10 then [] :: of rest
    else
      match of rest with
      | [] => [[b]]
      | line :: more => (b :: line) :: more

/-- Lines as a text in which a newline ends each of them. -/
def join (lines : List Bytes) : Bytes := lines.flatMap fun l => l ++ [10]

/-- The lines of a text with their newlines; the last line may have none. -/
def whole : Bytes → List Bytes
  | [] => []
  | b :: rest =>
    if b = 10 then [b] :: whole rest
    else
      match whole rest with
      | [] => [[b]]
      | line :: more => (b :: line) :: more

/-- How many words a text has. -/
def countWords (text : Bytes) : Nat :=
  (text.foldl
    (fun (s : Nat × Bool) b =>
      let blank := b == 32 || (9 ≤ b && b ≤ 13)
      if blank then (s.1, false) else if s.2 then s else (s.1 + 1, true))
    (0, false)).1

/-- The whole number at the start of a line, after blanks. -/
def leadingNumber (line : Bytes) : Int :=
  let trimmed := line.dropWhile fun b => b == 32 || b == 9
  let negative := trimmed.head? = some 45
  let digits := (if negative then trimmed.drop 1 else trimmed).takeWhile fun b => 48 ≤ b && b ≤ 57
  let n : Int := digits.foldl (fun n b => n * 10 + (b.toNat - 48 : Nat)) (0 : Nat)
  if negative then -n else n

/-- Whether a line may stand before another one. -/
def inOrder (byNumber : Bool) (a b : Bytes) : Bool :=
  if byNumber then
    let m := leadingNumber a
    let n := leadingNumber b
    m < n || (m == n && precedes a b)
  else precedes a b

/-- Lines in order. -/
def sorted (byNumber backwards once : Bool) (lines : List Bytes) : List Bytes :=
  let up := lines.mergeSort (inOrder byNumber)
  let kept := if once then up.eraseReps else up
  if backwards then kept.reverse else kept

/-- Runs of the same line, with their lengths. -/
def runs : List Bytes → List (Nat × Bytes)
  | [] => []
  | line :: rest =>
    match runs rest with
    | [] => [(1, line)]
    | (n, next) :: more =>
      if line = next then (n + 1, next) :: more else (1, line) :: (n, next) :: more

/-- The fields of a line between separators. -/
def fields (separator : UInt8) : Bytes → List Bytes
  | [] => [[]]
  | b :: rest =>
    if b = separator then [] :: fields separator rest
    else
      match fields separator rest with
      | [] => [[b]]
      | field :: more => (b :: field) :: more

end Lines

/-! ## Ranges -/

/-- Ranges of columns or fields, counted from 1; one may have no end. -/
abbrev Ranges := List (Nat × Option Nat)

namespace Ranges

/-- The number that digits spell. -/
def number? (digits : Bytes) : Option Nat :=
  if digits.isEmpty || !digits.all (fun b => 48 ≤ b && b ≤ 57) then none
  else some (digits.foldl (fun n b => n * 10 + (b.toNat - 48)) 0)

/-- Reads one range. -/
def readOne (text : Bytes) : Option (Nat × Option Nat) :=
  match Lines.fields 45 text with
  | [a] => (number? a).map fun n => (n, some n)
  | [a, b] =>
    if a.isEmpty then (number? b).map fun n => (1, some n)
    else if b.isEmpty then (number? a).map fun n => (n, none)
    else (number? a).bind fun m => (number? b).map fun n => (m, some n)
  | _ => none

/-- Reads ranges between commas. -/
def read (text : Bytes) : Option Ranges := (Lines.fields 44 text).mapM readOne

/-- Whether a number lies in one of the ranges. -/
def holds (r : Ranges) (n : Nat) : Bool :=
  r.any fun p => p.1 ≤ n && match p.2 with
    | some last => n ≤ last
    | none => true

/-- The elements of a list at places in the ranges. -/
def choose {α : Type} (r : Ranges) (list : List α) : List α :=
  (list.zipIdx 1).filterMap fun p => if r.holds p.2 then some p.1 else none

end Ranges

/-! ## Exchanging bytes -/

namespace Exchange

/-- The bytes of a class. -/
def classBytes (name : Bytes) : List UInt8 :=
  let every := (List.range 256).map UInt8.ofNat
  let lower (b : UInt8) : Bool := 97 ≤ b && b ≤ 122
  let upper (b : UInt8) : Bool := 65 ≤ b && b ≤ 90
  let digit (b : UInt8) : Bool := 48 ≤ b && b ≤ 57
  if name = utf8 "lower" then every.filter lower
  else if name = utf8 "upper" then every.filter upper
  else if name = utf8 "digit" then every.filter digit
  else if name = utf8 "alpha" then every.filter fun b => lower b || upper b
  else if name = utf8 "alnum" then every.filter fun b => lower b || upper b || digit b
  else if name = utf8 "space" then every.filter fun b => b == 32 || (9 ≤ b && b ≤ 13)
  else if name = utf8 "blank" then [9, 32]
  else if name = utf8 "punct" then
    every.filter fun b => 33 ≤ b && b ≤ 126 && !(lower b || upper b || digit b)
  else []

/-- The bytes of a set that is written with ranges, classes and escapes. -/
def expand : Nat → Bytes → List UInt8
  | 0, _ => []
  | _, [] => []
  | fuel + 1, 91 :: 58 :: rest =>
    let name := rest.takeWhile (· != 58)
    classBytes name ++ expand fuel (rest.drop (name.length + 2))
  | fuel + 1, 92 :: b :: rest =>
    let byte : UInt8 := if b = 110 then 10 else if b = 116 then 9 else if b = 114 then 13 else b
    byte :: expand fuel rest
  | fuel + 1, a :: 45 :: b :: rest =>
    (List.range (b.toNat + 1 - a.toNat)).map (fun n => UInt8.ofNat (a.toNat + n)) ++
      expand fuel rest
  | fuel + 1, b :: rest => b :: expand fuel rest

/-- The byte in place of another one: the one at the same place in the second set, or the last one
there. -/
def image (first second : List UInt8) (b : UInt8) : UInt8 :=
  match first.idxOf? b with
  | none => b
  | some n => (second[n]?).getD (second.getLast?.getD b)

/-- A text with runs of the same byte from a set cut to one. -/
def squeeze (set : List UInt8) : Bytes → Bytes
  | [] => []
  | b :: rest =>
    match squeeze set rest with
    | [] => [b]
    | c :: more => if b = c && set.contains b then c :: more else b :: c :: more

end Exchange

end Testbed.Host
