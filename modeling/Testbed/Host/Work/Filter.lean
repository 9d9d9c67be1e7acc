import Testbed.Host.Work.Lines
import Testbed.Host.Work.Regular
import Testbed.Host.Work.Basic

/-!
# Programs for texts

These programs read texts, from files or from their input, and print what they make of them.

* `concatenate`, `firstPart`, `lastPart` and `reverseLines` print texts or parts of them;
* `count`, `sort`, `distinct`, `cut` and `exchange` count, arrange and change what they read;
* `split` also writes what it reads to files, and `search` looks for lines.
-/

namespace Testbed.Host.Filter

open Work

/-- The paths that a program reads: its input if none is named. -/
def sources (a : Arguments) : List Path := if a.operands.isEmpty then [[45]] else a.operands

/-- Goes on with the content of a path, or complains about it. -/
def reading (path : Path) (work : Bytes → Work Unit) : Work Unit := do
  match ← content path with
  | .ok text => work text
  | .error e => complain (path ++ utf8 (": " ++ e.description))

/-- Goes on with the contents of paths, one after the other. -/
def eachSource (a : Arguments) (work : Bytes → Work Unit) : Work Unit := do
  for path in sources a do
    reading path work

/-- The contents of all paths together. -/
def together (a : Arguments) : Work Bytes := do
  let mut parts := []
  for path in sources a do
    match ← content path with
    | .ok text => parts := text :: parts
    | .error e => complain (path ++ utf8 (": " ++ e.description))
  return parts.reverse.flatten

/-- A number, with blanks before it up to a width. -/
def numberIn (width n : Nat) : Bytes :=
  let digits := utf8 (toString n)
  List.replicate (width - digits.length) 32 ++ digits

/-! ## Whole texts and parts -/

/-- Prints texts one after the other; lines can be numbered. -/
def concatenate : Work Unit :=
  withArguments ⟨utf8 "nuv", [], []⟩ fun a =>
    if a.has 110 then do
      let text ← together a
      let numbered := (Lines.whole text).zipIdx 1
      say (numbered.flatMap fun p => numberIn 6 p.2 ++ 9 :: p.1)
    else eachSource a say

/-- Prints the lines of texts in reverse order. -/
def reverseLines : Work Unit :=
  withArguments ⟨[], [], []⟩ fun a =>
    eachSource a fun text => say (Lines.whole text).reverse.flatten

/-- Prints the bytes of each line in reverse order. -/
def reverseBytes : Work Unit :=
  withArguments ⟨[], [], []⟩ fun a =>
    eachSource a fun text =>
      say ((Lines.whole text).flatMap fun l =>
        if l.getLast? = some 10 then l.dropLast.reverse ++ [10] else l.reverse)

/-- Arguments in which a number after a dash asks for so many lines. -/
def withCount (args : List Bytes) : List Bytes :=
  match args with
  | (45 :: digits) :: rest =>
    if (Ranges.number? digits).isSome then utf8 "-n" :: digits :: rest else args
  | args => args

/-- The line above a text where several are printed. -/
def heading (first : Bool) (path : Path) : Bytes :=
  (if first then [] else [10]) ++ utf8 "==> " ++
    (if path = [45] then utf8 "standard input" else path) ++ utf8 " <==\n"

/-- Prints a part of each text. -/
def parts (part : Bytes → Bytes) (a : Arguments) : Work Unit := do
  let titled := 1 < a.operands.length && !a.has 113
  let mut first := true
  for path in sources a do
    match ← content path with
    | .ok text => do
      if titled then say (heading first path)
      say (part text)
      first := false
    | .error e =>
      complain (utf8 "cannot open " ++ quote path ++ utf8 (" for reading: " ++ e.description))

/-- Reads the options of a program that prints parts, and goes on with how many lines or bytes are
asked for, and the sign before that number. -/
def counted (work : Arguments → Bool → Option UInt8 → Nat → Work Unit) : Work Unit := do
  let args := withCount (← get).start.args
  match Arguments.read ⟨utf8 "qv", utf8 "nc", []⟩ args with
  | .error e => misuse e
  | .ok a =>
    let bytes := a.has 99
    let value := ((a.value? 99).or (a.value? 110)).getD (utf8 "10")
    let sign := value.head?.filter fun b => b == 43 || b == 45
    let digits := if sign.isSome then value.drop 1 else value
    match Ranges.number? digits with
    | some n => work a bytes sign n
    | none =>
      complain (utf8 (if bytes then "invalid number of bytes: " else "invalid number of lines: ") ++
        quote value)

/-- Prints the first lines or bytes of texts; a dash before the number leaves out the last ones. -/
def firstPart : Work Unit :=
  counted fun a bytes sign n =>
    parts
      (fun text =>
        let count (total : Nat) : Nat := if sign = some 45 then total - n else n
        if bytes then text.take (count text.length)
        else
          let lines := Lines.whole text
          (lines.take (count lines.length)).flatten)
      a

/-- Prints the last lines or bytes of texts; a plus before the number starts with that one. -/
def lastPart : Work Unit :=
  counted fun a bytes sign n =>
    parts
      (fun text =>
        let count (total : Nat) : Nat := if sign = some 43 then n - 1 else total - n
        if bytes then text.drop (count text.length)
        else
          let lines := Lines.whole text
          (lines.drop (count lines.length)).flatten)
      a

/-! ## Counting -/

/-- The counts that are asked for of a text. -/
def counts (a : Arguments) (text : Bytes) : List Nat :=
  let all := !(a.has 108 || a.has 119 || a.has 99 || a.has 109)
  (if all || a.has 108 then [text.count 10] else []) ++
    (if all || a.has 119 then [Lines.countWords text] else []) ++
    (if all || a.has 99 || a.has 109 then [text.length] else [])

/-- Counts as a line, each in so many columns. -/
def countLine (width : Nat) (numbers : List Nat) (name : Bytes) : Bytes :=
  ((numbers.map (numberIn width)).intersperse [32]).flatten ++
    (if name.isEmpty then [] else 32 :: name) ++ [10]

/-- Counts lines, words and bytes. -/
def count : Work Unit :=
  withArguments ⟨utf8 "lwcm", [], []⟩ fun a => do
    let found ← (sources a).mapM fun path => do
      return (path, ← content path)
    let texts := found.filterMap fun p => p.2.toOption
    let totals := texts.foldl
      (fun sums text =>
        let c := counts a text
        if sums.isEmpty then c else List.zipWith (· + ·) sums c)
      []
    let size := texts.flatten.length
    let single := found.length = 1 && (counts a []).length = 1
    let width :=
      if single then 1
      else if found.any fun p => p.1 == [45] then 7
      else (toString size).length
    for (path, text) in found do
      match text with
      | .ok text => say (countLine width (counts a text) (if a.operands.isEmpty then [] else path))
      | .error e => complain (path ++ utf8 (": " ++ e.description))
    if 1 < found.length then
      say (countLine width (if totals.isEmpty then (counts a []) else totals) (utf8 "total"))

/-! ## Arranging and changing -/

/-- Prints lines in order. -/
def sort : Work Unit :=
  withArgumentsOr 2 ⟨utf8 "nrubs", utf8 "kt", [("reverse", 114), ("unique", 117)]⟩ fun a => do
    let mut parts := []
    for path in sources a do
      match ← content path with
      | .ok text => parts := text :: parts
      | .error e => do
        complain (utf8 "cannot read: " ++ path ++ utf8 (": " ++ e.description))
        setCode 2
        return
    let lines := parts.reverse.flatMap Lines.of
    say (Lines.join (Lines.sorted (a.has 110) (a.has 114) (a.has 117) lines))

/-- Prints runs of the same line once. -/
def distinct : Work Unit :=
  withArguments ⟨utf8 "cdu", [], []⟩ fun a => do
    let runs := Lines.runs (Lines.of (← together a))
    let kept := runs.filter fun r =>
      if a.has 100 then 1 < r.1 else if a.has 117 then r.1 = 1 else true
    say (Lines.join (kept.map fun r => if a.has 99 then numberIn 7 r.1 ++ 32 :: r.2 else r.2))

/-- The chosen fields of a line, which is kept as it is if it has no separator. -/
def chosenFields (r : Ranges) (separator : UInt8) (line : Bytes) : Bytes :=
  if line.contains separator then
    ((r.choose (Lines.fields separator line)).intersperse [separator]).flatten
  else line

/-- Prints columns or fields of lines. -/
def cut : Work Unit :=
  withArguments ⟨utf8 "s", utf8 "dfcb", []⟩ fun a => do
    let columns := (a.value? 99).or (a.value? 98)
    match (columns.or (a.value? 102)).bind Ranges.read with
    | none => misuse (utf8 "you must specify a list of bytes, characters, or fields")
    | some r =>
      let separator := ((a.value? 100).bind List.head?).getD 9
      eachSource a fun text =>
        say (Lines.join ((Lines.of text).map fun line =>
          if columns.isSome then r.choose line else chosenFields r separator line))

/-- Replaces bytes by others, or removes them. -/
def exchange : Work Unit :=
  withArguments ⟨utf8 "dscC", [], []⟩ fun a =>
    needing 1 "set" a do
      let set (text : Bytes) : List UInt8 := Exchange.expand (text.length + 1) text
      let first := set (a.operands.headD [])
      let first :=
        if a.has 99 || a.has 67 then
          ((List.range 256).map UInt8.ofNat).filter fun b => !first.contains b
        else first
      let second := (a.operands.tail.head?).map set
      let text ← input
      let changed :=
        if a.has 100 then text.filter fun b => !first.contains b
        else
          match second with
          | some s => text.map (Exchange.image first s)
          | none => text
      say (if a.has 115 then Exchange.squeeze (second.getD first) changed else changed)

/-- Prints what is read, and writes it to files. -/
def split : Work Unit :=
  withArguments ⟨utf8 "ai", [], []⟩ fun a => do
    let text ← input
    say text
    for path in a.operands do
      let b ← get
      let access := if a.has 97 then Access.appending else Access.printing
      match b.site.openPath b.start.descriptors access path with
      | .error e => complain (path ++ utf8 (": " ++ e.description))
      | .ok (n, site) => set { b with site := site.print [(0, n)] 0 text }

/-! ## Searching -/

/-- A letter as a small one. -/
def small (b : UInt8) : UInt8 := if 65 ≤ b && b ≤ 90 then b + 32 else b

/-- Whether a byte can stand in a word. -/
def inWord (b : UInt8) : Bool :=
  (48 ≤ b && b ≤ 57) || (65 ≤ b && b ≤ 90) || (97 ≤ b && b ≤ 122) || b == 95

/-- A text as an expression that covers it alone. -/
def literally (text : Bytes) : Regular :=
  text.foldl (fun r b => .both r (.one (.byte b))) .nothing

/-- How lines are told from others. -/
structure Wanted where
  expressions : List Regular
  ignoresCase : Bool
  whole : Bool
  asWord : Bool
  inverted : Bool

/-- Whether a part of a line that an expression covers is a word. -/
def coversWord (r : Regular) (line : Bytes) : Bool :=
  let a := line.toArray
  (List.range a.size).any fun p =>
    (p = 0 || !((a[p - 1]?).map inWord).getD false) &&
      (Regular.ends a r p).any fun e => p < e && !((a[e]?).map inWord).getD false

/-- Whether a line is one of those that are looked for. -/
def Wanted.holds (w : Wanted) (line : Bytes) : Bool :=
  let line := if w.ignoresCase then line.map small else line
  let found := w.expressions.any fun r =>
    if w.whole then r.covers line
    else if w.asWord then coversWord r line
    else r.isIn line
  found != w.inverted

/-- The expressions that a text has, one on each line. -/
def expressionsOf (a : Arguments) (text : Bytes) : Option (List Regular) :=
  let text := if a.has 105 then text.map small else text
  let lines := if text.isEmpty then [[]] else Lines.of text
  if a.has 70 then some (lines.map literally) else lines.mapM (Regular.read? (a.has 69))

/-- Prints what was found in a text, and says whether it was anything. -/
def report (a : Arguments) (w : Wanted) (title : Bytes) (text : Bytes) : Work Bool := do
  let lines := (Lines.of text).zipIdx 1
  let found := lines.filter fun p => w.holds p.1
  let numbered (p : Bytes × Nat) (shown : Bytes) : Bytes :=
    title ++ (if a.has 110 then utf8 (toString p.2) ++ [58] else []) ++ shown
  if a.has 113 then pure ()
  else if a.has 108 then
    if !found.isEmpty then
      sayLine (if title.isEmpty then utf8 "(standard input)" else title.dropLast)
  else if a.has 99 then sayLine (title ++ utf8 (toString found.length))
  else if a.has 111 then
    for p in found do
      for r in w.expressions do
        for part in r.parts p.1.toArray (p.1.length + 1) 0 do
          sayLine (numbered p part)
  else say (Lines.join (found.map fun p => numbered p p.1))
  return !found.isEmpty

/-- Says how to look for lines. -/
def searchUsage : Work Unit :=
  modify fun b =>
    { b with
      code := 2
      site := b.site.print b.start.descriptors 2
        (utf8 "Usage: grep [OPTION]... PATTERNS [FILE]...\n" ++
          utf8 "Try 'grep --help' for more information.\n") }

/-- Looks for lines. -/
def search : Work Unit := do
  match Arguments.read ⟨utf8 "qvcniEFolxwshHGa", utf8 "e", []⟩ (← get).start.args with
  | .error e => do
    complain e
    searchUsage
  | .ok a => do
    let given := (a.options.filter fun o => o.1 == 101).map Prod.snd
    let (texts, paths) :=
      if given.isEmpty then (a.operands.take 1, a.operands.drop 1) else (given, a.operands)
    match (texts.mapM (expressionsOf a)).map List.flatten with
    | none => do
      complain (utf8 "Unmatched ( or \\(")
      setCode 2
    | some expressions => do
      if texts.isEmpty then
        searchUsage
        return
      let w : Wanted := ⟨expressions, a.has 105, a.has 120, a.has 119, a.has 118⟩
      let titled := (1 < paths.length || a.has 72) && !a.has 104
      let mut found := false
      let mut refused := false
      for path in if paths.isEmpty then [[45]] else paths do
        let title := if titled || a.has 108 then path ++ [58] else []
        match ← content path with
        | .ok text => if ← report a w (if path = [45] && !titled then [] else title) text then
            found := true
        | .error e => do
          refused := true
          if !a.has 115 then complain (path ++ utf8 (": " ++ e.description))
      setCode (if found && a.has 113 then 0 else if refused then 2 else if found then 0 else 1)

end Testbed.Host.Filter
