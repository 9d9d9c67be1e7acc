import Testbed.Shell.Escape
import Testbed.Shell.Numeral

/-!
# Formats

A format is a text in which directives stand for arguments. It is used again as long as there are
arguments left.

* `Directive` is how an argument is shown: its marks, its width and its precision;
* `Directive.showText`, `Directive.showInteger` and `Directive.showReal` show one;
* `Format.print` gives what a format and arguments print, and what is wrong with them.
-/

namespace Testbed.Shell

/-- How an argument is shown. -/
structure Directive where
  left : Bool
  plus : Bool
  space : Bool
  zeros : Bool
  alternate : Bool
  width : Nat
  precision : Option Nat
  deriving DecidableEq, Repr

namespace Directive

/-- A directive that asks for nothing. -/
def plain : Directive := ⟨false, false, false, false, false, 0, none⟩

/-- A text as wide as is asked for. -/
def pad (d : Directive) (text : Bytes) : Bytes :=
  let fill := List.replicate (d.width - text.length) (32 : UInt8)
  if d.left then text ++ fill else fill ++ text

/-- Shows a text. -/
def showText (d : Directive) (text : Bytes) : Bytes :=
  d.pad (match d.precision with
    | some n => text.take n
    | none => text)

/-- The sign of a number that is shown with one. -/
def sign (d : Directive) (negative : Bool) : Bytes :=
  if negative then [45] else if d.plus then [43] else if d.space then [32] else []

/-- Shows what stands before digits, and the digits; zeros between them fill the width if that is
asked for. -/
def showDigits (d : Directive) (before digits : Bytes) (zeros : Bool) : Bytes :=
  if zeros && !d.left then
    before ++ List.replicate (d.width - before.length - digits.length) 48 ++ digits
  else d.pad (before ++ digits)

/-- The digits of a number in a base. -/
def digitsOf (base : Nat) (n : Nat) : Bytes :=
  (Nat.toDigits base n).map fun c => UInt8.ofNat c.toNat

/-- The digits of a number, at least as many as the precision asks for. -/
def preciseDigits (d : Directive) (base n : Nat) : Bytes :=
  let digits := if n = 0 && d.precision = some 0 then [] else digitsOf base n
  List.replicate (d.precision.getD 1 - digits.length) 48 ++ digits

/-- Shows a number with its sign. -/
def showInteger (d : Directive) (n : Int) : Bytes :=
  d.showDigits (d.sign (n < 0)) (d.preciseDigits 10 n.natAbs) (d.zeros && d.precision.isNone)

/-- Shows a number without sign in a base, which a letter stands for. -/
def showNatural (d : Directive) (letter : UInt8) (n : Nat) : Bytes :=
  let base := if letter = 111 then 8 else if letter = 117 then 10 else 16
  let digits := d.preciseDigits base n
  let digits := if letter = 88 then digits.map fun b => if 97 ≤ b then b - 32 else b else digits
  let digits :=
    if d.alternate && letter = 111 && digits.head? != some 48 then 48 :: digits else digits
  let before : Bytes := if d.alternate && base = 16 && n != 0 then [48, letter] else []
  d.showDigits before digits (d.zeros && d.precision.isNone)

/-! ## Numbers with a point -/

/-- The whole number nearest to a fraction; of two, the even one. -/
def nearest (numerator denominator : Nat) : Nat :=
  let q := numerator / denominator
  let r := numerator % denominator
  if denominator < 2 * r || (2 * r = denominator && q % 2 = 1) then q + 1 else q

/-- A number that is not negative as a fraction. -/
def fraction (x : Float) : Nat × Nat :=
  let bits := x.toBits.toNat % 9223372036854775808
  let exponent := bits / 4503599627370496
  let mantissa := bits % 4503599627370496
  let m := if exponent = 0 then mantissa else mantissa + 4503599627370496
  let e := max exponent 1
  if e < 1075 then (m, Nat.pow 2 (1075 - e)) else (m * Nat.pow 2 (e - 1075), 1)

/-- A power of ten. -/
def tenTo (n : Nat) : Nat := Nat.pow 10 n

/-- A fraction with so many digits after the point. -/
def fixedDigits (places : Nat) (point : Bool) (f : Nat × Nat) : Bytes :=
  let n := nearest (f.1 * tenTo places) f.2
  let digits := digitsOf 10 n
  let digits := List.replicate (places + 1 - digits.length) 48 ++ digits
  let whole := digits.take (digits.length - places)
  if places = 0 then if point then whole ++ [46] else whole
  else whole ++ 46 :: digits.drop (digits.length - places)

/-- The decimal exponent of a fraction above zero, searched downwards from one that is too large. -/
def exponentFrom (f : Nat × Nat) : Nat → Int → Int
  | 0, e => e
  | fuel + 1, e =>
    let reached :=
      if 0 ≤ e then f.2 * tenTo e.toNat ≤ f.1 else f.2 ≤ f.1 * tenTo (-e).toNat
    if reached then e else exponentFrom f fuel (e - 1)

/-- A fraction times a power of ten. -/
def scale (f : Nat × Nat) (e : Int) : Nat × Nat :=
  if 0 ≤ e then (f.1 * tenTo e.toNat, f.2) else (f.1, f.2 * tenTo (-e).toNat)

/-- The digits of a fraction with one before the point, and its decimal exponent. -/
def scientific (places : Nat) (f : Nat × Nat) : Nat × Int :=
  if f.1 = 0 then (0, 0)
  else
    let e := exponentFrom f 700 310
    let scaled := scale f (places - e)
    let n := nearest scaled.1 scaled.2
    if n = tenTo (places + 1) then (tenTo places, e + 1) else (n, e)

/-- An exponent as it is written. -/
def exponentText (letter : UInt8) (e : Int) : Bytes :=
  let digits := digitsOf 10 e.natAbs
  letter :: (if e < 0 then 45 else 43) :: (List.replicate (2 - digits.length) 48 ++ digits)

/-- A fraction with an exponent. -/
def scientificDigits (places : Nat) (point : Bool) (letter : UInt8) (f : Nat × Nat) : Bytes :=
  let (n, e) := scientific places f
  fixedDigits places point (n, tenTo places) ++ exponentText letter e

/-- A text without the zeros at the end of what follows its point. -/
def withoutZeros (text : Bytes) : Bytes :=
  if text.contains 46 then
    let kept := (text.reverse.dropWhile (· == 48)).reverse
    if kept.getLast? = some 46 then kept.dropLast else kept
  else text

/-- A fraction with so many digits, with an exponent only where it is much larger or smaller than
one. -/
def generalDigits (alternate : Bool) (precision : Nat) (letter : UInt8) (f : Nat × Nat) : Bytes :=
  let p := max precision 1
  let (n, e) := scientific (p - 1) f
  if e < -4 ∨ (p : Int) ≤ e then
    let digits := fixedDigits (p - 1) alternate (n, tenTo (p - 1))
    (if alternate then digits else withoutZeros digits) ++ exponentText letter e
  else
    let digits := fixedDigits ((p : Int) - 1 - e).toNat alternate f
    if alternate then digits else withoutZeros digits

/-- Shows a number with a point, in the way that a letter stands for. -/
def showReal (d : Directive) (letter : UInt8) (x : Float) : Bytes :=
  let negative := x.toBits.toNat ≥ 9223372036854775808
  let f := fraction x
  let precision := d.precision.getD 6
  let digits :=
    if letter = 102 || letter = 70 then fixedDigits precision d.alternate f
    else if letter = 101 || letter = 69 then scientificDigits precision d.alternate letter f
    else generalDigits d.alternate precision (letter - 2) f
  d.showDigits (d.sign negative) digits d.zeros

end Directive

namespace Format

/-! ## Arguments -/

/-- What is left of the arguments, and what has been printed, said about them and decided, each
with the last part first. -/
structure State where
  args : List Bytes
  printed : List Bytes
  warnings : List Bytes

/-- Why nothing more is printed. -/
inductive Stop
  /-- An escape ends the text. -/
  | done
  /-- The format cannot be used. -/
  | fault (message : Bytes)
  deriving DecidableEq

/-- Printing with a format. -/
abbrev Printing := StateT State (Except (Stop × State))

/-- Stops with what there is. -/
def stop {α : Type} (s : Stop) : Printing α := do
  throw (s, ← get)

/-- Prints bytes. -/
def emit (bytes : Bytes) : Printing Unit := modify fun s => { s with printed := bytes :: s.printed }

/-- Takes an argument. -/
def takeArg : Printing (Option Bytes) := do
  let s ← get
  set { s with args := s.args.tail }
  return s.args.head?

/-- Says what is wrong with an argument. -/
def warn (arg : Bytes) (what : String) : Printing Unit :=
  modify fun s => { s with warnings := (arg ++ utf8 (": " ++ what)) :: s.warnings }

/-- Warns if a text is no number as a whole. -/
def check (arg rest : Bytes) (digits : Nat) (fits : Bool) : Printing Unit :=
  if !rest.isEmpty then
    warn arg (if digits = 0 then "expected numeric value" else "not completely converted")
  else if !fits then warn arg "Numerical result out of range"
  else pure ()

/-- Takes an argument as a whole number; that of a quoted byte is the byte. -/
def takeInteger (signed : Bool) : Printing Int := do
  match ← takeArg with
  | none => return 0
  | some arg =>
    match arg with
    | 39 :: rest => return (rest.headD 0).toNat
    | 34 :: rest => return (rest.headD 0).toNat
    | _ => do
      let n := Numeral.split true arg
      let fits :=
        if signed then Numeral.inRange n.value else n.value.natAbs < 18446744073709551616
      check arg n.rest n.digits fits
      if signed then return Numeral.clamp n.value
      else if fits then return n.value % 18446744073709551616
      else return 18446744073709551615

/-- The number with a point at the front of a text, how many digits it has, and what follows. -/
def splitReal (text : Bytes) : Float × Nat × Bytes :=
  let trimmed := text.dropWhile Numeral.isSpace
  let negative := trimmed.head? = some 45
  let unsigned := if negative || trimmed.head? = some 43 then trimmed.drop 1 else trimmed
  let isDigit (b : UInt8) : Bool := 48 ≤ b && b ≤ 57
  let whole := unsigned.takeWhile isDigit
  let rest := unsigned.drop whole.length
  let (part, rest) :=
    match rest with
    | 46 :: more => (more.takeWhile isDigit, more.dropWhile isDigit)
    | _ => ([], rest)
  let count := whole.length + part.length
  if count = 0 then (0, 0, text)
  else
    let (exponent, rest) :=
      match rest with
      | e :: more =>
        let n := Numeral.split false more
        if (e = 101 || e = 69) && n.digits != 0 && more.head? != some 32 then (n.value, n.rest)
        else (0, rest)
      | [] => (0, rest)
    let m := Numeral.valueOf 10 (whole ++ part)
    let e := exponent - part.length
    let x :=
      if e < 0 then Float.ofScientific m true e.natAbs else Float.ofScientific m false e.toNat
    (if negative then -x else x, count, rest)

/-- Takes an argument as a number with a point. -/
def takeReal : Printing Float := do
  match ← takeArg with
  | none => return 0
  | some arg => do
    let (x, digits, rest) := splitReal arg
    check arg rest digits true
    return x

/-! ## Directives -/

/-- Reads the marks of a directive. -/
def takeMarks (d : Directive) : Bytes → Directive × Bytes
  | [] => (d, [])
  | b :: rest =>
    if b = 45 then takeMarks { d with left := true } rest
    else if b = 43 then takeMarks { d with plus := true } rest
    else if b = 32 then takeMarks { d with space := true } rest
    else if b = 48 then takeMarks { d with zeros := true } rest
    else if b = 35 then takeMarks { d with alternate := true } rest
    else (d, b :: rest)

/-- Reads a number in a directive, which may be taken from the arguments; none if there is none. -/
def takeCount (form : Bytes) : Printing (Option Int × Bytes) := do
  match form with
  | 42 :: rest => return (some (← takeInteger true), rest)
  | _ =>
    let digits := form.takeWhile fun b => 48 ≤ b && b ≤ 57
    return (if digits.isEmpty then none else some (Numeral.valueOf 10 digits),
      form.drop digits.length)

/-- Reads a directive up to its letter. -/
def takeDirective (form : Bytes) : Printing (Directive × Bytes) := do
  let (d, rest) := takeMarks .plain form
  let (width, rest) ← takeCount rest
  let w := width.getD 0
  let d := { d with left := d.left || w < 0, width := w.natAbs }
  match rest with
  | 46 :: rest => do
    let (precision, rest) ← takeCount rest
    let p := precision.getD 0
    return ({ d with precision := if p < 0 then none else some p.toNat }, rest)
  | _ => return (d, rest)

/-- Shows the next argument by a directive with a letter. -/
def showNext (d : Directive) (letter : UInt8) (directive : Bytes) : Printing Unit := do
  if letter = 98 then
    let arg := (← takeArg).getD []
    let r := Escape.text arg.length arg
    emit (d.showText r.1)
    if r.2 then stop .done
  else if letter = 99 then
    let arg := (← takeArg).getD []
    emit ({ d with precision := none }.showText [arg.headD 0])
  else if letter = 115 then emit (d.showText ((← takeArg).getD []))
  else if letter = 100 || letter = 105 then emit (d.showInteger (← takeInteger true))
  else if letter = 111 || letter = 117 || letter = 120 || letter = 88 then
    emit (d.showNatural letter (← takeInteger false).toNat)
  else if [101, 69, 102, 70, 103, 71].contains letter then emit (d.showReal letter (← takeReal))
  else stop (.fault (directive ++ utf8 ": invalid directive"))

/-- Uses a format once. The first argument bounds its length. -/
def once : Nat → Bytes → Printing Unit
  | 0, _ => return
  | _, [] => return
  | fuel + 1, 92 :: rest => do
    let (b, rest) := Escape.one rest
    emit [b]
    once fuel rest
  | fuel + 1, 37 :: 37 :: rest => do
    emit [37]
    once fuel rest
  | fuel + 1, 37 :: form => do
    let (d, rest) ← takeDirective form
    match rest with
    | [] => stop (.fault (utf8 "missing format character"))
    | letter :: rest => do
      showNext d letter (37 :: form.take (form.length - rest.length))
      once fuel rest
  | fuel + 1, b :: rest => do
    emit [b]
    once fuel rest

/-- Uses a format as often as there are arguments, at most so many times. -/
def again (form : Bytes) : Nat → Printing Unit
  | 0 => return
  | rounds + 1 => do
    let before := (← get).args.length
    once form.length form
    let after := (← get).args.length
    if after < before && 0 < after then again form rounds else return

/-- What is printed, the warnings, and the fault that ends the printing, if there is one. -/
structure Result where
  printed : Bytes
  warnings : List Bytes
  fault : Option Bytes

/-- What a format and arguments print. -/
def print (form : Bytes) (args : List Bytes) : Result :=
  let result (s : State) (fault : Option Bytes) : Result :=
    ⟨s.printed.reverse.flatten, s.warnings.reverse, fault⟩
  match again form (args.length + 1) ⟨args, [], []⟩ with
  | .ok ((), s) => result s none
  | .error (.done, s) => result s none
  | .error (.fault message, s) => result s (some message)

end Format

end Testbed.Shell
