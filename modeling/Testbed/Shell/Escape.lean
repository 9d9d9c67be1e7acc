import Testbed.Bytes

/-!
# Escapes

In texts to be printed, a backslash and what follows it stand for a byte that is hard to write.

* `Escape.one` reads what follows a backslash;
* `Escape.texts` reads a text in which `\c` ends everything.
-/

namespace Testbed.Shell.Escape

/-- The byte of a letter after a backslash. -/
def letterByte? (b : UInt8) : Option UInt8 :=
  if b = 97 then some 7
  else if b = 98 then some 8
  else if b = 101 then some 27
  else if b = 102 then some 12
  else if b = 110 then some 10
  else if b = 114 then some 13
  else if b = 116 then some 9
  else if b = 118 then some 11
  else if b = 92 then some 92
  else none

/-- Whether a byte is an octal digit. -/
def isOctal (b : UInt8) : Bool := 48 ≤ b && b ≤ 55

/-- The byte that octal digits spell. -/
def octalByte (digits : Bytes) : UInt8 :=
  UInt8.ofNat (digits.foldl (fun n b => n * 8 + (b.toNat - 48)) 0)

/-- The byte for which a backslash and what follows it stand, and what is left; a backslash that
stands for itself is left out alone. -/
def one (rest : Bytes) : UInt8 × Bytes :=
  let digits := (rest.take 3).takeWhile isOctal
  if !digits.isEmpty then (octalByte digits, rest.drop digits.length)
  else
    match rest with
    | [] => (92, [])
    | b :: more =>
      match letterByte? b with
      | some c => (c, more)
      | none => (92, rest)

/-- A text with bytes in place of escapes, and whether it holds `\c`, which ends it. An octal number
after a zero may have three more digits. The first argument bounds the length. -/
def text : Nat → Bytes → Bytes × Bool
  | 0, _ => ([], false)
  | _, [] => ([], false)
  | _, 92 :: 99 :: _ => ([], true)
  | fuel + 1, 92 :: 48 :: rest =>
    let digits := (rest.take 3).takeWhile isOctal
    let r := text fuel (rest.drop digits.length)
    (octalByte digits :: r.1, r.2)
  | fuel + 1, 92 :: rest =>
    let r := one rest
    let more := text fuel r.2
    (r.1 :: more.1, more.2)
  | fuel + 1, b :: rest =>
    let r := text fuel rest
    (b :: r.1, r.2)

/-- Texts with spaces between them and a newline at the end, unless `\c` ends them before. -/
def texts (newline : Bool) : List Bytes → Bytes
  | [] => if newline then [10] else []
  | [a] =>
    let r := text a.length a
    if r.2 || !newline then r.1 else r.1 ++ [10]
  | a :: rest =>
    let r := text a.length a
    if r.2 then r.1 else r.1 ++ 32 :: texts newline rest

/-- What is printed of arguments: `-n` in front leaves the newline out. -/
def echo (args : List Bytes) : Bytes :=
  if args.head? = some [45, 110] then texts false args.tail else texts true args

end Testbed.Shell.Escape
