/-!
# Byte strings

The operating system names files, programs and arguments by byte strings, which need not be
text. Everything that travels to or from it is a `Bytes` value here; `Testbed.Text.Utf8` reads
and writes text.

* `utf8` gives the bytes of a text;
* `occursIn` says whether one list stands somewhere inside another;
* `precedes` is the order of byte strings.
-/

namespace Testbed

/-- A string of the operating system: any bytes, text or not. -/
abbrev Bytes := List UInt8

/-- The bytes that spell a text. -/
def utf8 (s : String) : Bytes := s.toList.flatMap String.utf8EncodeChar

/-- The bytes of two texts one after the other are the bytes of the joined text. -/
theorem utf8_append (s t : String) : utf8 (s ++ t) = utf8 s ++ utf8 t := by
  simp [utf8]

/-- Whether a byte string stands before another one, or is the same, in the order of the bytes. -/
def precedes : Bytes → Bytes → Bool
  | [], _ => true
  | _ :: _, [] => false
  | a :: as, b :: bs => a < b || (a == b && precedes as bs)

/-- Whether `needle` stands somewhere inside the given list, as consecutive elements. -/
def occursIn {α : Type} [DecidableEq α] (needle : List α) : List α → Bool
  | [] => needle.isEmpty
  | a :: rest => needle.isPrefixOf (a :: rest) || occursIn needle rest

end Testbed
