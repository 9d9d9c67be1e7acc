import Testbed.Text.Blank

/-!
# The first paragraph of a text

Of a message about the command line, the first paragraph says what is wrong: the lines up to the
first empty one, without white space at their end. The paragraphs after it, a line on usage and a
hint, are left out.

* `firstParagraph` cuts a text at its first empty line.
-/

namespace Testbed.Text

/-- The characters before the first empty line. -/
def untilEmptyLine : List Char → List Char
  | '\n' :: '\n' :: _ => []
  | c :: rest => c :: untilEmptyLine rest
  | [] => []

/-- The lines of a text up to the first empty one, without white space at their end. -/
def firstParagraph (s : String) : String := String.ofList (trimEnd (untilEmptyLine s.toList))

end Testbed.Text
