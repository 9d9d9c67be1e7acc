import Testbed.Text.Utf8

/-!
# Command lines of children

An invocation is one process to start: a program and its arguments, as raw byte strings.

* `Invocation.display` shows it as text;
* `Invocation.display_eq_lossy` says that this text is the reading of the bytes joined by single
  spaces: no ill-formed end of one part swallows the space after it.
-/

namespace Testbed

/-- The command line of one child process. -/
structure Invocation where
  program : Bytes
  args : List Bytes
  deriving DecidableEq

namespace Invocation

/-- The byte between the parts of a command line when it is shown. -/
def space : UInt8 := 32

/-- The program and the arguments, which are what the process gets as its argument list. -/
def words (i : Invocation) : List Bytes := i.program :: i.args

/-- The program as text. -/
def programName (i : Invocation) : String := Text.lossy i.program

/-- Parts joined by single spaces. -/
def joined : List Bytes → Bytes
  | [] => []
  | [word] => word
  | word :: rest => word ++ space :: joined rest

theorem joined_cons (word next : Bytes) (rest : List Bytes) :
    joined (word :: next :: rest) = word ++ space :: joined (next :: rest) := rfl

/-- The invocation as text: its parts as text, with one space before each argument. -/
def display (i : Invocation) : String :=
  i.args.foldl (fun shown arg => shown ++ " " ++ Text.lossy arg) i.programName

theorem foldl_append (shown : String) (args : List Bytes) :
    args.foldl (fun shown arg => shown ++ " " ++ Text.lossy arg) shown =
      shown ++ args.foldl (fun shown arg => shown ++ " " ++ Text.lossy arg) "" := by
  induction args generalizing shown with
  | nil => simp
  | cons arg args ih =>
    simp only [List.foldl_cons]
    rw [ih, ih ("" ++ " " ++ Text.lossy arg)]
    simp [String.append_assoc]

/-- The text of an invocation is the text of its parts joined by single spaces. -/
theorem display_eq_lossy (i : Invocation) : i.display = Text.lossy (joined i.words) := by
  obtain ⟨program, args⟩ := i
  simp only [display, programName, words]
  induction args generalizing program with
  | nil => simp [joined]
  | cons arg args ih =>
    have hspace : space.toNat < 0x80 := by decide
    rw [joined_cons, Text.lossy_append_ascii program hspace (joined (arg :: args)), ← ih arg,
      List.foldl_cons, foldl_append, foldl_append (Text.lossy arg)]
    simp only [String.append_assoc]
    rfl

end Invocation

end Testbed
