import Testbed.Path
import Testbed.Process.Invocation

/-!
# Commands of the system

The system ends each string with a zero byte, so a string that it takes holds none. A command is an
invocation in such strings. A part that holds a zero byte cannot be taken: a fixed text stands in
its place, and the command remembers that it must not be started.

* `SystemString` is a string that the system takes, and `SystemString.ofBytes` makes one of any
  bytes;
* `ProcessCommand` is the command of one process, to which arguments are added one by one;
* `Invocation.toCommand` makes the command of an invocation, `Invocation.toCommand_eq` says what it
  holds, and `Invocation.words_toCommand_eq_iff` when it is the invocation unchanged.
-/

namespace Testbed

/-- A string that the system takes: the byte that ends one is not in it. -/
structure SystemString where
  bytes : Bytes
  withoutNul : nul ∉ bytes
  deriving DecidableEq

namespace SystemString

/-- What stands in the place of bytes that the system does not take. -/
def placeholder : SystemString := ⟨utf8 "<string-with-nul>", by decide⟩

/-- Bytes as a string of the system, if they can be one. -/
def ofBytes (bytes : Bytes) : SystemString :=
  if h : nul ∈ bytes then placeholder else ⟨bytes, h⟩

theorem bytes_ofBytes (bytes : Bytes) :
    (ofBytes bytes).bytes = if nul ∈ bytes then placeholder.bytes else bytes := by
  unfold ofBytes
  split <;> rfl

theorem bytes_ofBytes_eq_iff {bytes : Bytes} : (ofBytes bytes).bytes = bytes ↔ nul ∉ bytes := by
  constructor
  · exact fun h => h ▸ (ofBytes bytes).withoutNul
  · exact fun h => congrArg SystemString.bytes (dif_neg h)

end SystemString

/-- The command of one process. -/
structure ProcessCommand where
  program : SystemString
  args : List SystemString
  /-- Whether a part was replaced, so that the command must not be started. -/
  refused : Bool
  deriving DecidableEq

namespace ProcessCommand

/-- The command that starts a program without arguments. -/
def new (program : Bytes) : ProcessCommand where
  program := .ofBytes program
  args := []
  refused := decide (nul ∈ program)

/-- A command with one more argument. -/
def arg (c : ProcessCommand) (arg : Bytes) : ProcessCommand where
  program := c.program
  args := c.args ++ [.ofBytes arg]
  refused := c.refused || decide (nul ∈ arg)

/-- The program and the arguments, as bytes. -/
def words (c : ProcessCommand) : List Bytes := (c.program :: c.args).map SystemString.bytes

/-- Arguments are added one after the other, and each is looked at by itself. -/
theorem foldl_arg (c : ProcessCommand) (args : List Bytes) :
    args.foldl arg c =
      ⟨c.program, c.args ++ args.map .ofBytes,
        c.refused || args.any fun a => decide (nul ∈ a)⟩ := by
  induction args generalizing c with
  | nil => simp
  | cons a rest ih => simp [ih, arg, Bool.or_assoc]

end ProcessCommand

namespace Invocation

/-- The command of an invocation. -/
def toCommand (i : Invocation) : ProcessCommand := i.args.foldl .arg (.new i.program)

/-- The command has the parts of the invocation, each as the system takes it, and is refused exactly
if one of them holds a zero byte. -/
theorem toCommand_eq (i : Invocation) :
    i.toCommand =
      ⟨.ofBytes i.program, i.args.map .ofBytes, i.words.any fun word => decide (nul ∈ word)⟩ := by
  rw [toCommand, ProcessCommand.foldl_arg]
  rfl

theorem refused_toCommand_iff {i : Invocation} :
    i.toCommand.refused = true ↔ ∃ word ∈ i.words, nul ∈ word := by
  simp [toCommand_eq]

/-- The parts of the command are those of the invocation, one for one. -/
theorem words_toCommand (i : Invocation) :
    i.toCommand.words = i.words.map fun word => (SystemString.ofBytes word).bytes := by
  rw [toCommand_eq, ProcessCommand.words, words, List.map_cons, List.map_cons, List.map_map]
  rfl

/-- The command has the program and the arguments of the invocation unchanged exactly if none of
them holds a zero byte. -/
theorem words_toCommand_eq_iff {i : Invocation} :
    i.toCommand.words = i.words ↔ ∀ word ∈ i.words, nul ∉ word := by
  simp only [← SystemString.bytes_ofBytes_eq_iff]
  calc i.toCommand.words = i.words
    _ ↔ (i.words.map fun word => (SystemString.ofBytes word).bytes) = i.words.map id := by
      rw [words_toCommand, List.map_id]
    _ ↔ ∀ word ∈ i.words, (SystemString.ofBytes word).bytes = word := List.map_inj_left

end Invocation

end Testbed
