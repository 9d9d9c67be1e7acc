import Testbed.Process.Invocation
import Testbed.Proofs.Text.Substitution

/-!
# The text of a command line

A command line is shown as one text, which messages and the log repeat. It does not matter whether
its parts are read before or after they are joined: a space closes whatever is ill-formed before it,
so that each part is read as if it stood alone.

* `lossy_intercalate`: joining by spaces and reading commute.
* `isText_intercalate_iff`: joined parts are text exactly if each of them is.
* `display_reads` is the result for command lines.
-/

namespace Testbed.Invocation

/-- Parts joined by spaces are parts with a space between them. -/
theorem joined_eq_intercalate (words : List Bytes) : joined words = [space].intercalate words := by
  induction words with
  | nil => rfl
  | cons word rest ih =>
    cases rest with
    | nil => exact List.intercalate_singleton.symm
    | cons next rest =>
      rw [joined_cons, ih, List.intercalate_cons_cons, List.append_assoc]
      rfl

theorem space_lt : space.toNat < 0x80 := by decide

/-- Parts may be read before they are joined by spaces, or after. -/
theorem lossy_intercalate (words : List Bytes) :
    Text.lossy ([space].intercalate words) = " ".intercalate (words.map Text.lossy) := by
  induction words with
  | nil => rfl
  | cons word rest ih =>
    cases rest with
    | nil => rw [List.intercalate_singleton, List.map_singleton, String.intercalate_singleton]
    | cons next rest =>
      calc
        _ = Text.lossy (word ++ space :: [space].intercalate (next :: rest)) := by
          rw [List.intercalate_cons_cons, List.append_assoc, List.singleton_append]
        _ = Text.lossy word ++ " " ++ Text.lossy ([space].intercalate (next :: rest)) :=
          Text.lossy_append_ascii word space_lt _
        _ = _ := by
          rw [ih, List.map_cons, List.map_cons, List.map_cons, String.intercalate_cons_cons]

/-- Parts joined by spaces are text exactly if each of them is. -/
theorem isText_intercalate_iff (words : List Bytes) :
    Text.IsText ([space].intercalate words) ↔ ∀ word ∈ words, Text.IsText word := by
  induction words with
  | nil =>
    constructor
    · exact fun _ word hword => nomatch hword
    · exact fun _ => ⟨"", rfl⟩
  | cons word rest ih =>
    cases rest with
    | nil => rw [List.intercalate_singleton, List.forall_mem_singleton]
    | cons next rest =>
      rw [List.intercalate_cons_cons, List.append_assoc, List.singleton_append,
        Text.isText_append_iff space_lt, ih, ← List.forall_mem_cons]

/-- **The text of a command line.** It is the text of the bytes of the program and the arguments
with one space between them, so each maximal ill-formed part of these bytes becomes one replacement
character; no such part holds a space, and the text is made of the texts of the parts. It spells
just these bytes exactly if the program and all arguments are text. -/
theorem display_reads (i : Invocation) :
    let bytes := [space].intercalate i.words
    i.display = Text.lossy bytes ∧
      (∀ cs, Text.ReadsAs bytes cs ↔ cs = i.display.toList) ∧
      (∀ part rest, Text.IsBroken part rest → space ∉ part) ∧
      i.display = " ".intercalate (i.words.map Text.lossy) ∧
      (utf8 i.display = bytes ↔ ∀ word ∈ i.words, Text.IsText word) := by
  intro bytes
  have hdisplay : i.display = Text.lossy bytes := by
    rw [display_eq_lossy, joined_eq_intercalate]
  have htext : (Text.lossy bytes).toList = Text.lossyChars bytes := String.toList_ofList
  refine ⟨hdisplay, fun cs => ?_, fun part rest hpart hspace => ?_, ?_, ?_⟩
  · rw [hdisplay, htext]
    exact Text.readsAs_iff
  · exact absurd space_lt (Nat.not_lt.mpr (hpart.ge hspace))
  · rw [hdisplay, lossy_intercalate]
  · rw [← isText_intercalate_iff, hdisplay]
    constructor
    · exact fun h => ⟨_, h.symm⟩
    · rintro ⟨s, hs⟩
      rw [show bytes = utf8 s from hs, Text.lossy_utf8]

/-- The bytes C3 and A9 spell one character, but not with a space between them. -/
example : (Invocation.mk [0x66, 0xC3] [[0xA9], [0xF0, 0x9F]]).display =
    "f\uFFFD \uFFFD \uFFFD" := by decide

end Testbed.Invocation
