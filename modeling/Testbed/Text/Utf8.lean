import Testbed.Bytes

/-!
# Reading text from bytes

UTF-8 is read one byte at a time by a small machine. Between characters it is at `State.start`;
inside a character it remembers how many bytes are owed, which values the next byte may have and
the bits read so far. The ranges are those of the Unicode standard's table of well-formed byte
sequences, so that a sequence is given up at the first byte that cannot continue it.

* `decode?` reads bytes that are well-formed throughout, and nothing else;
* `lossy` reads any bytes, with one replacement character for each maximal ill-formed part;
* `lossyFrom_cons_ascii` says that a character of one byte closes whatever stands open before it,
  and `lossy_append_ascii` that text may therefore be cut there and read in pieces.
-/

namespace Testbed.Text

/-- The character that stands for bytes that are no text. -/
def replacement : Char := '\uFFFD'

namespace Utf8

/-- Which bytes may come next inside a character. After four of the first bytes the range is
narrower than usual, so that each character has one spelling and no surrogate has any. -/
inductive Continuation
  /-- Any byte that continues a character, 80 to BF. -/
  | any
  /-- After E0: A0 to BF. -/
  | afterE0
  /-- After ED: 80 to 9F. -/
  | afterED
  /-- After F0: 90 to BF. -/
  | afterF0
  /-- After F4: 80 to 8F. -/
  | afterF4
  deriving DecidableEq, Repr

/-- The least byte that may come next. -/
def Continuation.least : Continuation → Nat
  | .afterE0 => 0xA0
  | .afterF0 => 0x90
  | _ => 0x80

/-- The greatest byte that may come next. -/
def Continuation.greatest : Continuation → Nat
  | .afterED => 0x9F
  | .afterF4 => 0x8F
  | _ => 0xBF

/-- Where the machine stands between two bytes. -/
inductive State
  /-- Between characters. -/
  | start
  /-- Inside a character. The next byte is one of `next`, and `owed` more come after it; `value`
  holds the bits read so far. -/
  | inside (next : Continuation) (owed : Nat) (value : Nat)
  deriving DecidableEq, Repr

/-- The first byte of a character: the character it completes if it stands for itself, and the
state after it; none if no character starts with it. -/
def lead (b : Nat) : Option (List Char × State) :=
  if b < 0x80 then some ([Char.ofNat b], .start)
  else if b < 0xC2 then none
  else if b < 0xE0 then some ([], .inside .any 0 (b - 0xC0))
  else if b = 0xE0 then some ([], .inside .afterE0 1 0)
  else if b = 0xED then some ([], .inside .afterED 1 0xD)
  else if b < 0xF0 then some ([], .inside .any 1 (b - 0xE0))
  else if b = 0xF0 then some ([], .inside .afterF0 2 0)
  else if b < 0xF4 then some ([], .inside .any 2 (b - 0xF0))
  else if b = 0xF4 then some ([], .inside .afterF4 2 4)
  else none

/-- One byte of well-formed text: the character it completes, if any, and the state after it;
none if well-formed text cannot go on with it. -/
def accept : State → UInt8 → Option (List Char × State)
  | .start, b => lead b.toNat
  | .inside next owed value, b =>
    if next.least ≤ b.toNat ∧ b.toNat ≤ next.greatest then
      match owed with
      | 0 => some ([Char.ofNat (value * 64 + (b.toNat - 0x80))], .start)
      | owed + 1 => some ([], .inside .any owed (value * 64 + (b.toNat - 0x80)))
    else none

/-- One byte of any input: where well-formed text cannot go on, a replacement character stands
for what was read of a character, and the byte is tried again as a first byte. -/
def feed (s : State) (b : UInt8) : List Char × State :=
  match accept s b, s with
  | some r, _ => r
  | none, .start => ([replacement], .start)
  | none, .inside .. =>
    match lead b.toNat with
    | some (cs, t) => (replacement :: cs, t)
    | none => ([replacement, replacement], .start)

/-- What the end of the input yields: a character that is cut short is replaced. -/
def finish : State → List Char
  | .start => []
  | .inside .. => [replacement]

/-- The text of any bytes, read from a given state on. -/
def lossyFrom : State → Bytes → List Char
  | s, [] => finish s
  | s, b :: rest => (feed s b).1 ++ lossyFrom (feed s b).2 rest

/-- The text of well-formed bytes, read from a given state on. -/
def decodeFrom : State → Bytes → Option (List Char)
  | .start, [] => some []
  | .inside .., [] => none
  | s, b :: rest =>
    match accept s b with
    | some (cs, t) => (decodeFrom t rest).map (cs ++ ·)
    | none => none

/-- No byte below 80 continues a character. -/
theorem Continuation.least_ge (next : Continuation) : 0x80 ≤ next.least := by
  cases next <;> decide

/-- A byte below 80 closes what stands open and stands for itself. -/
theorem feed_ascii (s : State) {b : UInt8} (h : b.toNat < 0x80) :
    feed s b = (finish s ++ [Char.ofNat b.toNat], .start) := by
  cases s with
  | start => simp [feed, accept, lead, h, finish]
  | inside next owed value =>
    have hge := next.least_ge
    have hnot : ¬ (next.least ≤ b.toNat ∧ b.toNat ≤ next.greatest) := by omega
    simp [feed, accept, hnot, lead, h, finish]

/-- A byte below 80 ends the text before it, whatever stands open there. -/
theorem lossyFrom_cons_ascii (s : State) {b : UInt8} (h : b.toNat < 0x80) (rest : Bytes) :
    lossyFrom s (b :: rest) = finish s ++ Char.ofNat b.toNat :: lossyFrom .start rest := by
  simp [lossyFrom, feed_ascii s h]

/-- Text may be cut before and after a byte below 80 and read in pieces. -/
theorem lossyFrom_append_ascii (s : State) (front : Bytes) {b : UInt8} (h : b.toNat < 0x80)
    (rest : Bytes) :
    lossyFrom s (front ++ b :: rest) =
      lossyFrom s front ++ Char.ofNat b.toNat :: lossyFrom .start rest := by
  induction front generalizing s with
  | nil => simp [lossyFrom_cons_ascii s h, lossyFrom]
  | cons c front ih => simp [lossyFrom, ih]

end Utf8

/-- The characters of any bytes: each maximal ill-formed part becomes one replacement character. -/
def lossyChars (b : Bytes) : List Char := Utf8.lossyFrom .start b

/-- The text of any bytes: each maximal ill-formed part becomes one replacement character. -/
def lossy (b : Bytes) : String := String.ofList (lossyChars b)

/-- The text that well-formed bytes spell; none if they are not well-formed. -/
def decode? (b : Bytes) : Option String := (Utf8.decodeFrom .start b).map String.ofList

/-- Text may be cut before and after a byte below 80 and read in pieces. -/
theorem lossy_append_ascii (front : Bytes) {b : UInt8} (h : b.toNat < 0x80) (rest : Bytes) :
    lossy (front ++ b :: rest) =
      lossy front ++ String.singleton (Char.ofNat b.toNat) ++ lossy rest := by
  rw [← String.toList_inj]
  simp [lossy, lossyChars, Utf8.lossyFrom_append_ascii _ _ h]

end Testbed.Text
