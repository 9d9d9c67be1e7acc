/-!
# Reading numbers

A number is an optional plus sign and decimal digits. It is read from the left, and reading stops
at the first character that is no digit or at the first digit that takes the value beyond the
greatest one allowed, whichever comes first.

* `readNumber` reads a text;
* `accumulate` reads digits onto a value read so far;
* `readNumber_le` says that no value beyond the bound is ever read.
-/

namespace Testbed.Text

/-- Why a text is not a number within bounds. -/
inductive NumberError
  /-- There is nothing to read. -/
  | empty
  /-- A character is no digit. -/
  | invalidDigit
  /-- The value exceeds the greatest one allowed. -/
  | tooLarge
  /-- The value is zero where it must not be. -/
  | zero
  deriving DecidableEq, Repr

/-- The text of each cause. -/
def NumberError.message : NumberError → String
  | .empty => "cannot parse integer from empty string"
  | .invalidDigit => "invalid digit found in string"
  | .tooLarge => "number too large to fit in target type"
  | .zero => "number would be zero for non-zero type"

/-- The value of a decimal digit. -/
def digit? (c : Char) : Option Nat :=
  if '0' ≤ c ∧ c ≤ '9' then some (c.toNat - '0'.toNat) else none

/-- Reads digits onto a value, as long as it stays at most `bound`. -/
def accumulate (bound : Nat) : Nat → List Char → Except NumberError Nat
  | value, [] => .ok value
  | value, c :: rest =>
    match digit? c with
    | none => .error .invalidDigit
    | some d => if value * 10 + d ≤ bound then accumulate bound (value * 10 + d) rest
        else .error .tooLarge

/-- Reads a number of at most `bound`: digits, with or without a plus sign before them. -/
def readNumber (bound : Nat) : List Char → Except NumberError Nat
  | [] => .error .empty
  | ['+'] => .error .invalidDigit
  | '+' :: digits => accumulate bound 0 digits
  | digits => accumulate bound 0 digits

theorem accumulate_le {bound value n : Nat} {cs : List Char} (hv : value ≤ bound)
    (h : accumulate bound value cs = .ok n) : n ≤ bound := by
  induction cs generalizing value with
  | nil =>
    simp only [accumulate, Except.ok.injEq] at h
    omega
  | cons c rest ih =>
    simp only [accumulate] at h
    split at h
    · simp at h
    · split at h
      · next hle => exact ih hle h
      · simp at h

/-- What is read is at most the bound. -/
theorem readNumber_le {bound n : Nat} {cs : List Char} (h : readNumber bound cs = .ok n) :
    n ≤ bound := by
  unfold readNumber at h
  split at h
  · simp at h
  · simp at h
  · exact accumulate_le (Nat.zero_le _) h
  · exact accumulate_le (Nat.zero_le _) h

end Testbed.Text
