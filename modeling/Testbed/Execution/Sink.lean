import Testbed.Bytes

/-!
# Outputs

An output takes bytes and can be flushed, and either may fail. Nothing else is assumed about it: it
keeps a state of its own, and may take a part of what it is offered before it fails.

* `Sink` is any output;
* `Sink.limited` takes a number of bytes and then fails, and its flush may fail too.
-/

namespace Testbed

/-- How much of what it was offered an output has taken. -/
inductive Acceptance
  /-- All of it. -/
  | all
  /-- The first `count` bytes, and then it failed. -/
  | part (count : Nat) (reason : String)
  deriving DecidableEq, Repr

/-- The bytes that were taken. -/
def Acceptance.taken (a : Acceptance) (bytes : Bytes) : Bytes :=
  match a with
  | .all => bytes
  | .part count _ => bytes.take count

/-- An output with a state of type `τ`. -/
structure Sink (τ : Type) where
  /-- Offers bytes to the output. -/
  offer : Bytes → τ → Acceptance × τ
  /-- Flushes the output; the result holds the reason if that fails. -/
  flush : τ → Option String × τ

namespace Sink

/-- What a full output says. -/
def fullReason : String := "sink full"

/-- What an output says that cannot be flushed. -/
def flushReason : String := "flush failed"

/-- The output that takes as many bytes as its state says, without end if it says none, and then
fails. -/
def limited (flushFails : Bool) : Sink (Option Nat) where
  offer bytes room :=
    match room with
    | none => (.all, none)
    | some n =>
      if bytes.length ≤ n then (.all, some (n - bytes.length)) else (.part n fullReason, some 0)
  flush room := (if flushFails then some flushReason else none, room)

/-- The output that takes everything. -/
def unlimited : Sink (Option Nat) := limited false

end Sink

end Testbed
