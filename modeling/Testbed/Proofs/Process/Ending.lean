import Testbed.Process.Runner
import Testbed.Proofs.Execution.Logging

/-!
# How children end

A wait status says in 32 bits how a child ended. The low seven are zero if it exited, and only then
bits 8 to 15 are its exit code. A child that did not exit counts as failed, and what became of it is
logged.

* `WaitStatus.bit` is a single bit and `WaitStatus.field` the number in some bits that stand
  together; `WaitStatus.field_eq_iff` compares fields bit by bit.
* `exitCode_eq` and `endRecords_eq` read the exit code and the log off the fields.
* `exitCode_eq_zero_iff` and `exitCode_congr` say which bits make a success, and which bits matter.
* `describe_of_signal` is the text for a signal that has a name, and `coreDumped_infix_iff` says
  when it tells of a core dump.
* `ending_of_bits` is the result, for the status alone and for a child that is called.
-/

namespace Testbed

namespace WaitStatus

/-! ## Bits of a status -/

/-- One bit of a status; the lowest is bit 0. -/
def bit (s : WaitStatus) (n : Nat) : Bool := s.bits.toBitVec.getLsbD n

/-- The number in some bits of a status that stand together. -/
def field (s : WaitStatus) (start width : Nat) : BitVec width :=
  s.bits.toBitVec.extractLsb' start width

theorem getLsbD_field (s : WaitStatus) (start : Nat) {width n : Nat} (h : n < width) :
    (s.field start width).getLsbD n = s.bit (start + n) := by
  rw [field, BitVec.getLsbD_extractLsb', decide_eq_true h, Bool.true_and]
  rfl

/-- Two statuses have the same number in some bits exactly if these bits are the same. -/
theorem field_eq_iff {s t : WaitStatus} {start width : Nat} :
    s.field start width = t.field start width ↔
      ∀ n < width, s.bit (start + n) = t.bit (start + n) := by
  constructor
  · intro h n hn
    rw [← getLsbD_field s start hn, h, getLsbD_field t start hn]
  · refine fun h => BitVec.eq_of_getLsbD_eq fun n hn => ?_
    rw [getLsbD_field s start hn, h n hn, getLsbD_field t start hn]

/-- The number in some bits is zero exactly if they all are. -/
theorem field_eq_zero_iff {s : WaitStatus} {start width : Nat} :
    s.field start width = 0 ↔ ∀ n < width, s.bit (start + n) = false := by
  have hbit (n : Nat) : (⟨0⟩ : WaitStatus).bit n = false := BitVec.getLsbD_zero
  have hfield : (⟨0⟩ : WaitStatus).field start width = 0 := BitVec.extractLsb'_zero
  rw [← hfield, field_eq_iff]
  simp only [hbit]

theorem low_eq (s : WaitStatus) : s.low = (s.field 0 7).toNat := by
  rw [field, BitVec.extractLsb'_toNat, Nat.shiftRight_zero]
  rfl

theorem second_eq (s : WaitStatus) : s.second = (s.field 8 8).toNat := by
  rw [field, BitVec.extractLsb'_toNat, Nat.shiftRight_eq_div_pow]
  rfl

theorem dumped_eq (s : WaitStatus) : s.dumped = s.bit 7 := by
  have hbit : s.bit 7 = s.bits.toNat.testBit 7 := rfl
  rw [hbit, Nat.testBit_eq_decide_div_mod_eq]
  rfl

theorem low_eq_zero_iff {s : WaitStatus} : s.low = 0 ↔ s.field 0 7 = 0 := by
  rw [low_eq, ← BitVec.toNat_inj]
  rfl

theorem code?_eq (s : WaitStatus) :
    s.code? = if s.field 0 7 = 0 then some (s.field 8 8).toNat else none := by
  simp only [code?, low_eq_zero_iff, second_eq]

end WaitStatus

/-! ## The exit code -/

theorem exitCode_eq (s : WaitStatus) :
    exitCode s = if s.field 0 7 = 0 then ((s.field 8 8).toNat : Int) else 1 := by
  unfold exitCode
  rw [s.code?_eq]
  by_cases h : s.field 0 7 = 0
  · simp only [if_pos h]
  · simp only [if_neg h]

theorem endRecords_eq (s : WaitStatus) :
    endRecords s = if s.field 0 7 = 0 then [] else [endedRecord s] := by
  unfold endRecords
  rw [s.code?_eq]
  by_cases h : s.field 0 7 = 0
  · simp only [if_pos h]
  · simp only [if_neg h]

theorem exitCode_range (s : WaitStatus) : 0 ≤ exitCode s ∧ exitCode s ≤ 255 := by
  have hlt := (s.field 8 8).isLt
  rw [exitCode_eq]
  split <;> omega

/-- The bits that the exit code is read off: the low seven, and eight more from bit 8 on. -/
theorem forall_codeBits_iff {P : Nat → Prop} :
    (∀ n < 7, P (0 + n)) ∧ (∀ n < 8, P (8 + n)) ↔ ∀ n < 16, n ≠ 7 → P n := by
  constructor
  · rintro ⟨hlow, hcode⟩ n hn hne
    obtain hlt | hge := Nat.lt_or_ge n 8
    · exact Nat.zero_add n ▸ hlow n (by omega)
    · exact Nat.add_sub_cancel' hge ▸ hcode (n - 8) (by omega)
  · intro h
    exact ⟨fun n hn => h _ (by omega) (by omega), fun n hn => h _ (by omega) (by omega)⟩

/-- A child counts as a success exactly if it exited with code 0. -/
theorem exitCode_eq_zero_iff {s : WaitStatus} :
    exitCode s = 0 ↔ ∀ n < 16, n ≠ 7 → s.bit n = false := by
  have hcode : ((s.field 8 8).toNat : Int) = 0 ↔ s.field 8 8 = 0 := by
    rw [← BitVec.toNat_inj, Int.natCast_eq_zero]
    rfl
  rw [← forall_codeBits_iff, ← WaitStatus.field_eq_zero_iff, ← WaitStatus.field_eq_zero_iff,
    exitCode_eq]
  split
  · next hlow => rw [hcode, and_iff_right hlow]
  · next hlow => exact iff_of_false (by decide) fun h => hlow h.1

/-- The exit code depends on the low seven bits and on bits 8 to 15. -/
theorem exitCode_congr {s t : WaitStatus} (h : ∀ n < 16, n ≠ 7 → s.bit n = t.bit n) :
    exitCode s = exitCode t := by
  obtain ⟨hlow, hcode⟩ := forall_codeBits_iff.mpr h
  rw [exitCode_eq, exitCode_eq, WaitStatus.field_eq_iff.mpr hlow, WaitStatus.field_eq_iff.mpr hcode]

/-- What stands above the code does not count, not even the sign. -/
example : exitCode ⟨0xFFFF0300⟩ = 3 := by decide

/-! ## Signals -/

/-- A name of a signal is one of the list. -/
theorem mem_signalNames {k : Nat} {name : String} (h : signalName? k = some name) :
    name ∈ signalNames := by
  cases k with
  | zero => cases h
  | succ n => exact List.mem_of_getElem? h

/-- Just the signals 1 to 31 have names. -/
theorem exists_signalName_iff {k : Nat} : (∃ name, signalName? k = some name) ↔ 1 ≤ k ∧ k ≤ 31 := by
  have hlength : signalNames.length = 31 := rfl
  cases k with
  | zero => exact iff_of_false (fun ⟨_, h⟩ => nomatch h) (by omega)
  | succ n =>
    rw [signalName?, ← Option.isSome_iff_exists, isSome_getElem?, hlength]
    omega

namespace WaitStatus

/-- A status of a signal that has a name tells its number and its name, and then of a core dump. -/
theorem describe_of_signal {s : WaitStatus} {name : String}
    (hname : signalName? (s.field 0 7).toNat = some name) :
    s.describe = "signal: " ++ (toString (s.field 0 7).toNat ++ " (" ++ name ++ ")") ++
      if s.bit 7 then " (core dumped)" else "" := by
  rw [← low_eq] at hname ⊢
  obtain ⟨hlow, hhigh⟩ := exists_signalName_iff.mp ⟨name, hname⟩
  rw [describe, if_neg (by omega), if_pos (by omega), dumped_eq, signalText, hname]

/-- The letter `d` is in no number and in no name of a signal. -/
theorem notMem_signal {n k : Nat} {name : String} (hname : signalName? k = some name) :
    'd' ∉ ("signal: " ++ (toString n ++ " (" ++ name ++ ")")).toList := by
  have hdigits : 'd' ∉ (toString n).toList := by
    rw [Nat.toString_eq_repr, Nat.toList_repr]
    intro hd
    have hdigit := Nat.isDigit_of_mem_toDigits (by decide) (by decide) hd
    cases hdigit
  have hnames : ∀ name ∈ signalNames, 'd' ∉ name.toList := by decide
  simp only [String.toList_append, List.mem_append, not_or]
  exact ⟨by decide, ⟨⟨hdigits, by decide⟩, hnames name (mem_signalNames hname)⟩, by decide⟩

/-- A status of a signal that has a name tells of a core dump exactly if there is one. -/
theorem coreDumped_infix_iff {s : WaitStatus} {name : String}
    (hname : signalName? (s.field 0 7).toNat = some name) :
    " (core dumped)".toList <:+: s.describe.toList ↔ s.bit 7 = true := by
  rw [describe_of_signal hname]
  cases s.bit 7 with
  | true =>
    refine iff_of_true (List.IsSuffix.isInfix ?_) rfl
    rw [String.toList_append]
    exact List.suffix_append _ _
  | false =>
    -- The suffix has a `d`, which no part of the text has that stands before it.
    refine iff_of_false (fun hinfix => ?_) Bool.false_ne_true
    have hd := hinfix.subset (show 'd' ∈ " (core dumped)".toList by decide)
    rw [if_neg Bool.false_ne_true, String.append_empty] at hd
    exact notMem_signal hname hd

/-- A segmentation fault that left a core dump. -/
example : describe ⟨139⟩ = "signal: 11 (SIGSEGV) (core dumped)" := by decide

end WaitStatus

/-! ## Children that are called -/

/-- What is logged about a child that is called: its start and its end. -/
theorem records_call {σ τ : Type} (c : Children σ) (sink : Sink τ) (hostJobs : Jobs)
    (spans : List Log.Span) (i : Invocation) (w : World σ τ) :
    records (w.call ⟨c.runner, sink, hostJobs, spans⟩ i).2.history =
      records w.history ++ (c.attempt w.ground i).childRecords.map (spans, ·) := by
  let a := c.attempt w.ground i
  calc
    _ = records w.history ++
        records (.called i :: (c.runner.ask w.ground i).activity.map (Event.ofActivity spans)) :=
      records_append ..
    _ = records w.history ++ records (a.childRecords.map (.logged spans)) := by
      rw [← records_notes (_ :: _), c.notes_call]
      rfl
    _ = _ := by rw [records_map_logged]

/-- The line of a child that ended without an exit code. -/
theorem line_endedRecord (s : WaitStatus) :
    (endedRecord s).line [] =
      "WARN dsrun::process: child terminated without an exit code status=" ++ s.describe := by
  let said := "child terminated without an exit code"
  have hsaid : Log.defuse said = said := by decide
  calc
    _ = "WARN dsrun::process: " ++ " ".intercalate [Log.defuse said, "status=" ++ s.describe] := rfl
    _ = "WARN dsrun::process: " ++ (said ++ " " ++ ("status=" ++ s.describe)) := by
      rw [hsaid, String.intercalate_cons_cons, String.intercalate_singleton]
    _ = "WARN dsrun::process: " ++ (said ++ " ") ++ "status=" ++ s.describe := by
      simp only [String.append_assoc]
    _ = _ := rfl

/-- **How a child ended.** The exit code and the log are told by the bits of the wait status. A
child whose low seven bits are zero exited, with the code in bits 8 to 15, and nothing is logged.
Any other counts as code 1 and one warning is logged, which tells the signal by number and name if
it is one of the first 31, and of a core dump exactly if bit 7 is set. So the code fits in a byte, a
child is a success exactly if it exited with code 0, and the upper half of the bits never matters. A
real child that is called gives just this code, and just this is logged after its start. -/
theorem ending_of_bits (s : WaitStatus) :
    (s.field 0 7 = 0 → exitCode s = (s.field 8 8).toNat ∧ endRecords s = []) ∧
      (s.field 0 7 ≠ 0 → exitCode s = 1 ∧ endRecords s = [endedRecord s] ∧
        ∀ spans, (Log.Filter.ofSetting none).line? spans (endedRecord s) =
          some ("WARN dsrun::process: child terminated without an exit code status=" ++
            s.describe)) ∧
      (∀ k, (s.field 0 7).toNat = k → 1 ≤ k → k ≤ 31 →
        ∃ name, signalName? k = some name ∧
          s.describe = "signal: " ++ (toString k ++ " (" ++ name ++ ")") ++
            (if s.bit 7 then " (core dumped)" else "") ∧
          (" (core dumped)".toList <:+: s.describe.toList ↔ s.bit 7 = true)) ∧
      (0 ≤ exitCode s ∧ exitCode s ≤ 255) ∧
      (exitCode s = 0 ↔ ∀ n < 16, n ≠ 7 → s.bit n = false) ∧
      (∀ t : WaitStatus, (∀ n < 16, s.bit n = t.bit n) → exitCode s = exitCode t) ∧
      ∀ (σ τ : Type) (c : Children σ) (sink : Sink τ) (hostJobs : Jobs) (spans : List Log.Span)
        (w : World σ τ) (i : Invocation), (c.attempt w.ground i).child.outcome = .ok s →
        let run := w.call ⟨c.runner, sink, hostJobs, spans⟩ i
        run.1 = .ok (exitCode s) ∧
          records run.2.history =
            records w.history ++ (spawningRecord i :: endRecords s).map (spans, ·) := by
  refine ⟨fun h => ?_, fun h => ?_, fun k hk h₁ h₂ => ?_, exitCode_range s, exitCode_eq_zero_iff,
    fun t ht => exitCode_congr fun n hn _ => ht n hn, fun σ τ c sink hostJobs spans w i hs => ?_⟩
  · rw [exitCode_eq, endRecords_eq, if_pos h, if_pos h]
    exact ⟨rfl, rfl⟩
  · rw [exitCode_eq, endRecords_eq, if_neg h, if_neg h]
    refine ⟨rfl, rfl, fun spans => ?_⟩
    have hwarn : (endedRecord s).level = .warn := rfl
    calc
      _ = some ((endedRecord s).line []) :=
        (Log.Filter.line?_warnings spans (endedRecord s)).trans (if_pos (.inr hwarn))
      _ = _ := by rw [line_endedRecord]
  · subst hk
    obtain ⟨name, hname⟩ := exists_signalName_iff.mpr ⟨h₁, h₂⟩
    exact ⟨name, hname, WaitStatus.describe_of_signal hname, WaitStatus.coreDumped_infix_iff hname⟩
  · intro run
    have hanswer : run.1 = (c.runner.ask w.ground i).answer := rfl
    rw [hanswer, c.answer_ask, hs, records_call]
    refine ⟨rfl, ?_⟩
    rw [Attempt.childRecords, ← Attempt.spawningRecord_eq_started, Attempt.endRecords_of_ok hs]
    rfl

end Testbed
