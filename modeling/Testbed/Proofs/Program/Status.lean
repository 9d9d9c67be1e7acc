import Testbed.Program
import Testbed.Proofs.CommandLine.Answering
import Testbed.Proofs.Execution.Output

/-!
# The exit status of the program

The status says how the run went. A command line that is not carried out has a status of its own,
a listing says whether there is anything to list, a strict build hands on the code of the step that
stopped it, and otherwise the status is that of the child that does the actual work.

* `WaitStatus.childCode` is the exit code that a wait status stands for, read off its bits, and
  `Children.code?` that of a child on some ground.
* `optionsStatus` and `expectedStatus` say which status a run is to end with, from what the
  children do and what can be found on the files that they leave.
* `expectedStatus_eq_zero_iff_asks` says which command lines that are not carried out count as a
  success: those that ask for information.
* `status_run`: the program ends with exactly this status, which fits in a byte; a command line that
  is not carried out starts no child and leaves the files alone.
-/

namespace Testbed

variable {σ τ : Type}

/-! ## The codes of children -/

/-- The exit code that a wait status stands for: bits 8 to 15 if the process exited, which the low
seven bits say by being zero, and 1 otherwise. -/
def WaitStatus.childCode (s : WaitStatus) : Nat :=
  if s.bits &&& 0x7f = 0 then ((s.bits >>> 8) &&& 0xff).toNat else 1

theorem WaitStatus.toNat_lowBits (s : WaitStatus) : (s.bits &&& 0x7f).toNat = s.low := by
  rw [UInt32.toNat_and, show (0x7f : UInt32).toNat = 2 ^ 7 - 1 from rfl,
    Nat.and_two_pow_sub_one_eq_mod]
  rfl

theorem WaitStatus.toNat_exitBits (s : WaitStatus) :
    ((s.bits >>> 8) &&& 0xff).toNat = s.second := by
  rw [UInt32.toNat_and, UInt32.toNat_shiftRight, show (0xff : UInt32).toNat = 2 ^ 8 - 1 from rfl,
    Nat.and_two_pow_sub_one_eq_mod, show (8 : UInt32).toNat % 32 = 8 from rfl,
    Nat.shiftRight_eq_div_pow]
  rfl

/-- The runner reports the code that the wait status stands for. -/
theorem exitCode_eq_childCode (s : WaitStatus) : exitCode s = s.childCode := by
  unfold exitCode WaitStatus.childCode WaitStatus.code?
  have hiff : s.bits &&& 0x7f = 0 ↔ s.low = 0 := by
    rw [← UInt32.toNat_inj, WaitStatus.toNat_lowBits]
    rfl
  simp only [WaitStatus.toNat_exitBits, hiff]
  by_cases h : s.low = 0
  · rw [if_pos h, if_pos h]
  · rw [if_neg h, if_neg h]
    rfl

theorem WaitStatus.childCode_le (s : WaitStatus) : s.childCode ≤ 255 := by
  unfold WaitStatus.childCode
  rw [toNat_exitBits, second]
  split <;> omega

namespace Children

/-- The exit code of a child on some ground; none if it cannot be started. -/
def code? (c : Children σ) (g : Ground σ) (i : Invocation) : Option Nat :=
  match (c.spawn i g.state g.files).outcome with
  | .ok s => some s.childCode
  | .error _ => none

/-- The code of a build step: one that cannot be started counts as 127. -/
def stepStatus (c : Children σ) (g : Ground σ) (i : Invocation) : Nat := (c.code? g i).getD 127

/-- The code of the child that does the actual work: one that cannot be started counts as 1. -/
def workStatus (c : Children σ) (g : Ground σ) (i : Invocation) : Nat := (c.code? g i).getD 1

theorem code?_le (c : Children σ) (g : Ground σ) (i : Invocation) {n : Nat}
    (h : c.code? g i = some n) : n ≤ 255 := by
  unfold code? at h
  split at h
  · next s _ =>
    obtain rfl := Option.some.inj h
    exact s.childCode_le
  · cases h

theorem stepStatus_le (c : Children σ) (g : Ground σ) (i : Invocation) :
    c.stepStatus g i ≤ 255 := by
  unfold stepStatus
  cases h : c.code? g i with
  | none => decide
  | some n => exact c.code?_le g i h

theorem workStatus_le (c : Children σ) (g : Ground σ) (i : Invocation) :
    c.workStatus g i ≤ 255 := by
  unfold workStatus
  cases h : c.code? g i with
  | none => decide
  | some n => exact c.code?_le g i h

theorem stepCode_ask (c : Children σ) (g : Ground σ) (i : Invocation) :
    (c.runner.ask g i).stepCode = c.stepStatus g i := by
  unfold Reply.stepCode stepStatus code? Runner.ask Children.runner
  cases h : (c.spawn i g.state g.files).outcome with
  | ok s => simp only [h, exitCode_eq_childCode, Option.getD_some]
  | error e =>
    simp only [h, Option.getD_none]
    rfl

end Children

namespace Program

/-! ## What the status is to be -/

/-- The status of an action other than listing, from the ground that the build leaves. -/
def followUpStatus (c : Children σ) (hostJobs : Jobs) (o : Options) (built : Ground σ) : Nat :=
  match o.action with
  | .runAll => c.workStatus built ((o.toolchain hostJobs).testAll o.build)
  | .runOne name =>
    match resolve built.files o.build o.discoveryLayout name with
    | .ok binary => c.workStatus built ⟨binary, []⟩
    | .error _ => 1
  | _ => 0

/-- The status for options that are carried out from some ground. -/
def optionsStatus (c : Children σ) (hostJobs : Jobs) (o : Options) (g : Ground σ) : Nat :=
  let t := o.toolchain hostJobs
  let configured := c.stepStatus g (t.configure o.build)
  let compiled := c.stepStatus (c.runner.leave g [t.configure o.build]) (t.compile o.build)
  if o.action = .list then
    if discover g.files o.build o.discoveryLayout = [] then 1 else 0
  else if o.strict = true ∧ configured ≠ 0 then configured
  else if o.strict = true ∧ compiled ≠ 0 then compiled
  else
    followUpStatus c hostJobs o (c.runner.leave g [t.configure o.build, t.compile o.build])

/-- The status for a command line, from some ground. -/
def expectedStatus (c : Children σ) (hostJobs : Jobs) (args : List Bytes) (g : Ground σ) : Nat :=
  match CommandLine.parse args with
  | .error (.help _) => 0
  | .error .version => 0
  | .error _ => 2
  | .ok o => optionsStatus c hostJobs o g

/-- Of the command lines that are not carried out, those that ask for information have the status
of success, and all others have one of their own. -/
theorem expectedStatus_eq_zero_iff_asks (c : Children σ) (hostJobs : Jobs) {args : List Bytes}
    {e : CommandLine.UsageError} (h : CommandLine.parse args = .error e) (g : Ground σ) :
    let status := expectedStatus c hostJobs args g
    (status = 0 ∨ status = 2) ∧
      (status = 0 ↔ ∃ items settings, CommandLine.Asks items e args ∧
        List.Forall₂ CommandLine.Reads items settings ∧
        (items.map CommandLine.Item.key).Nodup) := by
  have hstatus : expectedStatus c hostJobs args g = if e.isInformation then 0 else 2 := by
    unfold expectedStatus
    rw [h]
    cases e <;> rfl
  intro status
  cases he : e.isInformation with
  | true =>
    have hzero : status = 0 := hstatus.trans (if_pos he)
    exact ⟨.inl hzero, iff_of_true hzero ((CommandLine.parse_eq_information_iff he).mp h)⟩
  | false =>
    have htwo : status = 2 := hstatus.trans (if_neg (Bool.eq_false_iff.mp he))
    refine ⟨.inr htwo, iff_of_false (by omega) ?_⟩
    rintro ⟨items, settings, hasks, -⟩
    exact absurd (he.symm.trans hasks.isInformation) Bool.false_ne_true

/-! ## The codes of the actions -/

section

variable {c : Children σ} {env : Env σ (Option Nat)}

theorem codeOf_launch (hc : env.runner = c.runner) (i : Invocation)
    (w : World σ (Option Nat)) :
    codeOf (launch env i w).1 = c.workStatus w.ground i := by
  have hanswer : (w.call env i).1 = (c.runner.ask w.ground i).answer := hc ▸ rfl
  unfold launch Children.workStatus Children.code?
  rcases hcall : w.call env i with ⟨answer, w'⟩
  rw [hcall] at hanswer
  simp only [Runner.ask, Children.runner] at hanswer
  cases ho : (c.spawn i w.ground.state w.ground.files).outcome with
  | ok s =>
    obtain rfl : answer = .ok (exitCode s) := by rw [hanswer, ho]
    exact exitCode_eq_childCode s
  | error cause =>
    obtain rfl : answer = .error ⟨i.program, cause⟩ := by rw [hanswer, ho]
    rfl

theorem codeOf_listTests (hs : env.sink = Sink.unlimited) (buildDir : Path) (layout : Layout)
    {w : World σ (Option Nat)} (hw : w.sink = none) :
    codeOf (listTests env buildDir layout w).1 =
      ((if discover w.files buildDir layout = [] then 1 else 0 : Nat) : Int) := by
  have hsink : env.sink.Unfailing (logDiscovery env buildDir layout w).sink := by
    rw [(logDiscovery_continues env.runner env buildDir layout w).sink, hs, hw]
    exact unfailing_unlimited
  unfold listTests
  cases hd : discover w.files buildDir layout with
  | nil => rfl
  | cons t rest =>
    simp only [List.isEmpty_cons, Bool.false_eq_true, if_false, reduceCtorEq]
    rw [(writeNames_of_unfailing env _ hsink).1]
    rfl

/-- After a build the code is that of the child that does the actual work. -/
theorem codeOf_followUp (hc : env.runner = c.runner) (hs : env.sink = Sink.unlimited)
    (o : Options) {w : World σ (Option Nat)} (hw : w.sink = none) :
    codeOf (followUp env o w).1 = followUpStatus c env.hostJobs o w.ground := by
  unfold followUp followUpStatus
  cases ha : o.action with
  | list => rfl
  | runAll => exact codeOf_launch hc _ w
  | runOne name =>
    have hlog := logDiscovery_continues env.runner env o.build o.discoveryLayout w
    simp only [findAndLaunch]
    rw [show w.ground.files = w.files from rfl]
    cases resolve w.files o.build o.discoveryLayout name with
    | error e => cases e <;> rfl
    | ok binary =>
      have ht : env.sink.announces (lineOf (Text.lossy binary))
          (logDiscovery env o.build o.discoveryLayout w).sink = true := by
        rw [hs, hlog.sink, hw]
        exact unfailing_unlimited.announces _
      obtain ⟨w', hground, -, heq⟩ := announceAndLaunch_of_announces env ht
      simp only [heq, codeOf_launch hc, hground, hlog.ground]
      rfl
  | buildOnly => rfl

/-- The code of an action is the status that is expected of it. -/
theorem codeOf_perform (hc : env.runner = c.runner) (hs : env.sink = Sink.unlimited)
    (o : Options) {w : World σ (Option Nat)} (hw : w.sink = none) :
    codeOf (perform env o w).1 = optionsStatus c env.hostJobs o w.ground := by
  by_cases h : o.action = .list
  · rw [optionsStatus, if_pos h]
    simp only [perform, h]
    exact codeOf_listTests hs o.build o.discoveryLayout hw
  · have hcases := build_cases env (o.toolchain env.hostJobs) o.build o.strict w
    simp only [hc, Children.stepCode_ask] at hcases
    rw [perform_eq_afterBuild env h, optionsStatus, if_neg h]
    rcases hcases with ⟨ht, h₁, herror, -⟩ | ⟨ht, h₁, h₂, herror, -⟩ | ⟨hp, hok, hnext⟩
    · rw [afterBuild_of_error herror, if_pos ⟨ht, fun h0 => h₁ (congrArg _ h0)⟩]
      rfl
    · rw [afterBuild_of_error herror, if_neg fun h0 => h0.2 (Int.ofNat.inj h₁),
        if_pos ⟨ht, fun h0 => h₂ (congrArg _ h0)⟩]
      rfl
    · rw [if_neg fun h0 => h0.2 (Int.ofNat.inj (hp h0.1).1),
        if_neg fun h0 => h0.2 (Int.ofNat.inj (hp h0.1).2)]
      rw [afterBuild_of_ok hok, codeOf_followUp hc hs o (hnext.sink.trans hw), hnext.ground]

end

/-- The code of a run with real children is the status that is expected of it. -/
theorem codeOf_execute (c : Children σ) (hostJobs : Jobs) (o : Options) (g : Ground σ) :
    codeOf (execute ⟨c.runner, Sink.unlimited, hostJobs, []⟩ o ⟨g.files, g.state, none, []⟩).1 =
      optionsStatus c hostJobs o g := by
  unfold execute
  exact codeOf_perform rfl rfl o rfl

/-! ## The status of the program -/

theorem followUpStatus_le (c : Children σ) (hostJobs : Jobs) (o : Options) (built : Ground σ) :
    followUpStatus c hostJobs o built ≤ 255 := by
  unfold followUpStatus
  split
  · exact c.workStatus_le ..
  · split
    · exact c.workStatus_le ..
    · decide
  · decide

theorem optionsStatus_le (c : Children σ) (hostJobs : Jobs) (o : Options) (g : Ground σ) :
    optionsStatus c hostJobs o g ≤ 255 := by
  unfold optionsStatus
  simp only
  split
  · split <;> decide
  · split
    · exact c.stepStatus_le ..
    · split
      · exact c.stepStatus_le ..
      · exact followUpStatus_le ..

theorem statusOf_le (code : Int) : statusOf code ≤ 255 := by
  unfold statusOf
  omega

theorem statusOf_of_le {n : Nat} (h : n ≤ 255) : statusOf n = n := by
  unfold statusOf
  omega

/-- **The exit status of the program**: the expected one, which is a code that fits in a byte. A
command line that is not carried out starts no child and changes nothing. -/
theorem status_run (c : Children σ) (hostJobs : Jobs) (setting : Option String)
    (args : List Bytes) (files : FileSystem) (state : σ) :
    let outcome := run c hostJobs setting args files state
    outcome.status = expectedStatus c hostJobs args ⟨state, files⟩ ∧
      outcome.status ≤ 255 ∧
      (∀ e, CommandLine.parse args = .error e →
        calls outcome.history = [] ∧ outcome.files = files ∧ outcome.children = state) ∧
      ∀ o, CommandLine.parse args = .ok o →
        (outcome.status : Int) =
          codeOf
            (execute ⟨c.runner, Sink.unlimited, hostJobs, []⟩ o ⟨files, state, none, []⟩).1 := by
  unfold run expectedStatus
  cases hp : CommandLine.parse args with
  | error e =>
    refine ⟨?_, statusOf_le _, fun _ _ => ⟨rfl, rfl, rfl⟩, fun o ho => nomatch ho⟩
    cases e <;> rfl
  | ok o =>
    have hcode := codeOf_execute c hostJobs o ⟨state, files⟩
    have hle := optionsStatus_le c hostJobs o ⟨state, files⟩
    have hstatus : (carriedOut c hostJobs (Log.Filter.ofSetting setting) o files state).status =
        optionsStatus c hostJobs o ⟨state, files⟩ := by
      exact (congrArg statusOf hcode).trans (statusOf_of_le hle)
    refine ⟨hstatus, statusOf_le _, fun e he => (nomatch he), fun o' ho => ?_⟩
    obtain rfl := Except.ok.inj ho
    rw [hstatus]
    exact hcode.symm

end Program

end Testbed
