import Testbed.Proofs.Execution.Calls
import Testbed.Proofs.Execution.Transcript
import Testbed.Proofs.Process.Rendering

/-!
# What children leave in the log

With real children, what a run logs is told by what becomes of the children that it tries to start.
Each attempt is logged before the child starts, and once more if the child ends without an exit
code. A step of the build that could not be started is logged, and so is one that failed and is
passed over. A search for tests logs that there is no directory.

Every record is written out here, with its level, its target, its message and its fields, and the
records of the program are equal to these.

* `notes` keeps the calls and the records of a history in one order, and `Children.attempts` are
  the attempts that calls make.
* `Attempt.started`, `Attempt.endRecords`, `Attempt.refusalRecords` and `Attempt.passedOver` are
  what is logged about one attempt.
* `Attempt.events` and `Attempt.stepEvents` are what one attempt leaves in the notes. A child that
  is called and a build step leave just that (`Children.notes_call`, `Children.notes_stepEvents`),
  and so do several steps (`buildSteps_notes`).
* `searchEvents` is what a search leaves in them, and `listTests_notes` and `followUp_notes` say
  what a listing and what follows a build leave.
-/

namespace Testbed

variable {σ τ : Type}

/-! ## Calls and records -/

/-- Whether an event is the call of a child or a record. -/
def Event.isNoted : Event → Bool
  | .called _ => true
  | .logged _ _ => true
  | _ => false

/-- The calls and the records of a history, in one order. -/
def notes (history : List Event) : List Event := history.filter Event.isNoted

@[simp]
theorem notes_append (h k : List Event) : notes (h ++ k) = notes h ++ notes k :=
  List.filter_append ..

/-- Which children are called can be read off the notes. -/
@[simp]
theorem calls_notes (h : List Event) : calls (notes h) = calls h := by
  unfold calls notes
  rw [List.filterMap_filter]
  congr 1
  funext e
  cases e <;> rfl

/-- What is logged can be read off the notes. -/
@[simp]
theorem records_notes (h : List Event) : records (notes h) = records h := by
  unfold records notes
  rw [List.filterMap_filter]
  congr 1
  funext e
  cases e <;> rfl

@[simp]
theorem notes_map_logged (spans : List Log.Span) (rs : List Log.Record) :
    notes (rs.map (.logged spans)) = rs.map (.logged spans) := by
  refine List.filter_eq_self.mpr fun e he => ?_
  obtain ⟨r, -, rfl⟩ := List.mem_map.mp he
  rfl

@[simp]
theorem calls_map_logged (spans : List Log.Span) (rs : List Log.Record) :
    calls (rs.map (.logged spans)) = [] := by
  refine List.filterMap_eq_nil_iff.mpr fun e he => ?_
  obtain ⟨r, -, rfl⟩ := List.mem_map.mp he
  rfl

@[simp]
theorem records_map_logged (spans : List Log.Span) (rs : List Log.Record) :
    records (rs.map (.logged spans)) = rs.map (spans, ·) := by
  unfold records
  rw [List.filterMap_map]
  exact congrFun List.filterMap_eq_map rs

/-! ## Attempts -/

/-- A command line as the log shows it: its parts with single spaces between them, as text. -/
def Invocation.shown (i : Invocation) : String :=
  Text.lossy ([32].intercalate (i.program :: i.args))

theorem Invocation.display_eq_shown (i : Invocation) : i.display = i.shown := by
  rw [display_eq_lossy, joined_eq_intercalate]
  rfl

/-- A child that is to be started, and what becomes of it. -/
structure Attempt (σ : Type) where
  invocation : Invocation
  child : Spawned σ

namespace Attempt

/-- The code that an attempt comes to: the one with which the child exited, 1 if it ended in any
other way, and 127 if it could not be started. -/
def code (a : Attempt σ) : Int :=
  match a.child.outcome with
  | .ok s => (s.code?.getD 1 : Nat)
  | .error _ => 127

/-- Whether a build goes on after an attempt. -/
def passes (strict : Bool) (a : Attempt σ) : Bool := !strict || a.code == 0

/-- What is logged before a child is started. -/
def started (a : Attempt σ) : Log.Record where
  level := .debug
  target := "dsrun::process"
  message := "spawning"
  fields := [⟨"command", .text a.invocation.shown⟩]

/-- What is logged at the end of a child: one warning if it ends without an exit code. -/
def endRecords (a : Attempt σ) : List Log.Record :=
  match a.child.outcome with
  | .ok s =>
    if s.code? = none then
      [{ level := .warn
         target := "dsrun::process"
         message := "child terminated without an exit code"
         fields := [⟨"status", .text s.describe⟩] }]
    else []
  | .error _ => []

/-- What a build logs about a step that could not be started: one warning. -/
def refusalRecords (a : Attempt σ) : List Log.Record :=
  match a.child.outcome with
  | .ok _ => []
  | .error cause =>
    [{ level := .warn
       target := "dsrun::cli::commands"
       message :=
        "failed to launch `" ++ Text.lossy a.invocation.program ++ "`: " ++ cause.message
       fields := [] }]

/-- The warning about a step that failed and is passed over. -/
def passedOver (a : Attempt σ) : Log.Record where
  level := .warn
  target := "dsrun::cli::commands"
  message := "build step `" ++ a.invocation.shown ++ "` failed, continuing"
  fields := [⟨"exit_code", .text (toString a.code)⟩]

/-- What a build logs about a step that failed and is passed over. -/
def passingRecords (strict : Bool) (a : Attempt σ) : List Log.Record :=
  if a.code = 0 ∨ strict = true then [] else [a.passedOver]

/-- All that is logged about a child: that it is started, and how it ended. -/
def childRecords (a : Attempt σ) : List Log.Record := a.started :: a.endRecords

/-- All that a build logs about a step. -/
def stepRecords (strict : Bool) (a : Attempt σ) : List Log.Record :=
  a.refusalRecords ++ a.passingRecords strict

/-- The notes of an attempt: the call and what is logged about the child. -/
def events (spans : List Log.Span) (a : Attempt σ) : List Event :=
  .called a.invocation :: a.childRecords.map (.logged spans)

/-- The notes of a build step: those of the attempt and what the build logs about it. -/
def stepEvents (spans : List Log.Span) (strict : Bool) (a : Attempt σ) : List Event :=
  a.events spans ++ (a.stepRecords strict).map (.logged spans)

/-! The records of the program are those that are written out. -/

theorem spawningRecord_eq_started (a : Attempt σ) : spawningRecord a.invocation = a.started := by
  rw [spawningRecord, Invocation.display_eq_shown]
  rfl

theorem stepFailedRecord_eq_passedOver (a : Attempt σ) :
    stepFailedRecord a.invocation a.code = a.passedOver := by
  rw [stepFailedRecord, Invocation.display_eq_shown]
  rfl

variable {a : Attempt σ}

theorem exitCode_eq_code {s : WaitStatus} (h : a.child.outcome = .ok s) : exitCode s = a.code := by
  simp only [exitCode, code, h]
  cases s.code? <;> rfl

theorem endRecords_of_ok {s : WaitStatus} (h : a.child.outcome = .ok s) :
    a.endRecords = Testbed.endRecords s := by
  simp only [endRecords, Testbed.endRecords, h]
  cases s.code? <;> rfl

theorem endRecords_of_error {cause : LaunchCause} (h : a.child.outcome = .error cause) :
    a.endRecords = [] := by
  rw [endRecords, h]

theorem refusalRecords_of_ok {s : WaitStatus} (h : a.child.outcome = .ok s) :
    a.refusalRecords = [] := by
  rw [refusalRecords, h]

theorem refusalRecords_of_error {cause : LaunchCause} (h : a.child.outcome = .error cause) :
    a.refusalRecords = [stepUnlaunchableRecord ⟨a.invocation.program, cause⟩] := by
  rw [refusalRecords, h]
  rfl

end Attempt

namespace Children

/-- The attempt to start a child on some ground. -/
def attempt (c : Children σ) (g : Ground σ) (i : Invocation) : Attempt σ :=
  ⟨i, c.spawn i g.state g.files⟩

/-- The attempts to start children one after the other. -/
def attempts (c : Children σ) : Ground σ → List Invocation → List (Attempt σ)
  | _, [] => []
  | g, i :: rest => c.attempt g i :: c.attempts (c.runner.ask g i).ground rest

variable (c : Children σ) (g : Ground σ) (spans : List Log.Span)

theorem answer_ask (i : Invocation) :
    (c.runner.ask g i).answer =
      match (c.attempt g i).child.outcome with
      | .ok s => .ok (exitCode s)
      | .error cause => .error ⟨i.program, cause⟩ := rfl

theorem activity_ask (i : Invocation) :
    (c.runner.ask g i).activity =
      .logged (c.attempt g i).started ::
        ((c.attempt g i).child.printed.map fun p => .printed p.1 p.2) ++
          (c.attempt g i).endRecords.map .logged := by
  let a := c.attempt g i
  change Children.activity a.invocation a.child = _
  rw [Children.activity, a.spawningRecord_eq_started]
  cases h : a.child.outcome with
  | ok s => rw [Attempt.endRecords_of_ok h]
  | error cause =>
    rw [Attempt.endRecords_of_error h]
    rfl

theorem stepCode_eq_code (i : Invocation) : (c.runner.ask g i).stepCode = (c.attempt g i).code := by
  rw [Reply.stepCode, answer_ask]
  cases h : (c.attempt g i).child.outcome with
  | ok s => exact Attempt.exitCode_eq_code h
  | error cause =>
    rw [Attempt.code, h]
    rfl

/-- Printing is not noted. -/
theorem notes_printed (printed : List (Stream × Bytes)) :
    notes ((printed.map fun p => Activity.printed p.1 p.2).map (Event.ofActivity spans)) = [] := by
  refine List.filter_eq_nil_iff.mpr fun e he => ?_
  obtain ⟨a, ha, rfl⟩ := List.mem_map.mp he
  obtain ⟨p, -, rfl⟩ := List.mem_map.mp ha
  exact Bool.false_ne_true

/-- A child that is called leaves the notes of the attempt to start it. -/
theorem notes_call (i : Invocation) :
    notes (.called i :: (c.runner.ask g i).activity.map (Event.ofActivity spans)) =
      (c.attempt g i).events spans := by
  let a := c.attempt g i
  have hends : notes ((a.endRecords.map Activity.logged).map (Event.ofActivity spans)) =
      a.endRecords.map (.logged spans) := by
    rw [List.map_map]
    exact notes_map_logged spans a.endRecords
  have hprinted := notes_printed spans a.child.printed
  rw [activity_ask, List.map_append, ← List.cons_append, notes_append, hends, List.map_cons]
  -- The call and the record of the start are noted, and nothing that is printed after them.
  calc
    _ = (.called i :: .logged spans a.started :: notes _) ++
        a.endRecords.map (.logged spans) := rfl
    _ = a.events spans := by rw [hprinted]; rfl

/-- A build step leaves the notes of the attempt to start its child and what the build logs about
it. -/
theorem notes_stepEvents (strict : Bool) (step : Invocation) :
    notes (stepEvents spans strict step (c.runner.ask g step)) =
      (c.attempt g step).stepEvents spans strict := by
  let a := c.attempt g step
  have hrefusal : launchEvents spans (c.runner.ask g step) =
      a.refusalRecords.map (.logged spans) := by
    rw [launchEvents, answer_ask]
    cases h : (c.attempt g step).child.outcome with
    | ok s => rw [Attempt.refusalRecords_of_ok h]; rfl
    | error cause => rw [Attempt.refusalRecords_of_error h]; rfl
  have hpassing : passingEvents spans strict step (c.runner.ask g step) =
      (a.passingRecords strict).map (.logged spans) := by
    rw [passingEvents, stepCode_eq_code, Attempt.passingRecords]
    split
    · rfl
    · exact congrArg (fun r => [Event.logged spans r]) a.stepFailedRecord_eq_passedOver
  rw [stepEvents, notes_append, notes_append, notes_call, hrefusal, hpassing, notes_map_logged,
    notes_map_logged, Attempt.stepEvents, Attempt.stepRecords, List.map_append, List.append_assoc]

end Children

/-! ## The notes of what a run does -/

section

variable {c : Children σ} {env : Env σ τ} (hrunner : env.runner = c.runner)

include hrunner

theorem buildStep_notes (strict : Bool) (step : Invocation) (w : World σ τ) :
    notes (buildStep env strict step w).2.history =
      notes w.history ++ (c.attempt w.ground step).stepEvents env.spans strict := by
  rw [buildStep_history, notes_append, hrunner, c.notes_stepEvents]

/-- A build step passes exactly if the attempt to start its child does. -/
theorem buildStep_eq_ok_iff_passes (strict : Bool) (step : Invocation) (w : World σ τ) :
    (buildStep env strict step w).1 = .ok () ↔ (c.attempt w.ground step).passes strict = true := by
  rw [buildStep_eq_ok_iff, hrunner, c.stepCode_eq_code, Attempt.passes]
  cases strict <;> simp

/-- Build steps are made in order, and each leaves the notes of its own. They are all made if they
pass, and otherwise one of those that are made does not. -/
theorem buildSteps_notes (strict : Bool) (steps : List Invocation) (w : World σ τ) :
    let run := buildSteps env strict steps w
    ∃ made, made <+: steps ∧ Continues c.runner made w run.2 ∧
      notes run.2.history = notes w.history ++
        (c.attempts w.ground made).flatMap (·.stepEvents env.spans strict) ∧
      (run.1 = .ok () ∧ made = steps ∧ (c.attempts w.ground made).all (·.passes strict) = true ∨
        (∃ e, run.1 = .error e) ∧ (c.attempts w.ground made).all (·.passes strict) = false) := by
  induction steps generalizing w with
  | nil =>
    exact ⟨[], List.nil_prefix, Continues.refl _ w, (List.append_nil _).symm,
      .inl ⟨rfl, rfl, rfl⟩⟩
  | cons step rest ih =>
    intro run
    have hnotes := buildStep_notes hrunner strict step w
    have hpasses := buildStep_eq_ok_iff_passes hrunner strict step w
    have hnext := buildStep_continues env strict step w
    rw [hrunner] at hnext
    rcases hb : buildStep env strict step w with ⟨e | ⟨⟩, v⟩
    · have hrun : run = (.error e, v) := by
        simp only [run, buildSteps, hb]
      rw [hb] at hnotes hpasses hnext
      rw [hrun]
      refine ⟨[step], List.prefix_append [step] rest, hnext, ?_, .inr ⟨⟨e, rfl⟩, ?_⟩⟩
      · rw [hnotes]
        simp only [Children.attempts, List.flatMap_cons, List.flatMap_nil, List.append_nil]
      · have hfails : (c.attempt w.ground step).passes strict = false := by
          refine Bool.eq_false_iff.mpr fun h => ?_
          cases hpasses.mpr h
        simp only [Children.attempts, List.all_cons, hfails, Bool.false_and]
    · have hrun : run = buildSteps env strict rest v := by
        simp only [run, buildSteps, hb]
      rw [hb] at hnotes hpasses hnext
      have hstep : (c.attempt w.ground step).passes strict = true := hpasses.mp rfl
      have hground : v.ground = (c.runner.ask w.ground step).ground := hnext.ground
      obtain ⟨made, hmade, hrest, hnotes', hresult⟩ := ih v
      have hattempts : c.attempts w.ground (step :: made) =
          c.attempt w.ground step :: c.attempts v.ground made := by
        rw [hground]
        rfl
      rw [hrun]
      refine ⟨step :: made, List.cons_prefix_cons.mpr ⟨rfl, hmade⟩, hnext.trans hrest, ?_, ?_⟩
      · rw [hnotes', hnotes, hattempts, List.flatMap_cons, List.append_assoc]
      · rw [hattempts, List.all_cons, hstep, Bool.true_and, List.cons_inj_right]
        exact hresult

/-- A child that is called for the work leaves the notes of the attempt to start it. -/
theorem launch_notes (i : Invocation) (w : World σ τ) :
    notes (launch env i w).2.history =
      notes w.history ++ (c.attempt w.ground i).events env.spans := by
  have hcall : notes (w.call env i).2.history =
      notes w.history ++ (c.attempt w.ground i).events env.spans := by
    rw [← c.notes_call, ← hrunner, ← notes_append]
    rfl
  unfold launch
  rcases hreply : w.call env i with ⟨_ | _, v⟩ <;> rw [hreply] at hcall <;> exact hcall

end

/-- Writing names leaves no notes. -/
theorem writeNames_notes (env : Env σ τ) (names : List String) (w : World σ τ) :
    notes (writeNames env names w).2.history = notes w.history := by
  induction names generalizing w with
  | nil => rfl
  | cons name rest ih =>
    have hwrite : notes (w.write env (lineOf name)).2.history = notes w.history := by
      rw [World.write, notes_append]
      exact List.append_nil _
    rw [writeNames]
    rcases hw : w.write env (lineOf name) with ⟨_ | reason, v⟩ <;> rw [hw] at hwrite
    · exact (ih v).trans hwrite
    · exact hwrite

/-- The notes of a search for tests, if there is one: that there is no directory, if there is
none. -/
def searchEvents (searched : Bool) (spans : List Log.Span) (files : FileSystem) (buildDir : Path)
    (layout : Layout) : List Event :=
  if searched && !files.isDirectory (layout.root buildDir) then
    let searching : Log.Span :=
      { target := "dsrun::discovery"
        name := "discover"
        fields := [⟨"build_dir", .text (Text.lossy buildDir)⟩] }
    [.logged (spans ++ [searching])
      { level := .debug
        target := "dsrun::discovery"
        message := "no test directory"
        fields := [⟨"root", .text (Text.lossy (layout.root buildDir))⟩] }]
  else []

theorem searchEvents_false (spans : List Log.Span) (files : FileSystem) (buildDir : Path)
    (layout : Layout) : searchEvents false spans files buildDir layout = [] := rfl

theorem logDiscovery_notes (env : Env σ τ) (buildDir : Path) (layout : Layout) (w : World σ τ) :
    notes (logDiscovery env buildDir layout w).history =
      notes w.history ++ searchEvents true env.spans w.files buildDir layout := by
  unfold logDiscovery searchEvents
  cases w.files.isDirectory (layout.root buildDir) with
  | true => exact (List.append_nil _).symm
  | false => exact notes_append ..

theorem listTests_notes (env : Env σ τ) (buildDir : Path) (layout : Layout) (w : World σ τ) :
    notes (listTests env buildDir layout w).2.history =
      notes w.history ++ searchEvents true env.spans w.files buildDir layout := by
  unfold listTests
  simp only
  split
  · exact logDiscovery_notes env buildDir layout w
  · exact (writeNames_notes env _ _).trans (logDiscovery_notes env buildDir layout w)

/-- Whether a run looks for tests: to list them, or to run one of them and not all. -/
def Options.searches (o : Options) : Bool := o.listTests || !o.runAll && o.testName.isSome

theorem Options.searches_eq (o : Options) :
    o.searches =
      match o.action with
      | .list => true
      | .runAll => false
      | .runOne _ => true
      | .buildOnly => false := by
  unfold searches action
  cases o.listTests <;> cases o.runAll <;> cases o.testName <;> rfl

section

variable {c : Children σ} {env : Env σ τ} (hrunner : env.runner = c.runner)

include hrunner

/-- Announcing a binary leaves the notes of the attempt to run it, or none. -/
theorem announceAndLaunch_notes (binary : Path) (w : World σ τ) :
    ∃ work, work.length ≤ 1 ∧ notes (announceAndLaunch env binary w).2.history = notes w.history ++
      (c.attempts w.ground work).flatMap (·.events env.spans) := by
  rcases announceAndLaunch_cases env binary w with ⟨count, reason, sink, -, heq⟩ |
    ⟨sink, reason, sink', -, -, heq⟩ | ⟨sink, sink', -, -, heq⟩
  · refine ⟨[], Nat.zero_le 1, ?_⟩
    rw [heq, notes_append]
    rfl
  · refine ⟨[], Nat.zero_le 1, ?_⟩
    rw [heq, notes_append]
    rfl
  · refine ⟨[⟨binary, []⟩], Nat.le_refl 1, ?_⟩
    rw [heq, launch_notes hrunner, notes_append]
    simp only [Children.attempts, List.flatMap_cons, List.flatMap_nil, List.append_nil]
    congr 1
    exact List.append_nil _

/-- What follows a build leaves the notes of a search, if there is one, and then those of the
attempts that are made. -/
theorem followUp_notes {o : Options} (ha : o.action ≠ .list) (w : World σ τ) :
    ∃ work, work.length ≤ 1 ∧ notes (followUp env o w).2.history = notes w.history ++
      searchEvents o.searches env.spans w.files o.build o.discoveryLayout ++
      (c.attempts w.ground work).flatMap (·.events env.spans) := by
  unfold followUp
  cases h : o.action with
  | list => exact absurd h ha
  | runAll =>
    refine ⟨[(o.toolchain env.hostJobs).testAll o.build], Nat.le_refl 1, ?_⟩
    simp only [launch_notes hrunner, o.searches_eq, h, searchEvents_false, Children.attempts,
      List.flatMap_cons, List.flatMap_nil, List.append_nil]
  | runOne name =>
    have hsearch := logDiscovery_notes env o.build o.discoveryLayout w
    have hground := (logDiscovery_continues env.runner env o.build o.discoveryLayout w).ground
    simp only [findAndLaunch, o.searches_eq, h]
    cases resolve w.files o.build o.discoveryLayout name with
    | error e => exact ⟨[], Nat.zero_le 1, hsearch.trans (List.append_nil _).symm⟩
    | ok binary =>
      obtain ⟨work, hlength, hwork⟩ := announceAndLaunch_notes hrunner binary
        (logDiscovery env o.build o.discoveryLayout w)
      rw [hsearch, hground] at hwork
      exact ⟨work, hlength, hwork⟩
  | buildOnly =>
    refine ⟨[], Nat.zero_le 1, ?_⟩
    simp only [o.searches_eq, h, searchEvents_false, Children.attempts, List.flatMap_nil,
      List.append_nil]

end

end Testbed
