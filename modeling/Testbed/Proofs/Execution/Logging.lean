import Testbed.Log.Filter
import Testbed.Proofs.Execution.Notes
import Testbed.Proofs.Execution.Strictness

/-!
# What a run logs

The log of a run with real children is a transcript of it: what is to be done comes first, then the
two steps of the build as far as they are made, then the search for tests if the run comes to it,
and then the child that is called for the work. Nothing else is logged.

* `Options.dispatched` is what is logged first, written out; by `dispatchingRecord_eq_dispatched` it
  is the record of the program.
* `transcript` puts the calls and the records of a run together, and `execute_notes` says that a
  run leaves just these.
* `continuings` are the records which say that a build goes on after a failed step, and
  `continuings_transcript` finds one for each step that failed.
* `filterMap_line?_records` says what is shown of a history by default.
* `execute_transcript` is the result for whole runs.
-/

namespace Testbed

variable {σ τ : Type}

/-! ## What is to be done -/

namespace Options

/-- What is to be done, as the log shows it: a listing comes before everything else, and running all
tests before running one. -/
def task (o : Options) : String :=
  if o.listTests then "List"
  else if o.runAll then "RunAll"
  else
    match o.testName with
    | some name => "RunOne(" ++ Text.quoted name ++ ")"
    | none => "BuildOnly"

/-- Where tests are looked for, as the log shows it. -/
def whereabouts (o : Options) : String :=
  match o.layout with
  | .testBin => "TestBin"
  | .groups =>
    "Groups \x7b group_dir: " ++ Text.quoted o.groupDir ++ ", suffix: " ++
      Text.quoted o.binarySuffix ++ " \x7d"

/-- What is logged before anything is done. -/
def dispatched (o : Options) : Log.Record where
  level := .debug
  target := "dsrun::cli"
  message := "dispatching"
  fields := [⟨"action", .text o.task⟩, ⟨"layout", .text o.whereabouts⟩]

theorem text_action_eq_task (o : Options) : o.action.text = o.task := by
  unfold action task
  cases o.listTests <;> cases o.runAll <;> cases o.testName <;> rfl

theorem text_discoveryLayout_eq_whereabouts (o : Options) :
    o.discoveryLayout.text = o.whereabouts := by
  unfold discoveryLayout whereabouts
  cases o.layout <;> rfl

end Options

theorem dispatchingRecord_eq_dispatched (o : Options) :
    dispatchingRecord o.action o.discoveryLayout = o.dispatched := by
  rw [dispatchingRecord, o.text_action_eq_task, o.text_discoveryLayout_eq_whereabouts]
  rfl

/-! ## The notes of a run -/

/-- The notes of a run that calls these children: what is to be done, the steps of the build, the
search for tests if there is one and the build comes to it, and the child that is called for the
work. -/
def transcript (c : Children σ) (spans : List Log.Span) (o : Options) (g : Ground σ)
    (children : List Invocation) : List Event :=
  let place : Log.Field := ⟨"build_dir", .text (Text.lossy o.build)⟩
  let inside := spans ++ [{ target := "dsrun::cli", name := "execute", fields := [place] }]
  let building : Log.Span :=
    { target := "dsrun::cli::commands"
      name := "build"
      fields := [place, ⟨"strict", .flag o.strict⟩] }
  let steps := c.attempts g (children.take 2)
  let built := c.runner.leave g (children.take 2)
  let work := c.attempts built (children.drop 2)
  let searched := o.searches && steps.all (·.passes o.strict)
  .logged inside o.dispatched ::
    (steps.flatMap (·.stepEvents (inside ++ [building]) o.strict) ++
      searchEvents searched inside built.files o.build o.discoveryLayout ++
      work.flatMap (·.events inside))

theorem calls_events (spans : List Log.Span) (a : Attempt σ) :
    calls (a.events spans) = [a.invocation] :=
  congrArg (a.invocation :: ·) (calls_map_logged spans a.childRecords)

theorem calls_stepEvents (spans : List Log.Span) (strict : Bool) (a : Attempt σ) :
    calls (a.stepEvents spans strict) = [a.invocation] := by
  rw [Attempt.stepEvents, calls_append, calls_events, calls_map_logged, List.append_nil]

theorem calls_searchEvents (searched : Bool) (spans : List Log.Span) (files : FileSystem)
    (buildDir : Path) (layout : Layout) :
    calls (searchEvents searched spans files buildDir layout) = [] := by
  unfold searchEvents
  split <;> rfl

/-- Where each attempt has one call in the notes, the calls are the children. -/
theorem calls_flatMap_attempts (c : Children σ) {f : Attempt σ → List Event}
    (hf : ∀ a, calls (f a) = [a.invocation]) (g : Ground σ) (children : List Invocation) :
    calls ((c.attempts g children).flatMap f) = children := by
  induction children generalizing g with
  | nil => rfl
  | cons i rest ih =>
    rw [Children.attempts, List.flatMap_cons, calls_append, ih, hf]
    rfl

/-- The calls in a transcript are the children that it is about. -/
theorem calls_transcript (c : Children σ) (spans : List Log.Span) (o : Options) (g : Ground σ)
    (children : List Invocation) : calls (transcript c spans o g children) = children := by
  calc
    _ = calls (_ ++ _ ++ _) := rfl
    _ = children.take 2 ++ [] ++ children.drop 2 := by
      rw [calls_append, calls_append, calls_flatMap_attempts c (calls_stepEvents _ o.strict),
        calls_flatMap_attempts c (calls_events _), calls_searchEvents]
    _ = children := by rw [List.append_nil, List.take_append_drop]

/-- Carrying out options leaves the notes of the transcript of the children that are called. -/
theorem execute_notes (c : Children σ) (sink : Sink τ) (hostJobs : Jobs) (spans : List Log.Span)
    (o : Options) (w : World σ τ) :
    ∃ children, children.take 2 <+: o.steps hostJobs ∧ children.length ≤ 3 ∧
      notes (execute ⟨c.runner, sink, hostJobs, spans⟩ o w).2.history =
        notes w.history ++ transcript c spans o w.ground children := by
  let env : Env σ τ := Env.within ⟨c.runner, sink, hostJobs, spans⟩ (executeSpan o.build)
  let start := w.log env (dispatchingRecord o.action o.discoveryLayout)
  have hstart : notes start.history = notes w.history ++ [.logged env.spans o.dispatched] := by
    rw [← dispatchingRecord_eq_dispatched]
    exact notes_append ..
  have hrun : execute ⟨c.runner, sink, hostJobs, spans⟩ o w = perform env o start := rfl
  rw [hrun]
  by_cases ha : o.action = .list
  · refine ⟨[], List.nil_prefix, Nat.zero_le 3, ?_⟩
    have hlist := listTests_notes env o.build o.discoveryLayout start
    simp only [perform, ha]
    rw [hlist, hstart, List.append_assoc]
    simp only [transcript, o.searches_eq, ha]
    exact congrArg _ (congrArg _ (List.append_nil _).symm)
  · let building := env.within (buildSpan o.build o.strict)
    let built := build env (o.toolchain env.hostJobs) o.build o.strict start
    have hrunner : building.runner = c.runner := rfl
    have hspans : building.spans = spans ++ [executeSpan o.build] ++ [buildSpan o.build o.strict] :=
      rfl
    obtain ⟨made, hmade, hnext, hnotes, hresult⟩ :=
      buildSteps_notes hrunner o.strict (o.steps hostJobs) start
    have hsame : start.ground = w.ground := rfl
    rw [hsame] at hnotes hresult
    have hbuilt : notes built.2.history = notes start.history ++
        (c.attempts w.ground made).flatMap (·.stepEvents building.spans o.strict) := hnotes
    rw [perform_eq_afterBuild env ha]
    rcases hresult with ⟨hok, rfl, hpass⟩ | ⟨⟨e, herror⟩, hfail⟩
    · have hcompleted : built.1 = .ok () := hok
      have hchildren : env.runner = c.runner := rfl
      obtain ⟨work, hwork, hfollow⟩ := followUp_notes hchildren ha built.2
      refine ⟨o.steps hostJobs ++ work, List.prefix_rfl, ?_, ?_⟩
      · rw [List.length_append]
        change 2 + work.length ≤ 3
        omega
      · have hground : built.2.ground = c.runner.leave w.ground (o.steps hostJobs) := hnext.ground
        have hfiles : built.2.files = (c.runner.leave w.ground (o.steps hostJobs)).files :=
          congrArg Ground.files hground
        have htake : (o.steps hostJobs ++ work).take 2 = o.steps hostJobs := rfl
        have hdrop : (o.steps hostJobs ++ work).drop 2 = work := rfl
        rw [afterBuild_of_ok hcompleted, hfollow, hbuilt, hstart, hground, hfiles, transcript,
          htake, hdrop, hpass, Bool.and_true]
        simp only [hspans, List.append_assoc, List.cons_append, List.nil_append]
        rfl
    · have hstopped : built.1 = .error e := herror
      have hlength : made.length ≤ 2 := hmade.length_le
      refine ⟨made, (List.take_prefix 2 made).trans hmade, by omega, ?_⟩
      rw [afterBuild_of_error hstopped, transcript, List.take_of_length_le hlength,
        List.drop_eq_nil_of_le hlength, hfail, Bool.and_false]
      simp only [hbuilt, hstart, hspans, Children.attempts, searchEvents_false, List.flatMap_nil,
        List.append_nil, List.append_assoc, List.cons_append, List.nil_append]
      rfl

/-! ## Going on after failed steps -/

/-- Whether a record says that a build goes on after a failed step: it has an exit code. -/
def Log.Record.isContinuing (r : Log.Record) : Bool :=
  r.target == "dsrun::cli::commands" && r.fields.any fun f => f.name == "exit_code"

/-- The records of a history which say that a build goes on after a failed step. -/
def continuings (history : List Event) : List Log.Record :=
  history.filterMap fun
    | .logged _ record => if record.isContinuing then some record else none
    | _ => none

@[simp]
theorem continuings_append (h k : List Event) :
    continuings (h ++ k) = continuings h ++ continuings k :=
  List.filterMap_append

@[simp]
theorem continuings_map_logged (spans : List Log.Span) (rs : List Log.Record) :
    continuings (rs.map (.logged spans)) = rs.filter Log.Record.isContinuing := by
  unfold continuings
  rw [List.filterMap_map, ← List.filterMap_eq_filter]
  rfl

theorem continuings_flatMap {α : Type} (f : α → List Event) (l : List α) :
    continuings (l.flatMap f) = l.flatMap fun a => continuings (f a) :=
  List.filterMap_flatMap

/-- Nothing that is logged about a child says that a build goes on. -/
theorem continuings_events (spans : List Log.Span) (a : Attempt σ) :
    continuings (a.events spans) = [] := by
  have hends : a.endRecords.filter Log.Record.isContinuing = [] := by
    unfold Attempt.endRecords
    split
    · split <;> rfl
    · rfl
  calc
    _ = continuings (a.childRecords.map (.logged spans)) := rfl
    _ = a.endRecords.filter Log.Record.isContinuing := continuings_map_logged spans a.childRecords
    _ = [] := hends

/-- A step that failed and is passed over is the only one of which that is logged. -/
theorem continuings_stepEvents (spans : List Log.Span) (strict : Bool) (a : Attempt σ) :
    continuings (a.stepEvents spans strict) = a.passingRecords strict := by
  have hrefusal : a.refusalRecords.filter Log.Record.isContinuing = [] := by
    unfold Attempt.refusalRecords
    split <;> rfl
  have hpassing : (a.passingRecords strict).filter Log.Record.isContinuing =
      a.passingRecords strict := by
    unfold Attempt.passingRecords
    split
    · rfl
    · rfl
  rw [Attempt.stepEvents, continuings_append, continuings_events, continuings_map_logged,
    Attempt.stepRecords, List.filter_append, hrefusal, hpassing]
  rfl

theorem continuings_searchEvents (searched : Bool) (spans : List Log.Span) (files : FileSystem)
    (buildDir : Path) (layout : Layout) :
    continuings (searchEvents searched spans files buildDir layout) = [] := by
  unfold searchEvents
  split <;> rfl

/-- The steps that are passed over are those that failed, unless the build is strict. -/
theorem flatMap_passingRecords (strict : Bool) (steps : List (Attempt σ)) :
    steps.flatMap (·.passingRecords strict) =
      if strict then []
      else
        (steps.filter fun a => a.code ≠ 0).map Attempt.passedOver := by
  induction steps with
  | nil => cases strict <;> rfl
  | cons a rest ih =>
    rw [List.flatMap_cons, ih, Attempt.passingRecords]
    cases strict with
    | true => simp
    | false => by_cases h : a.code = 0 <;> simp [h]

/-- A transcript says once for each failed step that the build goes on, unless it is strict. -/
theorem continuings_transcript (c : Children σ) (spans : List Log.Span) (o : Options)
    (g : Ground σ) (children : List Invocation) :
    continuings (transcript c spans o g children) =
      if o.strict then []
      else
        ((c.attempts g (children.take 2)).filter fun a => a.code ≠ 0).map Attempt.passedOver := by
  have hwork (inside : List Log.Span) (work : List (Attempt σ)) :
      continuings (work.flatMap (·.events inside)) = [] := by
    rw [continuings_flatMap]
    simp only [continuings_events, List.flatMap_eq_nil_iff, implies_true]
  calc
    _ = continuings (_ ++ _ ++ _) := rfl
    _ = (c.attempts g (children.take 2)).flatMap (·.passingRecords o.strict) := by
      rw [continuings_append, continuings_append, continuings_searchEvents, hwork,
        continuings_flatMap]
      simp only [continuings_stepEvents, List.append_nil]
    _ = _ := flatMap_passingRecords o.strict _

/-! ## What is shown by default -/

namespace Log.Filter

/-- Where only warnings are shown, no span is kept. -/
theorem opened_warnings (scopes : List Threshold) (spans : List Span) :
    warnings.opened scopes spans = ([], scopes) := by
  induction spans with
  | nil => rfl
  | cons s rest ih => exact ih

/-- Where only warnings are shown, nothing but errors and warnings is. -/
theorem shows_warnings (r : Record) :
    warnings.shows [] r = decide (r.level = .error ∨ r.level = .warn) := by
  unfold shows
  cases r.level <;> rfl

/-- Where only warnings are shown, no spans are shown before them. -/
theorem line?_warnings (spans : List Span) (r : Record) :
    warnings.line? spans r =
      if r.level = .error ∨ r.level = .warn then some (r.line []) else none := by
  simp only [line?, opened_warnings, shows_warnings, decide_eq_true_eq]

end Log.Filter

/-- A warning on one line, without the spans it stands in. -/
def Log.Record.shown (r : Log.Record) : String :=
  "WARN " ++ r.target ++ ": " ++
    " ".intercalate (Log.defuse r.message :: r.fields.map fun f => f.name ++ "=" ++ f.value.shown)

theorem line_eq_shown {r : Log.Record} (h : r.level = .warn) : r.line [] = r.shown := by
  rw [Log.Record.line, h]
  rfl

/-- Whether an event is an error that is logged. -/
def Event.isError : Event → Bool
  | .logged _ record => record.level == .error
  | _ => false

/-- What is shown by default of a history without errors: its warnings, without spans. -/
theorem filterMap_line?_records {history : List Event} (h : history.all (!·.isError) = true) :
    (records history).filterMap (fun p => (Log.Filter.ofSetting none).line? p.1 p.2) =
      (warnings history).map Log.Record.shown := by
  induction history with
  | nil => rfl
  | cons e rest ih =>
    rw [List.all_cons, Bool.and_eq_true] at h
    cases e with
    | logged spans record =>
      have hlevel : record.level ≠ .error := by simpa [Event.isError] using h.1
      have hline : (Log.Filter.ofSetting none).line? spans record =
          if record.level = .warn then some record.shown else none := by
        change Log.Filter.warnings.line? spans record = _
        simp only [Log.Filter.line?_warnings, hlevel, false_or]
        split
        · next hwarn => rw [line_eq_shown hwarn]
        · rfl
      have hrest := ih h.2
      unfold records warnings at hrest ⊢
      by_cases hwarn : record.level = .warn <;> simp [hline, hwarn, hrest]
    | called i => exact ih h.2
    | printed stream bytes => exact ih h.2
    | wrote bytes => exact ih h.2
    | flushed refusal => exact ih h.2

theorem noError_events (spans : List Log.Span) (a : Attempt σ) :
    (a.events spans).all (!·.isError) = true := by
  unfold Attempt.events Attempt.childRecords Attempt.endRecords
  split
  · split <;> rfl
  · rfl

theorem noError_stepEvents (spans : List Log.Span) (strict : Bool) (a : Attempt σ) :
    (a.stepEvents spans strict).all (!·.isError) = true := by
  rw [Attempt.stepEvents, List.all_append, noError_events, Bool.true_and]
  unfold Attempt.stepRecords Attempt.refusalRecords Attempt.passingRecords
  split <;> split <;> rfl

theorem noError_searchEvents (searched : Bool) (spans : List Log.Span) (files : FileSystem)
    (buildDir : Path) (layout : Layout) :
    (searchEvents searched spans files buildDir layout).all (!·.isError) = true := by
  unfold searchEvents
  split <;> rfl

/-- No error is logged. -/
theorem noError_transcript (c : Children σ) (spans : List Log.Span) (o : Options) (g : Ground σ)
    (children : List Invocation) :
    (transcript c spans o g children).all (!·.isError) = true := by
  rw [transcript, List.all_cons, List.all_append, List.all_append, noError_searchEvents,
    List.all_flatMap, List.all_flatMap]
  simp only [noError_stepEvents, noError_events, Bool.and_eq_true, List.all_eq_true, implies_true,
    and_true]
  rfl

/-- **What a run logs.** With real children, the calls and the records of a run are those of the
transcript of the children that it calls: at most the two steps of the build, in order, and one
child more. It says once for each step that failed that the build goes on, unless it is strict; and
what is shown of it by default are its warnings, in order. -/
theorem execute_transcript (c : Children σ) (sink : Sink τ) (hostJobs : Jobs)
    (spans : List Log.Span) (o : Options) (w : World σ τ) :
    let run := execute ⟨c.runner, sink, hostJobs, spans⟩ o w
    ∃ children, children.take 2 <+: o.steps hostJobs ∧ children.length ≤ 3 ∧
      calls run.2.history = calls w.history ++ children ∧
      let told := transcript c spans o w.ground children
      let steps := c.attempts w.ground (children.take 2)
      notes run.2.history = notes w.history ++ told ∧
      records run.2.history = records w.history ++ records told ∧
      continuings told =
        (if o.strict then [] else (steps.filter fun a => a.code ≠ 0).map Attempt.passedOver) ∧
      (records told).filterMap (fun p => (Log.Filter.ofSetting none).line? p.1 p.2) =
        (warnings told).map Log.Record.shown := by
  intro run
  obtain ⟨children, hsteps, hlength, hnotes⟩ := execute_notes c sink hostJobs spans o w
  refine ⟨children, hsteps, hlength, ?_, hnotes, ?_, continuings_transcript c spans o _ _,
    filterMap_line?_records (noError_transcript c spans o _ _)⟩
  · rw [← calls_notes, hnotes, calls_append, calls_notes, calls_transcript]
  · rw [← records_notes, hnotes, records_append, records_notes]

end Testbed
