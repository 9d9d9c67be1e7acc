import Testbed.Proofs.Execution.Agreement
import Testbed.Proofs.Execution.Transcript

/-!
# Strictness cuts a run short

A strict run and one that is not strict do the same until a step of the build fails. If none does,
they cannot be told apart but by the span of the build, which shows the flag. Otherwise the strict
run ends with the first step that fails, and the other one goes on from there.

* `Passes.exists_failing` finds the first step that fails.
* `Event.flagless` leaves the flag of a span out, and `map_flagless_buildEvents` says that the
  histories of two builds without a failing step differ in nothing else.
* `perform_of_passes` compares two runs in which no step fails, and `perform_of_failing` is the
  strict run in which one does.
* `execute_cutShort` puts them together.
-/

namespace Testbed

variable {σ τ : Type}

/-! ## The first step that fails -/

/-- Unless all steps succeed, there is a first one that fails. -/
theorem Passes.exists_failing {r : Runner σ} {g : Ground σ} {steps : List Invocation}
    (h : ¬ Passes r true g steps) :
    ∃ front step back, steps = front ++ step :: back ∧ Passes r true g front ∧
      (r.ask (r.leave g front) step).stepCode ≠ 0 := by
  induction steps generalizing g with
  | nil => exact absurd trivial h
  | cons first rest ih =>
    by_cases hfirst : (r.ask g first).stepCode = 0
    · obtain ⟨front, step, back, rfl, hfront, hstep⟩ := ih fun hrest => h ⟨fun _ => hfirst, hrest⟩
      exact ⟨first :: front, step, back, rfl, ⟨fun _ => hfirst, hfront⟩, hstep⟩
    · exact ⟨[], first, rest, rfl, trivial, hfirst⟩

/-- The steps after the first one that fails add nothing to the history of a strict build. -/
theorem buildEvents_of_failing {r : Runner σ} (spans : List Log.Span) {g : Ground σ}
    {front : List Invocation} {step : Invocation} (back : List Invocation)
    (hfront : Passes r true g front) (hstep : (r.ask (r.leave g front) step).stepCode ≠ 0) :
    buildEvents r spans true g (front ++ step :: back) =
      buildEvents r spans true g (front ++ [step]) := by
  induction front generalizing g with
  | nil =>
    have hfails : (r.ask g step).stepCode ≠ 0 := hstep
    rw [List.nil_append, List.nil_append, buildEvents_cons_of_fails spans back hfails,
      buildEvents_cons_of_fails spans [] hfails]
  | cons first front ih =>
    rw [List.cons_append, List.cons_append, buildEvents_cons_of_passes spans _ hfront.1,
      buildEvents_cons_of_passes spans _ hfront.1, ih hfront.2 hstep]

/-! ## The flag in the span of a build -/

/-- A span without the flag that says whether a build is strict. -/
def Log.Span.flagless (s : Log.Span) : Log.Span :=
  { s with fields := s.fields.filter fun f => f.name != "strict" }

/-- An event without the flags in its spans. -/
def Event.flagless : Event → Event
  | .logged spans record => .logged (spans.map Log.Span.flagless) record
  | e => e

/-- The view that shows everything but flags. -/
def flaglessView : View := some ∘ Event.flagless

theorem filterMap_flaglessView (history : List Event) :
    history.filterMap flaglessView = history.map Event.flagless :=
  congrFun List.filterMap_eq_map history

theorem flagless_buildSpan (buildDir : Path) (strict strict' : Bool) :
    (buildSpan buildDir strict).flagless = (buildSpan buildDir strict').flagless := rfl

theorem calls_map_flagless (history : List Event) :
    calls (history.map Event.flagless) = calls history := by
  unfold calls
  rw [List.filterMap_map]
  congr 1
  funext e
  cases e <;> rfl

theorem written_map_flagless (history : List Event) :
    written (history.map Event.flagless) = written history := by
  unfold written
  rw [List.flatMap_map]
  congr 1
  funext e
  cases e <;> rfl

/-- The warnings in a history, without the spans they were logged in. -/
def warnings (history : List Event) : List Log.Record :=
  history.filterMap fun
    | .logged _ record => if record.level = .warn then some record else none
    | _ => none

theorem warnings_map_flagless (history : List Event) :
    warnings (history.map Event.flagless) = warnings history := by
  unfold warnings
  rw [List.filterMap_map]
  congr 1
  funext e
  cases e <;> rfl

section

variable {spans spans' : List Log.Span}
  (hspans : spans.map Log.Span.flagless = spans'.map Log.Span.flagless)

include hspans

theorem map_flagless_ofActivity (seen : List Activity) :
    (seen.map (Event.ofActivity spans)).map Event.flagless =
      (seen.map (Event.ofActivity spans')).map Event.flagless := by
  rw [List.map_map, List.map_map]
  refine List.map_congr_left fun a _ => ?_
  cases a with
  | logged record => exact congrArg (Event.logged · record) hspans
  | printed stream bytes => rfl

theorem map_flagless_launchEvents (r : Reply σ) :
    (launchEvents spans r).map Event.flagless = (launchEvents spans' r).map Event.flagless := by
  unfold launchEvents
  cases r.answer with
  | ok code => rfl
  | error e => exact congrArg (fun s => [Event.logged s _]) hspans

/-- Where no step fails, what a strict build adds to the history differs from what another one
adds in nothing but flags. -/
theorem map_flagless_buildEvents {r : Runner σ} {g : Ground σ} {steps : List Invocation}
    (h : Passes r true g steps) :
    (buildEvents r spans true g steps).map Event.flagless =
      (buildEvents r spans' false g steps).map Event.flagless := by
  induction steps generalizing g with
  | nil => rfl
  | cons step rest ih =>
    -- A step with the code zero ends neither build and is not warned about.
    have hcode : (r.ask g step).stepCode = 0 := h.1 rfl
    have hstep : (stepEvents spans true step (r.ask g step)).map Event.flagless =
        (stepEvents spans' false step (r.ask g step)).map Event.flagless := by
      simp only [stepEvents, passingEvents, hcode, true_or, if_true, List.append_nil,
        List.map_append, List.map_cons, map_flagless_ofActivity hspans,
        map_flagless_launchEvents hspans]
    rw [buildEvents_cons_of_passes spans rest fun _ => hcode,
      buildEvents_cons_of_passes spans' rest fun _ => hcode, List.map_append, List.map_append,
      hstep, ih h.2]

end

/-! ## Two runs -/

section

variable (env : Env σ τ) {o : Options} {w : World σ τ}

/-- A build in which no step fails is the same for a strict run, but for the flag. -/
theorem build_of_passes {t : Toolchain} {buildDir : Path}
    (h : Passes env.runner true w.ground [t.configure buildDir, t.compile buildDir]) :
    (build env t buildDir true w).1 = .ok () ∧
      World.Agrees flaglessView (build env t buildDir true w).2
        (build env t buildDir false w).2 := by
  obtain ⟨hok, hnext⟩ := buildSteps_passes (env.within (buildSpan buildDir true)) _ h
  obtain ⟨-, hnext'⟩ := build_permissive env t buildDir w
  have hspans : (env.spans ++ [buildSpan buildDir true]).map Log.Span.flagless =
      (env.spans ++ [buildSpan buildDir false]).map Log.Span.flagless := by
    simp only [List.map_append, List.map_cons, flagless_buildSpan buildDir true false]
  refine ⟨hok, hnext'.ground.trans hnext.ground.symm, hnext'.sink.trans hnext.sink.symm, ?_⟩
  rw [filterMap_flaglessView, filterMap_flaglessView, build_history, build_history,
    List.map_append, List.map_append, map_flagless_buildEvents hspans h]

/-- A strict run goes on after a build that was completed. -/
theorem perform_strict (ha : o.action ≠ .list) :
    perform env { o with strict := true } w =
      afterBuild (followUp env o) (build env (o.toolchain env.hostJobs) o.build true w) :=
  perform_eq_afterBuild env (o := { o with strict := true }) ha w

/-- A run that lists, or in which no step of the build fails, does the same whether or not it is
strict. -/
theorem perform_of_passes
    (h : o.action = .list ∨ Passes env.runner true w.ground (o.steps env.hostJobs)) :
    SameOutcome flaglessView (perform env { o with strict := true } w)
      (perform env { o with strict := false } w) := by
  by_cases ha : o.action = .list
  · have hstrict : Options.action { o with strict := true } = .list := ha
    have hpermissive : Options.action { o with strict := false } = .list := ha
    simp only [perform, hstrict, hpermissive]
    exact ⟨rfl, World.Agrees.refl _ _⟩
  · let t := o.toolchain env.hostJobs
    obtain ⟨hok, hworld⟩ := build_of_passes env (t := t) (h.resolve_left ha)
    have hrun : perform env { o with strict := true } w =
        followUp env o (build env t o.build true w).2 :=
      (perform_strict env ha).trans (afterBuild_of_ok hok)
    rw [hrun, perform_permissive env (o := { o with strict := false }) ha rfl]
    exact followUp_agrees_self env o hworld

/-- A strict run ends with the first step of the build that fails. -/
theorem perform_of_failing {front : List Invocation} {step : Invocation}
    {back : List Invocation} (ha : o.action ≠ .list)
    (hsteps : o.steps env.hostJobs = front ++ step :: back)
    (hfront : Passes env.runner true w.ground front)
    (hstep : (env.runner.ask (env.runner.leave w.ground front) step).stepCode ≠ 0) :
    let run := perform env { o with strict := true } w
    run.1 = .error (.stepFailed step
        (env.runner.ask (env.runner.leave w.ground front) step).stepCode) ∧
      Continues env.runner (front ++ [step]) w run.2 ∧
      run.2.history = w.history ++ buildEvents env.runner
        (env.spans ++ [buildSpan o.build true]) true w.ground (front ++ [step]) := by
  intro run
  let t := o.toolchain env.hostJobs
  have hbuild : buildSteps (env.within (buildSpan o.build true)) true (front ++ step :: back) w =
      build env t o.build true w :=
    congrArg (buildSteps _ true · w) hsteps.symm
  obtain ⟨herror, hnext⟩ :=
    buildSteps_stops (env.within (buildSpan o.build true)) front step back rfl hfront hstep
  have hhistory := build_history env t o.build true w
  -- The steps after the failing one are never reached, so they add nothing.
  have hevents := buildEvents_of_failing (env.spans ++ [buildSpan o.build true]) back hfront hstep
  rw [← hsteps] at hevents
  rw [hbuild] at herror hnext
  have hrun : run = (.error _, (build env t o.build true w).2) :=
    (perform_strict env ha).trans (afterBuild_of_error herror)
  rw [hrun]
  exact ⟨rfl, hnext, hhistory.trans (congrArg (w.history ++ ·) hevents)⟩

/-- A run that is not strict calls both steps of the build before anything else. -/
theorem steps_prefix_plannedCalls (ha : o.action ≠ .list) (hs : o.strict = false) :
    o.steps env.hostJobs <+: plannedCalls env o w := by
  have hgoes (failed : Prop) : ¬ (o.strict = true ∧ failed) := fun h => nomatch hs.symm.trans h.1
  unfold plannedCalls
  rw [if_neg ha, if_neg (hgoes _), if_neg (hgoes _)]
  exact ⟨_, rfl⟩

/-- The record of what is to be done is about no step of the build. -/
theorem not_continuing_dispatching (action : Action) (layout : Layout) :
    ¬ Continuing (dispatchingRecord action layout) := by
  rintro ⟨step, code, h⟩
  exact nomatch congrArg Log.Record.level h

/-- A run from `w` that ends with a failing step of the build, after the steps in `front`. -/
structure EndsAt (r : Runner σ) (w : World σ τ) (front : List Invocation) (step : Invocation)
    (run : Except RunError Int × World σ τ) : Prop where
  calls : calls run.2.history = calls w.history ++ (front ++ [step])
  written : written run.2.history = written w.history
  files : run.2.files = (r.ask (r.leave w.ground front) step).files
  /-- Nothing says that the build goes on, unless one of the children does. -/
  logged : ∃ added, run.2.history = w.history ++ added ∧
    ∀ spans record, .logged spans record ∈ added → Continuing record →
      r.Logs w.ground (front ++ [step]) record
  failure : ∃ e, run.1 = .error e ∧ e.failure =
    ⟨"Build step `" ++ step.display ++ "` failed with exit code " ++
        toString (r.ask (r.leave w.ground front) step).stepCode,
      (r.ask (r.leave w.ground front) step).stepCode⟩

theorem endsAt_of_failing {front : List Invocation} {step : Invocation} {back : List Invocation}
    (ha : o.action ≠ .list) (hsteps : o.steps env.hostJobs = front ++ step :: back)
    (hfront : Passes env.runner true w.ground front)
    (hstep : (env.runner.ask (env.runner.leave w.ground front) step).stepCode ≠ 0) :
    EndsAt env.runner w front step (execute env { o with strict := true } w) := by
  let inner := env.within (executeSpan o.build)
  let dispatching := dispatchingRecord o.action o.discoveryLayout
  obtain ⟨herror, hnext, hhistory⟩ :=
    perform_of_failing inner (w := w.log inner dispatching) ha hsteps hfront hstep
  have hall := (Continues.log inner dispatching w).trans hnext
  refine ⟨hall.calls, hall.written, ?_, ?_, _, herror, rfl⟩
  · refine hall.files.trans ?_
    rw [List.nil_append, Runner.leave_append]
    rfl
  · refine ⟨_, hhistory.trans (List.append_assoc ..), fun spans record hmem hrecord => ?_⟩
    rcases List.mem_append.mp hmem with hmem | hmem
    · obtain ⟨-, rfl⟩ := Event.logged.inj (List.mem_singleton.mp hmem)
      exact absurd hrecord (not_continuing_dispatching _ _)
    · exact logs_of_continuing hrecord hmem

end

/-- **Strictness cuts a run short.** A run that lists, or in which no step of the build fails, is
the same whether or not it is strict, but for the flag in the span of the build. Otherwise there is
a first step that fails, and the strict run ends with it: its calls are those of the other run up
to that step, it writes nothing, it leaves the files as the step left them, it does not log that it
goes on, and it fails with the code of the step and a message that shows the step and its code. -/
theorem execute_cutShort (env : Env σ τ) (o : Options) (w : World σ τ) :
    let steps := o.steps env.hostJobs
    let strict := execute env { o with strict := true } w
    let permissive := execute env { o with strict := false } w
    (o.action = .list ∨ Passes env.runner true w.ground steps →
      strict.1 = permissive.1 ∧ strict.2.files = permissive.2.files ∧
      strict.2.runner = permissive.2.runner ∧ strict.2.sink = permissive.2.sink ∧
      calls strict.2.history = calls permissive.2.history ∧
      written strict.2.history = written permissive.2.history ∧
      warnings strict.2.history = warnings permissive.2.history ∧
      strict.2.history.map Event.flagless = permissive.2.history.map Event.flagless) ∧
    (¬ (o.action = .list ∨ Passes env.runner true w.ground steps) →
      ∃ front step back, steps = front ++ step :: back ∧ Passes env.runner true w.ground front ∧
        EndsAt env.runner w front step strict ∧
        calls strict.2.history <+: calls permissive.2.history ∧
        let reply := env.runner.ask (env.runner.leave w.ground front) step
        reply.stepCode ≠ 0 ∧ (∀ code, reply.answer = .ok code → reply.stepCode = code) ∧
          ∀ e, reply.answer = .error e → reply.stepCode = 127) := by
  intro steps strict permissive
  let inner := env.within (executeSpan o.build)
  let dispatching := dispatchingRecord o.action o.discoveryLayout
  let start := w.log inner dispatching
  refine ⟨fun h => ?_, fun h => ?_⟩
  · have hsame : SameOutcome flaglessView strict permissive :=
      perform_of_passes inner (w := start) h
    have hhistory : permissive.2.history.map Event.flagless =
        strict.2.history.map Event.flagless := by
      have h := hsame.world.history
      rwa [filterMap_flaglessView, filterMap_flaglessView] at h
    refine ⟨hsame.result.symm, hsame.world.files.symm,
      (congrArg Ground.state hsame.world.ground).symm, hsame.world.sink.symm, ?_, ?_, ?_,
      hhistory.symm⟩
    · rw [← calls_map_flagless, ← hhistory, calls_map_flagless]
    · rw [← written_map_flagless, ← hhistory, written_map_flagless]
    · rw [← warnings_map_flagless, ← hhistory, warnings_map_flagless]
  · have ha : o.action ≠ .list := fun ha => h (.inl ha)
    obtain ⟨front, step, back, hsteps, hfront, hstep⟩ :=
      Passes.exists_failing fun hpasses => h (.inr hpasses)
    have hends := endsAt_of_failing env ha hsteps hfront hstep
    have hcalls : calls permissive.2.history = calls w.history ++
        plannedCalls inner { o with strict := false } start := by
      rw [← World.calls_log inner dispatching w]
      exact calls_perform inner (o := { o with strict := false }) ha start
    refine ⟨front, step, back, hsteps, hfront, hends, ?_, hstep, ?_, ?_⟩
    -- The other run calls every step of the build first, so also those up to the failing one.
    · rw [hends.calls, hcalls, List.prefix_append_right_inj]
      refine List.IsPrefix.trans ?_
        (steps_prefix_plannedCalls inner (o := { o with strict := false }) ha rfl)
      exact ⟨back, (List.append_assoc ..).trans hsteps.symm⟩
    · intro code hcode
      rw [Reply.stepCode, hcode]
    · intro e he
      rw [Reply.stepCode, he]
      rfl

end Testbed
