import Testbed.FileSystem.Effect
import Testbed.Proofs.Execution.Agreement
import Testbed.Proofs.Execution.Transcript

/-!
# A build that is not strict has no say

Without strictness it does not matter how the two steps of a build end. Let two runners change
the files alike and answer the child alike that is called after the build. Then two runs with them
have the same result and do the same, whatever they answer to configuring and to compiling; only
the warnings that are logged may differ.

* `Runner.SameChanges` says that two runners change the ground alike, and `Runner.SeenAlike` that
  a view shows the same of their children.
* `View.HidesWarnings` is what a view must be like not to tell failed steps from others; `deeds`
  and `unwarned` come from such views.
* `filterMap_buildEvents`: such a view shows the same of two builds.
* `perform_agrees`: it shows the same of two runs.
* `execute_permissive` says what that comes to.
-/

namespace Testbed

variable {σ τ : Type}

/-! ## Warnings -/

/-- Whether an event is a warning that is logged. -/
def Event.isWarning : Event → Bool
  | .logged _ record => record.level == .warn
  | _ => false

/-- Whether what is seen of a child is a warning that is logged. -/
def Activity.isWarning : Activity → Bool
  | .logged record => record.level == .warn
  | .printed _ _ => false

/-- A history without the warnings. -/
def unwarned (history : List Event) : List Event := history.filter fun e => !e.isWarning

/-- A view that shows no warning. -/
def View.HidesWarnings (view : View) : Prop :=
  ∀ spans record, record.level = .warn → view (.logged spans record) = none

/-- The view that shows the deeds of a run. -/
def deedView : View := Option.guard Event.isDeed

/-- The view that shows everything but warnings. -/
def unwarnedView : View := Option.guard fun e => !e.isWarning

theorem hidesWarnings_deedView : deedView.HidesWarnings := fun _ _ _ => rfl

theorem hidesWarnings_unwarnedView : unwarnedView.HidesWarnings := by
  intro spans record h
  simp [unwarnedView, Option.guard, Event.isWarning, h]

theorem filterMap_deedView (history : List Event) : history.filterMap deedView = deeds history :=
  congrFun List.filterMap_eq_filter history

theorem filterMap_unwarnedView (history : List Event) :
    history.filterMap unwarnedView = unwarned history :=
  congrFun List.filterMap_eq_filter history

/-! ## Two runners -/

namespace Runner

/-- Two runners leave the same ground after every child, whatever they answer. -/
def SameChanges (r r' : Runner σ) : Prop := ∀ g i, (r'.ask g i).ground = (r.ask g i).ground

/-- A view shows the same of the children of two runners. -/
def SeenAlike (view : View) (r r' : Runner σ) : Prop :=
  ∀ spans g i, ((r'.ask g i).activity.map (Event.ofActivity spans)).filterMap view =
    ((r.ask g i).activity.map (Event.ofActivity spans)).filterMap view

theorem leave_of_sameChanges {r r' : Runner σ} (h : r.SameChanges r') (g : Ground σ)
    (steps : List Invocation) : r'.leave g steps = r.leave g steps := by
  induction steps generalizing g with
  | nil => rfl
  | cons i rest ih => rw [leave, leave, h, ih]

/-- What is seen of a child is no deed, so the deeds are alike for any two runners. -/
theorem seenAlike_deedView (r r' : Runner σ) : SeenAlike deedView r r' := by
  intro spans g i
  rw [filterMap_deedView, filterMap_deedView, deeds_ofActivity, deeds_ofActivity]

theorem seenAlike_unwarnedView {r r' : Runner σ}
    (h : ∀ g i, (r'.ask g i).activity.filter (fun a => !a.isWarning) =
      (r.ask g i).activity.filter fun a => !a.isWarning) : SeenAlike unwarnedView r r' := by
  intro spans g i
  have hwarning : (fun e : Event => !e.isWarning) ∘ Event.ofActivity spans =
      fun a => !a.isWarning := by
    funext a
    cases a <;> rfl
  rw [filterMap_unwarnedView, filterMap_unwarnedView, unwarned, unwarned, List.filter_map,
    List.filter_map, hwarning, h]

end Runner

/-! ## Two builds -/

section

variable {view : View} (hview : view.HidesWarnings)

include hview

/-- All that is shown of a build step is the call and what is seen of the child. -/
theorem filterMap_stepEvents (spans : List Log.Span) (strict : Bool) (step : Invocation)
    (r : Reply σ) :
    (stepEvents spans strict step r).filterMap view =
      (Event.called step :: r.activity.map (Event.ofActivity spans)).filterMap view := by
  have hlaunch : (launchEvents spans r).filterMap view = [] := by
    unfold launchEvents
    split
    · rfl
    · exact List.filterMap_cons_none (hview _ _ rfl)
  have hpassing : (passingEvents spans strict step r).filterMap view = [] := by
    unfold passingEvents
    split
    · rfl
    · exact List.filterMap_cons_none (hview _ _ rfl)
  rw [stepEvents, List.filterMap_append, List.filterMap_append, hlaunch, hpassing, List.append_nil,
    List.append_nil]

variable {r r' : Runner σ} (hchanges : r.SameChanges r') (hseen : Runner.SeenAlike view r r')

include hchanges hseen

/-- The same is shown of two builds that are not strict. -/
theorem filterMap_buildEvents (spans : List Log.Span) (g : Ground σ) (steps : List Invocation) :
    (buildEvents r' spans false g steps).filterMap view =
      (buildEvents r spans false g steps).filterMap view := by
  induction steps generalizing g with
  | nil => rfl
  | cons step rest ih =>
    have hstep : (stepEvents spans false step (r'.ask g step)).filterMap view =
        (stepEvents spans false step (r.ask g step)).filterMap view := by
      rw [filterMap_stepEvents hview, filterMap_stepEvents hview, List.filterMap_cons,
        List.filterMap_cons, hseen]
    -- Neither build ends with this step, and both go on from the ground that it leaves.
    have hpasses (s : Runner σ) : false = true → (s.ask g step).stepCode = 0 := fun h => nomatch h
    rw [buildEvents_cons_of_passes spans rest (hpasses r'),
      buildEvents_cons_of_passes spans rest (hpasses r), List.filterMap_append,
      List.filterMap_append, hstep, hchanges, ih]

end

/-! ## Two runs -/

/-- The ground on which a build leaves a run that goes on. -/
def builtGround (env : Env σ τ) (o : Options) (g : Ground σ) : Ground σ :=
  env.runner.leave g (o.steps env.hostJobs)

/-- Another runner answers the child alike that is called once the project is built, if one is. -/
def AnswersAlike (env : Env σ τ) (other : Runner σ) (o : Options) (w : World σ τ) : Prop :=
  let built := builtGround env o w.ground
  ∀ i ∈ workCall? env o built.files w.sink,
    (other.ask built i).answer = (env.runner.ask built i).answer

/-- The same is shown of two runs that are not strict, and they have the same result. -/
theorem perform_agrees (env : Env σ τ) {view : View} (hview : view.HidesWarnings)
    {other : Runner σ} {o : Options} {w : World σ τ} (hstrict : o.strict = false)
    (hchanges : env.runner.SameChanges other) (hseen : Runner.SeenAlike view env.runner other)
    (hwork : AnswersAlike env other o w) :
    SameOutcome view (perform env o w) (perform (env.withRunner other) o w) := by
  by_cases ha : o.action = .list
  · simp only [perform, ha]
    exact listTests_agrees env other (World.Agrees.refl view w) _ _
  · let t := o.toolchain env.hostJobs
    obtain ⟨-, hnext⟩ := build_permissive env t o.build w
    obtain ⟨-, hnext'⟩ := build_permissive (env.withRunner other) t o.build w
    have hworld : World.Agrees view (build env t o.build false w).2
        (build (env.withRunner other) t o.build false w).2 := by
      refine ⟨?_, hnext'.sink.trans hnext.sink.symm, ?_⟩
      · rw [hnext'.ground, hnext.ground]
        exact Runner.leave_of_sameChanges hchanges _ _
      · rw [build_history, build_history, List.filterMap_append, List.filterMap_append]
        exact congrArg _ (filterMap_buildEvents hview hchanges hseen _ _ _)
    rw [perform_permissive env ha hstrict, perform_permissive _ ha hstrict]
    refine followUp_agrees hworld ?_
    intro i hi
    rw [hnext.files, hnext.sink] at hi
    rw [hnext.ground]
    exact ⟨hwork i hi, hchanges _ i, hseen _ _ i⟩

/-- A view that shows no warning shows the same of two runs that carry out options without
strictness, and they have the same result. -/
theorem execute_agrees {view : View} (hview : view.HidesWarnings) {env : Env σ τ}
    {other : Runner σ} {o : Options} {w : World σ τ} (hstrict : o.strict = false)
    (hchanges : env.runner.SameChanges other) (hseen : Runner.SeenAlike view env.runner other)
    (hwork : AnswersAlike env other o w) :
    SameOutcome view (execute env o w) (execute (env.withRunner other) o w) :=
  perform_agrees (env.within (executeSpan o.build)) hview hstrict hchanges hseen hwork

/-- **A build that is not strict has no say.** Of two runners that change the files alike, and that
answer alike the child that is called after the build, the answers to configuring and to compiling
do not matter: the run ends with the same result, on the same ground, and with the same calls,
writes and flushes in the same order. Its history is the same but for warnings, if what is seen of
children is. And the build is completed in any case. -/
theorem execute_permissive (env : Env σ τ) (other : Runner σ) (o : Options) (w : World σ τ)
    (hstrict : o.strict = false) (hchanges : env.runner.SameChanges other)
    (hwork : AnswersAlike env other o w) :
    let run := execute env o w
    let run' := execute (env.withRunner other) o w
    run'.1 = run.1 ∧ run'.2.files = run.2.files ∧ run'.2.runner = run.2.runner ∧
    run'.2.sink = run.2.sink ∧ calls run'.2.history = calls run.2.history ∧
    written run'.2.history = written run.2.history ∧
    deeds run'.2.history = deeds run.2.history ∧
    ((∀ g i, (other.ask g i).activity.filter (fun a => !a.isWarning) =
        (env.runner.ask g i).activity.filter fun a => !a.isWarning) →
      unwarned run'.2.history = unwarned run.2.history) ∧
    ∀ t buildDir v, (build env t buildDir o.strict v).1 = .ok () ∧
      (build (env.withRunner other) t buildDir o.strict v).1 = .ok () := by
  intro run run'
  -- A view of the deeds alone needs nothing about what is seen of children.
  have hdone : SameOutcome deedView run run' :=
    execute_agrees hidesWarnings_deedView hstrict hchanges (Runner.seenAlike_deedView _ _) hwork
  have hdeeds : deeds run'.2.history = deeds run.2.history := by
    have h := hdone.world.history
    rwa [filterMap_deedView, filterMap_deedView] at h
  refine ⟨hdone.result, hdone.world.files, congrArg Ground.state hdone.world.ground,
    hdone.world.sink, ?_, ?_, hdeeds, ?_, ?_⟩
  · rw [← calls_deeds, hdeeds, calls_deeds]
  · rw [← written_deeds, hdeeds, written_deeds]
  · intro hactivity
    have h := (execute_agrees hidesWarnings_unwarnedView hstrict hchanges
      (Runner.seenAlike_unwarnedView hactivity) hwork).world.history
    rwa [filterMap_unwarnedView, filterMap_unwarnedView] at h
  · intro t buildDir v
    rw [hstrict]
    exact ⟨(build_permissive env t buildDir v).1,
      (build_permissive (env.withRunner other) t buildDir v).1⟩

/-- The runner that answers its calls one after the other and makes the same change at each. -/
def answering (answers : List (Except LaunchError Int)) (change : Effect) : Runner Nat where
  call _ count files := ⟨(answers[count]?).getD (.ok 0), [], count + 1, (change.apply files).2⟩

theorem answering_sameChanges (answers answers' : List (Except LaunchError Int))
    (change : Effect) : (answering answers change).SameChanges (answering answers' change) :=
  fun _ _ => rfl

/-- The state of such a runner counts its calls. -/
theorem state_leave_answering (answers : List (Except LaunchError Int)) (change : Effect)
    (g : Ground Nat) (steps : List Invocation) :
    ((answering answers change).leave g steps).state = g.state + steps.length := by
  induction steps generalizing g with
  | nil => rfl
  | cons i rest ih =>
    rw [Runner.leave, ih, List.length_cons]
    change g.state + 1 + rest.length = g.state + (rest.length + 1)
    omega

/-- The test that compiling makes is run, though configuring cannot be started and compiling
fails. -/
theorem execute_failingSteps :
    let change : Effect := .write (utf8 "build/test_bin/heap") [] true
    let env : Env Nat (Option Nat) :=
      ⟨answering [.ok 0, .ok 0, .ok 8] change, Sink.unlimited, .one, []⟩
    let other := answering [.error ⟨utf8 "cmake", .system .noEntry⟩, .ok 2, .ok 8] change
    let o : Options := { Options.default with testName := some "heap" }
    let w : World Nat (Option Nat) := ⟨⟨.empty, []⟩, 0, none, []⟩
    (execute (env.withRunner other) o w).1 = (execute env o w).1 ∧
      calls (execute (env.withRunner other) o w).2.history =
        calls (execute env o w).2.history ∧
      (calls (execute env o w).2.history)[2]? = some ⟨utf8 "./build/test_bin/heap", []⟩ := by
  intro change env other o w
  have hwork : (calls (execute env o w).2.history)[2]? =
      some ⟨utf8 "./build/test_bin/heap", []⟩ := by
    decide +kernel +revert
  -- The two steps of the build were the first two calls, so the third answer is next.
  have hstate : (builtGround env o w.ground).state = 2 :=
    state_leave_answering _ change w.ground _
  have hanswer (i : Invocation) : (other.ask (builtGround env o w.ground) i).answer =
      (env.runner.ask (builtGround env o w.ground) i).answer := by
    simp only [Runner.ask, hstate]
    rfl
  have h := execute_permissive env other o w rfl (answering_sameChanges _ _ change)
    fun i _ => hanswer i
  exact ⟨h.1, h.2.2.2.2.1, hwork⟩

end Testbed
