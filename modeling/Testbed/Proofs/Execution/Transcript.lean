import Testbed.Proofs.Execution.Building

/-!
# What a build adds to the history

A build step calls its child, and what is seen of the child stands in the history after the call.
Then it is logged if the child could not be started, and if the step failed and is passed over. All
of this is told by the reply to the child.

* `stepEvents` is what a step adds to the history and `buildEvents` what several steps add;
  `buildStep_history` and `buildSteps_history` say that they add just that.
* `logs_of_continuing`: a strict build does not log that it goes on after a failed step, unless one
  of its children does.
-/

namespace Testbed

variable {σ τ : Type}

/-- What is logged about a build step that could not be started. -/
def launchEvents (spans : List Log.Span) (r : Reply σ) : List Event :=
  match r.answer with
  | .ok _ => []
  | .error e => [.logged spans (stepUnlaunchableRecord e)]

/-- What is logged about a build step that is passed over though it failed. -/
def passingEvents (spans : List Log.Span) (strict : Bool) (step : Invocation) (r : Reply σ) :
    List Event :=
  if r.stepCode = 0 ∨ strict = true then []
  else [.logged spans (stepFailedRecord step r.stepCode)]

/-- What a build step adds to the history, told by the reply to its child. -/
def stepEvents (spans : List Log.Span) (strict : Bool) (step : Invocation) (r : Reply σ) :
    List Event :=
  .called step :: r.activity.map (Event.ofActivity spans) ++ launchEvents spans r ++
    passingEvents spans strict step r

/-- What build steps add to the history, up to the first one that ends the build. -/
def buildEvents (r : Runner σ) (spans : List Log.Span) (strict : Bool) :
    Ground σ → List Invocation → List Event
  | _, [] => []
  | g, step :: rest =>
    stepEvents spans strict step (r.ask g step) ++
      if strict = true ∧ (r.ask g step).stepCode ≠ 0 then []
      else buildEvents r spans strict (r.ask g step).ground rest

/-- A build goes on after a step that passes. -/
theorem buildEvents_cons_of_passes {r : Runner σ} (spans : List Log.Span) {strict : Bool}
    {g : Ground σ} {step : Invocation} (rest : List Invocation)
    (h : strict = true → (r.ask g step).stepCode = 0) :
    buildEvents r spans strict g (step :: rest) =
      stepEvents spans strict step (r.ask g step) ++
        buildEvents r spans strict (r.ask g step).ground rest := by
  rw [buildEvents, if_neg fun hends => hends.2 (h hends.1)]

/-- A strict build ends with a step that fails. -/
theorem buildEvents_cons_of_fails {r : Runner σ} (spans : List Log.Span) {g : Ground σ}
    {step : Invocation} (rest : List Invocation) (h : (r.ask g step).stepCode ≠ 0) :
    buildEvents r spans true g (step :: rest) = stepEvents spans true step (r.ask g step) := by
  rw [buildEvents, if_pos ⟨rfl, h⟩, List.append_nil]

theorem stepCode_history (env : Env σ τ) (step : Invocation) (w : World σ τ) :
    (stepCode env step w).2.history =
      w.history ++ (.called step :: (env.runner.ask w.ground step).activity.map
        (Event.ofActivity env.spans) ++
          launchEvents env.spans (env.runner.ask w.ground step)) := by
  unfold stepCode World.call launchEvents
  simp only [Runner.ask, World.ground]
  cases (env.runner.call step w.runner w.files).answer with
  | ok code => simp
  | error e => simp [World.log]

/-- A build step adds to the history what its events are. -/
theorem buildStep_history (env : Env σ τ) (strict : Bool) (step : Invocation) (w : World σ τ) :
    (buildStep env strict step w).2.history =
      w.history ++ stepEvents env.spans strict step (env.runner.ask w.ground step) := by
  have hcode := stepCode_eq env step w
  have hhistory := stepCode_history env step w
  unfold buildStep stepEvents passingEvents
  rcases hs : stepCode env step w with ⟨code, w'⟩
  rw [hs] at hcode hhistory
  simp only at hcode hhistory ⊢
  rw [← hcode]
  by_cases h₀ : code = 0
  · simp only [h₀, if_true, true_or, List.append_nil]
    exact hhistory
  · cases strict with
    | true => simpa [h₀] using hhistory
    | false => simp [h₀, World.log, hhistory]

/-- A build step is the last one exactly if the build is strict and the step failed. -/
theorem buildStep_eq_ok_iff (env : Env σ τ) (strict : Bool) (step : Invocation) (w : World σ τ) :
    (buildStep env strict step w).1 = .ok () ↔
      ¬ (strict = true ∧ (env.runner.ask w.ground step).stepCode ≠ 0) := by
  constructor
  · rintro hok ⟨hs, hcode⟩
    rw [buildStep_stops env hs hcode] at hok
    exact nomatch hok
  · intro h
    exact buildStep_passes env fun hs => Decidable.not_not.mp fun hcode => h ⟨hs, hcode⟩

/-- Build steps add to the history what their events are. -/
theorem buildSteps_history (env : Env σ τ) (strict : Bool) (steps : List Invocation)
    (w : World σ τ) :
    (buildSteps env strict steps w).2.history =
      w.history ++ buildEvents env.runner env.spans strict w.ground steps := by
  induction steps generalizing w with
  | nil => exact (List.append_nil _).symm
  | cons step rest ih =>
    have hresult := buildStep_eq_ok_iff env strict step w
    have hhistory := buildStep_history env strict step w
    have hground := (buildStep_continues env strict step w).ground
    rw [buildSteps, buildEvents]
    rcases hb : buildStep env strict step w with ⟨result, w'⟩
    rw [hb] at hresult hhistory hground
    cases result with
    | error e =>
      have hends : strict = true ∧ (env.runner.ask w.ground step).stepCode ≠ 0 := by
        refine Decidable.not_not.mp fun h => ?_
        cases hresult.mpr h
      rw [if_pos hends, List.append_nil]
      exact hhistory
    | ok u =>
      rw [if_neg (hresult.mp rfl)]
      simp only at hhistory hground ⊢
      rw [ih w', hground, hhistory, List.append_assoc]
      rfl

/-- What a build adds to the history. -/
theorem build_history (env : Env σ τ) (t : Toolchain) (buildDir : Path) (strict : Bool)
    (w : World σ τ) :
    (build env t buildDir strict w).2.history =
      w.history ++
        buildEvents env.runner (env.spans ++ [buildSpan buildDir strict]) strict w.ground
          [t.configure buildDir, t.compile buildDir] :=
  buildSteps_history (env.within (buildSpan buildDir strict)) strict _ w

/-! ## Going on after a failed step -/

/-- A record which says that a build goes on after a failed step. -/
def Continuing (record : Log.Record) : Prop :=
  ∃ step code, record = stepFailedRecord step code

/-- A step that could not be started is logged without going on being mentioned. -/
theorem not_continuing_stepUnlaunchable (e : LaunchError) :
    ¬ Continuing (stepUnlaunchableRecord e) := by
  rintro ⟨step, code, h⟩
  exact nomatch congrArg Log.Record.fields h

theorem mem_activity_of_mem_map {spans spans' : List Log.Span} {record : Log.Record}
    {seen : List Activity} (h : Event.logged spans' record ∈ seen.map (Event.ofActivity spans)) :
    Activity.logged record ∈ seen := by
  obtain ⟨a, ha, heq⟩ := List.mem_map.mp h
  cases a with
  | logged r =>
    obtain ⟨-, rfl⟩ := Event.logged.inj heq
    exact ha
  | printed stream bytes => exact nomatch heq

/-- One of several children that are called one after the other logs a record. -/
def Runner.Logs (r : Runner σ) (g : Ground σ) (children : List Invocation)
    (record : Log.Record) : Prop :=
  ∃ front child back, children = front ++ child :: back ∧
    .logged record ∈ (r.ask (r.leave g front) child).activity

theorem Runner.Logs.cons {r : Runner σ} {g : Ground σ} {child : Invocation}
    {children : List Invocation} {record : Log.Record}
    (h : r.Logs (r.ask g child).ground children record) : r.Logs g (child :: children) record := by
  obtain ⟨front, i, back, rfl, hseen⟩ := h
  exact ⟨child :: front, i, back, rfl, hseen⟩

/-- A strict build does not say that it goes on after a failed step; if that is logged, a child
logged it. -/
theorem logs_of_continuing {r : Runner σ} {spans spans' : List Log.Span}
    {record : Log.Record} (hrecord : Continuing record) {g : Ground σ} {steps : List Invocation}
    (h : Event.logged spans' record ∈ buildEvents r spans true g steps) :
    r.Logs g steps record := by
  induction steps generalizing g with
  | nil => exact absurd h List.not_mem_nil
  | cons step rest ih =>
    rw [buildEvents, stepEvents, passingEvents, if_pos (.inr rfl), List.append_nil] at h
    rcases List.mem_append.mp h with hstep | hrest
    · rcases List.mem_append.mp hstep with hseen | hlaunch
      · rcases List.mem_cons.mp hseen with hcall | hseen
        · exact nomatch hcall
        · exact ⟨[], step, rest, rfl, mem_activity_of_mem_map hseen⟩
      · unfold launchEvents at hlaunch
        split at hlaunch
        · exact absurd hlaunch List.not_mem_nil
        · next e _ =>
          obtain ⟨-, rfl⟩ := Event.logged.inj (List.mem_singleton.mp hlaunch)
          exact absurd hrecord (not_continuing_stepUnlaunchable e)
    · split at hrest
      · exact absurd hrest List.not_mem_nil
      · exact (ih hrest).cons

end Testbed
