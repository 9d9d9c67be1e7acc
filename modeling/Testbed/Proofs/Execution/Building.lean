import Testbed.Proofs.Execution.Ground

/-!
# How a build goes

A build step passes if its child ends with code zero, and every step passes unless the build is
strict. So there are three ways for a build to go, and each says which children were called, on
which ground they left the run, and how the build ended.

* `Passes` says that every one of some build steps passes, each on the ground of those before it.
* `buildSteps_passes` is the run of steps that pass, and `buildSteps_stops` that of steps up to
  the first one that does not.
* `build_cases` lists the three ways in which configuring and compiling can go.
* `perform_eq_afterBuild` says that every action but listing is a build and then, if it was
  completed, what `followUp` does.
* `runOne_of_found`: a binary that was found is announced after the two steps of the build.
-/

namespace Testbed

variable {σ τ : Type}

/-! ## One step -/

/-- The code of a build step: that of its child, or the one that stands for a child that could
not be started. -/
def Reply.stepCode (r : Reply σ) : Int :=
  match r.answer with
  | .ok code => code
  | .error _ => launchFailureCode

theorem stepCode_eq (env : Env σ τ) (step : Invocation) (w : World σ τ) :
    (stepCode env step w).1 = (env.runner.ask w.ground step).stepCode := by
  have h : (w.call env step).1 = (env.runner.ask w.ground step).answer := rfl
  rcases hcall : w.call env step with ⟨answer, w'⟩
  rw [hcall] at h
  rw [stepCode, hcall, Reply.stepCode, ← h]
  cases answer <;> rfl

theorem stepCode_continues (env : Env σ τ) (step : Invocation) (w : World σ τ) :
    Continues env.runner [step] w (stepCode env step w).2 := by
  have h := Continues.call env step w
  rcases hcall : w.call env step with ⟨answer, w'⟩
  rw [hcall] at h
  rw [stepCode, hcall]
  cases answer with
  | ok code => exact h
  | error e => exact h.trans (Continues.log env _ w')

/-- Whatever becomes of a step, it calls its child and does nothing else. -/
theorem buildStep_continues (env : Env σ τ) (strict : Bool) (step : Invocation) (w : World σ τ) :
    Continues env.runner [step] w (buildStep env strict step w).2 := by
  have h := stepCode_continues env step w
  unfold buildStep
  rcases hcode : stepCode env step w with ⟨code, w'⟩
  rw [hcode] at h
  simp only at h ⊢
  split
  · exact h
  · split
    · exact h
    · exact h.trans (Continues.log env _ w')

theorem buildStep_passes (env : Env σ τ) {strict : Bool} {step : Invocation} {w : World σ τ}
    (h : strict = true → (env.runner.ask w.ground step).stepCode = 0) :
    (buildStep env strict step w).1 = .ok () := by
  rw [← stepCode_eq] at h
  unfold buildStep
  rcases hcode : stepCode env step w with ⟨code, w'⟩
  rw [hcode] at h
  simp only at h ⊢
  by_cases hc : code = 0
  · rw [if_pos hc]
  · rw [if_neg hc, if_neg fun hs => hc (h hs)]

theorem buildStep_stops (env : Env σ τ) {strict : Bool} {step : Invocation} {w : World σ τ}
    (hs : strict = true) (h : (env.runner.ask w.ground step).stepCode ≠ 0) :
    (buildStep env strict step w).1 =
      .error (.stepFailed step (env.runner.ask w.ground step).stepCode) := by
  rw [← stepCode_eq] at h ⊢
  unfold buildStep
  rcases hcode : stepCode env step w with ⟨code, w'⟩
  rw [hcode] at h
  simp only at h ⊢
  rw [if_neg h, if_pos hs]

/-! ## Several steps -/

/-- Every one of these steps passes: a strict build needs the code zero of each. -/
def Passes (r : Runner σ) (strict : Bool) : Ground σ → List Invocation → Prop
  | _, [] => True
  | g, step :: rest =>
    (strict = true → (r.ask g step).stepCode = 0) ∧ Passes r strict (r.ask g step).ground rest

/-- Steps that pass are all run. -/
theorem buildSteps_passes (env : Env σ τ) {strict : Bool} (steps : List Invocation)
    {w : World σ τ} (h : Passes env.runner strict w.ground steps) :
    (buildSteps env strict steps w).1 = .ok () ∧
      Continues env.runner steps w (buildSteps env strict steps w).2 := by
  induction steps generalizing w with
  | nil => exact ⟨rfl, Continues.refl _ w⟩
  | cons step rest ih =>
    have hstep := buildStep_passes env h.1
    have hnext := buildStep_continues env strict step w
    rcases hb : buildStep env strict step w with ⟨result, w'⟩
    rw [hb] at hstep hnext
    obtain rfl : result = .ok () := hstep
    have hground : w'.ground = (env.runner.ask w.ground step).ground := hnext.ground
    obtain ⟨hok, hrest⟩ := ih (w := w') (hground ▸ h.2)
    rw [buildSteps, hb]
    exact ⟨hok, hnext.trans hrest⟩

/-- The first step that does not pass is the last one that is run. -/
theorem buildSteps_stops (env : Env σ τ) (front : List Invocation) (step : Invocation)
    (back : List Invocation) {strict : Bool} {w : World σ τ} (hs : strict = true)
    (hfront : Passes env.runner strict w.ground front)
    (h : (env.runner.ask (env.runner.leave w.ground front) step).stepCode ≠ 0) :
    (buildSteps env strict (front ++ step :: back) w).1 =
        .error (.stepFailed step
          (env.runner.ask (env.runner.leave w.ground front) step).stepCode) ∧
      Continues env.runner (front ++ [step]) w
        (buildSteps env strict (front ++ step :: back) w).2 := by
  induction front generalizing w with
  | nil =>
    have hstep := buildStep_stops env hs h
    have hnext := buildStep_continues env strict step w
    rcases hb : buildStep env strict step w with ⟨result, w'⟩
    rw [hb] at hstep hnext
    simp only at hstep
    rw [List.nil_append, buildSteps, hb, hstep]
    exact ⟨rfl, hnext⟩
  | cons first front ih =>
    have hstep := buildStep_passes env hfront.1
    have hnext := buildStep_continues env strict first w
    rcases hb : buildStep env strict first w with ⟨result, w'⟩
    rw [hb] at hstep hnext
    obtain rfl : result = .ok () := hstep
    have hground : w'.ground = (env.runner.ask w.ground first).ground := hnext.ground
    have hleave :
        env.runner.leave w.ground (first :: front) = env.runner.leave w'.ground front := by
      rw [hground]
      rfl
    rw [hleave] at h ⊢
    obtain ⟨herror, hrest⟩ := ih (w := w') (hground ▸ hfront.2) h
    rw [List.cons_append, buildSteps, hb]
    exact ⟨herror, hnext.trans hrest⟩

/-! ## Configuring and compiling -/

/-- A build that is not strict is always completed. -/
theorem build_permissive (env : Env σ τ) (t : Toolchain) (buildDir : Path) (w : World σ τ) :
    (build env t buildDir false w).1 = .ok () ∧
      Continues env.runner [t.configure buildDir, t.compile buildDir] w
        (build env t buildDir false w).2 := by
  have hp : Passes env.runner false w.ground [t.configure buildDir, t.compile buildDir] :=
    ⟨(nomatch ·), (nomatch ·), trivial⟩
  exact buildSteps_passes (env.within (buildSpan buildDir false)) _ hp

/-- **The three ways in which a build can go**: configuring stops it, compiling stops it, or it is
completed. -/
theorem build_cases (env : Env σ τ) (t : Toolchain) (buildDir : Path) (strict : Bool)
    (w : World σ τ) :
    let configure := t.configure buildDir
    let compile := t.compile buildDir
    let configured := env.runner.ask w.ground configure
    let compiled := env.runner.ask configured.ground compile
    let outcome := build env t buildDir strict w
    (strict = true ∧ configured.stepCode ≠ 0 ∧
        outcome.1 = .error (.stepFailed configure configured.stepCode) ∧
        Continues env.runner [configure] w outcome.2) ∨
      (strict = true ∧ configured.stepCode = 0 ∧ compiled.stepCode ≠ 0 ∧
        outcome.1 = .error (.stepFailed compile compiled.stepCode) ∧
        Continues env.runner [configure, compile] w outcome.2) ∨
      ((strict = true → configured.stepCode = 0 ∧ compiled.stepCode = 0) ∧
        outcome.1 = .ok () ∧ Continues env.runner [configure, compile] w outcome.2) := by
  intro configure compile configured compiled outcome
  let inside := env.within (buildSpan buildDir strict)
  by_cases hs : strict = true
  · by_cases h₁ : configured.stepCode = 0
    · by_cases h₂ : compiled.stepCode = 0
      · have hp : Passes env.runner strict w.ground [configure, compile] :=
          ⟨fun _ => h₁, fun _ => h₂, trivial⟩
        obtain ⟨hok, hnext⟩ := buildSteps_passes inside _ hp
        exact .inr (.inr ⟨fun _ => ⟨h₁, h₂⟩, hok, hnext⟩)
      · have hp : Passes env.runner strict w.ground [configure] := ⟨fun _ => h₁, trivial⟩
        obtain ⟨herror, hnext⟩ := buildSteps_stops inside [configure] compile [] hs hp h₂
        exact .inr (.inl ⟨hs, h₁, h₂, herror, hnext⟩)
    · obtain ⟨herror, hnext⟩ :=
        buildSteps_stops inside [] configure [compile] (w := w) hs trivial h₁
      exact .inl ⟨hs, h₁, herror, hnext⟩
  · obtain rfl : strict = false := Bool.not_eq_true _ ▸ hs
    obtain ⟨hok, hnext⟩ := build_permissive env t buildDir w
    exact .inr (.inr ⟨fun h => absurd h hs, hok, hnext⟩)

/-- A build that was completed called both steps. -/
theorem build_continues_of_ok {env : Env σ τ} {t : Toolchain} {buildDir : Path} {strict : Bool}
    {w : World σ τ} (h : (build env t buildDir strict w).1 = .ok ()) :
    Continues env.runner [t.configure buildDir, t.compile buildDir] w
      (build env t buildDir strict w).2 := by
  rcases build_cases env t buildDir strict w with
    ⟨-, -, herror, -⟩ | ⟨-, -, -, herror, -⟩ | ⟨-, -, hnext⟩
  · exact nomatch herror.symm.trans h
  · exact nomatch herror.symm.trans h
  · exact hnext

/-! ## After a build -/

/-- Goes on after a build that was completed. -/
def afterBuild (next : World σ τ → Except RunError Int × World σ τ) :
    Except RunError Unit × World σ τ → Except RunError Int × World σ τ
  | (.ok (), w) => next w
  | (.error e, w) => (.error e, w)

/-- After a build that was completed the run goes on in the world that it left. -/
theorem afterBuild_of_ok {next : World σ τ → Except RunError Int × World σ τ}
    {built : Except RunError Unit × World σ τ} (h : built.1 = .ok ()) :
    afterBuild next built = next built.2 := by
  obtain ⟨result, w⟩ := built
  obtain rfl : result = .ok () := h
  rfl

/-- A build that was stopped ends the run. -/
theorem afterBuild_of_error {next : World σ τ → Except RunError Int × World σ τ}
    {built : Except RunError Unit × World σ τ} {e : RunError} (h : built.1 = .error e) :
    afterBuild next built = (.error e, built.2) := by
  obtain ⟨result, w⟩ := built
  obtain rfl : result = .error e := h
  rfl

/-- Looks a test up and runs its binary, whose path is written first. -/
def findAndLaunch (env : Env σ τ) (buildDir : Path) (layout : Layout) (name : String)
    (w : World σ τ) : Except RunError Int × World σ τ :=
  match resolve w.files buildDir layout name with
  | .error e => (.error (.unresolved e), logDiscovery env buildDir layout w)
  | .ok binary => announceAndLaunch env binary (logDiscovery env buildDir layout w)

theorem runOne_eq_afterBuild (env : Env σ τ) (t : Toolchain) (buildDir : Path) (layout : Layout)
    (name : String) (strict : Bool) (w : World σ τ) :
    runOne env t buildDir layout name strict w =
      afterBuild (findAndLaunch env buildDir layout name) (build env t buildDir strict w) := by
  rw [runOne]
  rcases build env t buildDir strict w with ⟨_ | ⟨⟩, w'⟩
  · rfl
  · simp only [afterBuild, findAndLaunch]
    cases resolve w'.files buildDir layout name <;> rfl

/-- Where the project is built and the name leads to a binary, that is announced. -/
theorem runOne_of_found {env : Env σ τ} {t : Toolchain} {buildDir : Path} {layout : Layout}
    {name : String} {strict : Bool} {w : World σ τ} {binary : Path}
    (hbuilt : (build env t buildDir strict w).1 = .ok ())
    (hfound : resolve (build env t buildDir strict w).2.files buildDir layout name = .ok binary) :
    ∃ v, Continues env.runner [t.configure buildDir, t.compile buildDir] w v ∧
      runOne env t buildDir layout name strict w = announceAndLaunch env binary v := by
  have hlog := logDiscovery_continues env.runner env buildDir layout
    (build env t buildDir strict w).2
  refine ⟨_, (build_continues_of_ok hbuilt).trans hlog, ?_⟩
  rw [runOne_eq_afterBuild, afterBuild_of_ok hbuilt, findAndLaunch, hfound]

theorem runAll_eq_afterBuild (env : Env σ τ) (t : Toolchain) (buildDir : Path) (strict : Bool)
    (w : World σ τ) :
    runAll env t buildDir strict w =
      afterBuild (launch env (t.testAll buildDir)) (build env t buildDir strict w) := by
  rw [runAll]
  rcases build env t buildDir strict w with ⟨_ | ⟨⟩, w'⟩ <;> rfl

theorem buildOnly_eq_afterBuild (env : Env σ τ) (t : Toolchain) (buildDir : Path) (strict : Bool)
    (w : World σ τ) :
    buildOnly env t buildDir strict w =
      afterBuild (fun v => (.ok successCode, v)) (build env t buildDir strict w) := by
  rw [buildOnly]
  rcases build env t buildDir strict w with ⟨_ | ⟨⟩, w'⟩ <;> rfl

/-- The two steps of the build that options ask for. -/
def Options.steps (o : Options) (hostJobs : Jobs) : List Invocation :=
  [(o.toolchain hostJobs).configure o.build, (o.toolchain hostJobs).compile o.build]

/-- What an action other than listing does once the project is built. -/
def followUp (env : Env σ τ) (o : Options) (w : World σ τ) : Except RunError Int × World σ τ :=
  match o.action with
  | .runAll => launch env ((o.toolchain env.hostJobs).testAll o.build) w
  | .runOne name => findAndLaunch env o.build o.discoveryLayout name w
  | _ => (.ok successCode, w)

theorem perform_eq_afterBuild (env : Env σ τ) {o : Options} (h : o.action ≠ .list)
    (w : World σ τ) :
    perform env o w =
      afterBuild (followUp env o) (build env (o.toolchain env.hostJobs) o.build o.strict w) := by
  unfold perform followUp
  cases ha : o.action with
  | list => exact absurd ha h
  | runAll => exact runAll_eq_afterBuild env _ o.build o.strict w
  | runOne name => exact runOne_eq_afterBuild env _ o.build o.discoveryLayout name o.strict w
  | buildOnly => exact buildOnly_eq_afterBuild env _ o.build o.strict w

/-- Without strictness every action but listing goes on after the build. -/
theorem perform_permissive (env : Env σ τ) {o : Options} (ha : o.action ≠ .list)
    (hs : o.strict = false) (w : World σ τ) :
    perform env o w =
      followUp env o (build env (o.toolchain env.hostJobs) o.build false w).2 := by
  rw [perform_eq_afterBuild env ha, hs, afterBuild_of_ok (build_permissive env _ o.build w).1]

end Testbed
