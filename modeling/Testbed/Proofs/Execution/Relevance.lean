import Testbed.CommandLine.Reader
import Testbed.Process.Scripted
import Testbed.Proofs.Execution.Strictness

/-!
# What a run reads

The action tells which options a run reads: a listing reads where the tests are, a build reads how
to build, and running one test reads both. Two runs from the same world whose options agree on that
do the same, and only the record of what is to be done may differ. Nor do all actions read the
files: running all tests and only building do not, so that the answers of their children alone tell
how they go.

* `Options.Agree` says, action by action, on what two options must agree, and `SameRun` what is
  then the same of two runs. Which action it is, the flags and the test name tell.
* `perform_congr`: options that agree are carried out in the same way, and `perform_agrees_self`:
  what was logged before makes no difference.
* `Blind` says that the answers of children alone tell how something goes. Children and builds are
  blind (`blind_launch`, `blind_buildSteps`), and so is what is put together from them
  (`Blind.afterBuild`).
* `execute_reads` is the result for whole runs.
-/

namespace Testbed

variable {σ τ : Type}

/-! ## Options that agree -/

namespace Options

/-- Two options agree on where the tests are. -/
structure SamePlace (o o' : Options) : Prop where
  build : o'.build = o.build
  layout : o'.layout = o.layout
  /-- Only where there are groups, their directory is read. -/
  groupDir : o.layout = .groups → o'.groupDir = o.groupDir

/-- Two options agree on how to build. -/
structure SameBuild (o o' : Options) : Prop where
  build : o'.build = o.build
  sourceDir : o'.sourceDir = o.sourceDir
  jobs : o'.jobs = o.jobs
  cmake : o'.cmake = o.cmake
  strict : o'.strict = o.strict

/-- Two options have the same action and agree on what it reads. -/
inductive Agree (o o' : Options) : Prop
  /-- Both list the tests, whatever else they ask for. -/
  | list (h : o.listTests = true) (h' : o'.listTests = true) (place : SamePlace o o')
  /-- Both run all tests, and one of them may name a test too. -/
  | runAll (h : o.listTests = false ∧ o.runAll = true)
      (h' : o'.listTests = false ∧ o'.runAll = true) (steps : SameBuild o o')
      (ctest : o'.ctest = o.ctest)
  /-- Both run the test of one name. -/
  | runOne (name : String)
      (h : o.listTests = false ∧ o.runAll = false ∧ o.testName = some name)
      (h' : o'.listTests = false ∧ o'.runAll = false ∧ o'.testName = some name)
      (steps : SameBuild o o') (place : SamePlace o o')
      (suffix : o.layout = .groups → o'.binarySuffix = o.binarySuffix)
  /-- Both only build. -/
  | buildOnly (h : o.listTests = false ∧ o.runAll = false ∧ o.testName = none)
      (h' : o'.listTests = false ∧ o'.runAll = false ∧ o'.testName = none)
      (steps : SameBuild o o')

theorem Agree.build_eq {o o' : Options} (h : Agree o o') : o'.build = o.build := by
  cases h with
  | list _ _ place => exact place.build
  | runAll _ _ steps _ => exact steps.build
  | runOne _ _ _ steps _ _ => exact steps.build
  | buildOnly _ _ steps => exact steps.build

variable {o o' : Options}

theorem SamePlace.discoveryLayout_eq (h : SamePlace o o')
    (suffix : o.layout = .groups → o'.binarySuffix = o.binarySuffix) :
    o'.discoveryLayout = o.discoveryLayout := by
  unfold discoveryLayout
  rw [h.layout]
  cases hl : o.layout with
  | testBin => rfl
  | groups => simp only [h.groupDir hl, suffix hl]

/-- The binary suffix tells nothing about which tests there are. -/
theorem SamePlace.listTests_eq (h : SamePlace o o') (env : Env σ τ) (w : World σ τ) :
    Testbed.listTests env o'.build o'.discoveryLayout w =
      Testbed.listTests env o.build o.discoveryLayout w := by
  unfold discoveryLayout
  rw [h.build, h.layout]
  cases hl : o.layout with
  | testBin => rfl
  | groups =>
    rw [h.groupDir hl]
    rfl

theorem SameBuild.steps_eq (h : SameBuild o o') (hostJobs : Jobs) :
    o'.steps hostJobs = o.steps hostJobs := by
  simp only [steps, toolchain, Toolchain.configure, Toolchain.compile, h.build, h.sourceDir,
    h.jobs, h.cmake]

theorem SameBuild.build_eq (h : SameBuild o o') (env : Env σ τ) (w : World σ τ) :
    Testbed.build env (o'.toolchain env.hostJobs) o'.build o'.strict w =
      Testbed.build env (o.toolchain env.hostJobs) o.build o.strict w := by
  have hsteps := h.steps_eq env.hostJobs
  unfold steps at hsteps
  rw [Testbed.build, Testbed.build, hsteps, h.build, h.strict]

theorem SameBuild.testAll_eq (h : SameBuild o o') (ctest : o'.ctest = o.ctest)
    (hostJobs : Jobs) :
    (o'.toolchain hostJobs).testAll o'.build = (o.toolchain hostJobs).testAll o.build := by
  simp only [toolchain, Toolchain.testAll, h.build, h.jobs, ctest]

end Options

/-! ## What the answers of children tell -/

namespace Runner

/-- From two grounds a runner gives the same answers to children that are started one after the
other. -/
def SameAnswers (r : Runner σ) : Ground σ → Ground σ → List Invocation → Prop
  | _, _, [] => True
  | g, g', i :: rest =>
    (r.ask g' i).answer = (r.ask g i).answer ∧
      r.SameAnswers (r.ask g i).ground (r.ask g' i).ground rest

theorem sameAnswers_append {r : Runner σ} {g g' : Ground σ} {front back : List Invocation} :
    r.SameAnswers g g' (front ++ back) ↔
      r.SameAnswers g g' front ∧ r.SameAnswers (r.leave g front) (r.leave g' front) back := by
  induction front generalizing g g' with
  | nil => exact (Iff.of_eq (true_and _)).symm
  | cons i front ih =>
    rw [List.cons_append, SameAnswers, ih, SameAnswers, and_assoc]
    rfl

theorem sameAnswers_self (r : Runner σ) (g : Ground σ) (children : List Invocation) :
    r.SameAnswers g g children := by
  induction children generalizing g with
  | nil => trivial
  | cons i rest ih => exact ⟨rfl, ih _⟩

end Runner

/-- What is done calls children and nothing else, and their answers alone tell how it goes: from
every other world in which the same children are answered alike, just these are called, with the
same result. -/
def Blind {α : Type} (r : Runner σ) (act : World σ τ → Except RunError α × World σ τ) : Prop :=
  ∀ w, ∃ children, Continues r children w (act w).2 ∧
    ∀ w', r.SameAnswers w.ground w'.ground children →
      (act w').1 = (act w).1 ∧ Continues r children w' (act w').2

/-- Of two blind things the second of which is done unless the first one fails, both together are
blind. -/
theorem Blind.seq {α : Type} {r : Runner σ}
    {first : World σ τ → Except RunError Unit × World σ τ}
    {next both : World σ τ → Except RunError α × World σ τ}
    (hok : ∀ w, (first w).1 = .ok () → both w = next (first w).2)
    (herror : ∀ w e, (first w).1 = .error e → both w = (.error e, (first w).2))
    (hfirst : Blind r first) (hnext : Blind r next) : Blind r both := by
  intro w
  obtain ⟨front, hfront, hsame⟩ := hfirst w
  cases hr : (first w).1 with
  | error e =>
    refine ⟨front, ?_, fun w' hanswers => ?_⟩
    · rw [herror w e hr]
      exact hfront
    · obtain ⟨hresult, hfront'⟩ := hsame w' hanswers
      rw [herror w e hr, herror w' e (hresult.trans hr)]
      exact ⟨rfl, hfront'⟩
  | ok u =>
    obtain ⟨back, hback, hsame'⟩ := hnext (first w).2
    refine ⟨front ++ back, ?_, fun w' hanswers => ?_⟩
    · rw [hok w hr]
      exact hfront.trans hback
    · obtain ⟨hanswersFront, hanswersBack⟩ := Runner.sameAnswers_append.mp hanswers
      obtain ⟨hresult, hfront'⟩ := hsame w' hanswersFront
      rw [← hfront.ground, ← hfront'.ground] at hanswersBack
      obtain ⟨hresult', hback'⟩ := hsame' (first w').2 hanswersBack
      rw [hok w hr, hok w' (hresult.trans hr)]
      exact ⟨hresult', hfront'.trans hback'⟩

/-- Doing nothing is blind. -/
theorem blind_ok {α : Type} (r : Runner σ) (a : α) :
    Blind r fun w : World σ τ => (.ok a, w) :=
  fun w => ⟨[], Continues.refl r w, fun w' _ => ⟨rfl, Continues.refl r w'⟩⟩

section

variable (env : Env σ τ)

theorem blind_launch (i : Invocation) : Blind env.runner (launch env i) := by
  refine fun w => ⟨[i], launch_continues env i w, fun w' hanswers =>
    ⟨?_, launch_continues env i w'⟩⟩
  rw [launch_fst, launch_fst, hanswers.1]

theorem blind_buildStep (strict : Bool) (step : Invocation) :
    Blind env.runner (buildStep env strict step) := by
  refine fun w => ⟨[step], buildStep_continues env strict step w, fun w' hanswers =>
    ⟨?_, buildStep_continues env strict step w'⟩⟩
  have hcode : (env.runner.ask w'.ground step).stepCode =
      (env.runner.ask w.ground step).stepCode := by
    unfold Reply.stepCode
    rw [hanswers.1]
  by_cases hends : strict = true ∧ (env.runner.ask w.ground step).stepCode ≠ 0
  · rw [buildStep_stops env hends.1 hends.2, buildStep_stops env hends.1 (hcode ▸ hends.2), hcode]
  · have hpasses := (buildStep_eq_ok_iff env strict step w).mpr hends
    rw [← hcode] at hends
    rw [hpasses, (buildStep_eq_ok_iff env strict step w').mpr hends]

theorem blind_buildSteps (strict : Bool) (steps : List Invocation) :
    Blind env.runner (buildSteps env strict steps) := by
  induction steps with
  | nil => exact blind_ok env.runner ()
  | cons step rest ih =>
    refine Blind.seq ?_ ?_ (blind_buildStep env strict step) ih
    · intro w hok
      rw [buildSteps]
      rcases hb : buildStep env strict step w with ⟨result, v⟩
      rw [hb] at hok
      obtain rfl : result = .ok () := hok
      rfl
    · intro w e herror
      rw [buildSteps]
      rcases hb : buildStep env strict step w with ⟨result, v⟩
      rw [hb] at herror
      obtain rfl : result = .error e := herror
      rfl

/-- Building is blind. -/
theorem blind_build (t : Toolchain) (buildDir : Path) (strict : Bool) :
    Blind env.runner (build env t buildDir strict) :=
  blind_buildSteps (env.within (buildSpan buildDir strict)) strict _

/-- Where no list is asked for, running all tests and only building are blind. -/
theorem blind_perform {o : Options} (hlist : o.listTests = false)
    (hone : o.runAll = true ∨ o.testName = none) : Blind env.runner (perform env o) := by
  have h : o.action = .runAll ∨ o.action = .buildOnly := by
    cases hall : o.runAll with
    | true => exact .inl (Options.action_eq_runAll_iff.mpr ⟨hlist, hall⟩)
    | false =>
      have hname : o.testName = none := hone.resolve_left (Bool.eq_false_iff.mp hall)
      exact .inr (Options.action_eq_buildOnly_iff.mpr ⟨hlist, hall, hname⟩)
  have hne : o.action ≠ .list := by
    rcases h with h | h <;> rw [h] <;> exact fun e => nomatch e
  have hnext : Blind env.runner (followUp env o) := by
    unfold followUp
    rcases h with h | h
    · simp only [h]
      exact blind_launch env _
    · simp only [h]
      exact blind_ok env.runner successCode
  refine Blind.seq ?_ ?_ (blind_build env (o.toolchain env.hostJobs) o.build o.strict) hnext
  · intro w hok
    rw [perform_eq_afterBuild env hne, afterBuild_of_ok hok]
  · intro w e herror
    rw [perform_eq_afterBuild env hne, afterBuild_of_error herror]

end

/-! ## Runs that agree -/

section

variable {env : Env σ τ} {o o' : Options}

/-- Options that agree are carried out in the same way. -/
theorem perform_congr (h : Options.Agree o o') (w : World σ τ) :
    perform env o' w = perform env o w := by
  cases h with
  | list h h' place =>
    rw [← Options.action_eq_list_iff] at h h'
    simp only [perform, h, h']
    exact place.listTests_eq env w
  | runAll h h' steps ctest =>
    rw [← Options.action_eq_runAll_iff] at h h'
    simp only [perform, h, h', runAll, steps.build_eq, steps.testAll_eq ctest]
  | runOne name h h' steps place suffix =>
    rw [← Options.action_eq_runOne_iff] at h h'
    simp only [perform, h, h', runOne_eq_afterBuild, steps.build_eq]
    rw [place.build, place.discoveryLayout_eq suffix]
  | buildOnly h h' steps =>
    rw [← Options.action_eq_buildOnly_iff] at h h'
    simp only [perform, h, h', buildOnly, steps.build_eq]

variable {view : View} {w w' : World σ τ}

/-- A build keeps agreement. -/
theorem build_agrees_self (env : Env σ τ) (t : Toolchain) (buildDir : Path) (strict : Bool)
    (h : World.Agrees view w w') :
    SameOutcome view (build env t buildDir strict w) (build env t buildDir strict w') := by
  obtain ⟨children, hnext, hsame⟩ := blind_build env t buildDir strict w
  obtain ⟨hresult, hnext'⟩ :=
    hsame w' (by rw [h.ground]; exact env.runner.sameAnswers_self _ _)
  refine ⟨hresult, ?_, ?_, ?_⟩
  · rw [hnext'.ground, hnext.ground, h.ground]
  · rw [hnext'.sink, hnext.sink, h.sink]
  · rw [build_history, build_history, List.filterMap_append, List.filterMap_append, h.history,
      h.ground]

/-- What options ask for keeps agreement. -/
theorem perform_agrees_self (env : Env σ τ) (o : Options) (h : World.Agrees view w w') :
    SameOutcome view (perform env o w) (perform env o w') := by
  by_cases ha : o.action = .list
  · simp only [perform, ha]
    exact listTests_agrees env env.runner h _ _
  · rw [perform_eq_afterBuild env ha, perform_eq_afterBuild env ha]
    obtain ⟨hresult, hworld⟩ :=
      build_agrees_self env (o.toolchain env.hostJobs) o.build o.strict h
    cases hb : (build env (o.toolchain env.hostJobs) o.build o.strict w).1 with
    | error e =>
      rw [afterBuild_of_error hb, afterBuild_of_error (hresult.trans hb)]
      exact ⟨rfl, hworld⟩
    | ok u =>
      rw [afterBuild_of_ok hb, afterBuild_of_ok (hresult.trans hb)]
      exact followUp_agrees_self env o hworld

end

/-! ## What is seen of a run -/

/-- The view that shows everything but records that are no warnings. -/
def noticedView : View
  | .logged spans record => if record.level = .warn then some (.logged spans record) else none
  | e => some e

/-- What is read off calls, output and warnings alone can be read off what that view shows. -/
theorem filterMap_eq_of_noticed {α : Type} {f : Event → Option α}
    (hf : ∀ spans record, record.level ≠ .warn → f (.logged spans record) = none)
    {h h' : List Event} (hview : h'.filterMap noticedView = h.filterMap noticedView) :
    h'.filterMap f = h.filterMap f := by
  have hevent (e : Event) : (noticedView e).bind f = f e := by
    cases e with
    | logged spans record =>
      by_cases hwarn : record.level = .warn
      · simp only [noticedView, hwarn, if_true, Option.bind_some]
      · simp only [noticedView, hwarn, if_false, Option.bind_none, hf spans record hwarn]
    | _ => rfl
  have hread (k : List Event) : (k.filterMap noticedView).filterMap f = k.filterMap f := by
    rw [List.filterMap_filterMap, funext hevent]
  rw [← hread h', hview, hread h]

theorem written_eq_flatten (history : List Event) :
    written history = (history.filterMap fun
      | .wrote bytes => some bytes
      | _ => none).flatten := by
  induction history with
  | nil => rfl
  | cons e rest ih =>
    cases e with
    | wrote bytes => exact congrArg (bytes ++ ·) ih
    | _ => exact ih

/-- Two runs have the same result, do the same and leave the same behind. -/
structure SameRun (run run' : Except RunError Int × World σ τ) : Prop where
  result : run'.1 = run.1
  files : run'.2.files = run.2.files
  runner : run'.2.runner = run.2.runner
  sink : run'.2.sink = run.2.sink
  calls : calls run'.2.history = calls run.2.history
  written : written run'.2.history = written run.2.history
  warnings : warnings run'.2.history = warnings run.2.history

theorem SameOutcome.sameRun {run run' : Except RunError Int × World σ τ}
    (h : SameOutcome noticedView run run') : SameRun run run' where
  result := h.result
  files := h.world.files
  runner := congrArg Ground.state h.world.ground
  sink := h.world.sink
  calls := filterMap_eq_of_noticed (fun _ _ _ => rfl) h.world.history
  written := by
    rw [written_eq_flatten, written_eq_flatten]
    exact congrArg List.flatten (filterMap_eq_of_noticed (fun _ _ _ => rfl) h.world.history)
  warnings := filterMap_eq_of_noticed (fun _ _ hwarn => if_neg hwarn) h.world.history

variable {o o' : Options}

/-- The records of what is to be done are not noticed. -/
theorem agrees_dispatching (env : Env σ τ) (o o' : Options) (w : World σ τ) :
    World.Agrees noticedView (w.log env (dispatchingRecord o.action o.discoveryLayout))
      (w.log env (dispatchingRecord o'.action o'.discoveryLayout)) := by
  refine ⟨rfl, rfl, ?_⟩
  simp only [World.log, List.filterMap_append]
  rfl

/-- Options that agree are carried out alike. -/
theorem execute_agrees_of_agree (env : Env σ τ) (w : World σ τ) (h : Options.Agree o o') :
    SameOutcome noticedView (execute env o w) (execute env o' w) := by
  unfold execute
  rw [h.build_eq]
  simp only [perform_congr h]
  exact perform_agrees_self _ o (agrees_dispatching _ o o' w)

/-- A listing goes alike with any two runners. -/
theorem execute_list_agrees (env : Env σ τ) (w : World σ τ) (h : Options.Agree o o')
    (hlist : o.listTests = true) (other : Runner σ) :
    SameOutcome noticedView (execute env o w) (execute (env.withRunner other) o' w) := by
  have hperform (inner : Env σ τ) (v : World σ τ) :
      perform inner o v = listTests inner o.build o.discoveryLayout v := by
    simp only [perform, Options.action_eq_list_iff.mpr hlist]
  unfold execute
  rw [h.build_eq]
  simp only [perform_congr h, hperform]
  exact listTests_agrees (env.within (executeSpan o.build)) other
    (agrees_dispatching _ o o' w) _ _

/-- **What a run reads.** Two runs from the same world, with options that have the same action and
agree on what it reads, have the same result, make the same calls, write the same, leave the same
behind and warn of the same. For listings this holds whatever the runners are. Running all tests
and only building do not read the files: from any world in which the children of the one run are
answered alike, the other one calls the same children and has the same result. -/
theorem execute_reads (env : Env σ τ) (o o' : Options) (w : World σ τ)
    (h : Options.Agree o o') :
    SameRun (execute env o w) (execute env o' w) ∧
    (o.listTests = true → ∀ other : Runner σ,
      SameRun (execute env o w) (execute (env.withRunner other) o' w)) ∧
    (o.listTests = false → o.runAll = true ∨ o.testName = none →
      ∃ children, calls (execute env o w).2.history = calls w.history ++ children ∧
        ∀ w' : World σ τ, env.runner.SameAnswers w.ground w'.ground children →
          (execute env o' w').1 = (execute env o w).1 ∧
          calls (execute env o' w').2.history = calls w'.history ++ children) := by
  refine ⟨(execute_agrees_of_agree env w h).sameRun, ?_, ?_⟩
  · intro hlist other
    exact (execute_list_agrees env w h hlist other).sameRun
  · intro hlist hone
    let inner := env.within (executeSpan o.build)
    let start (p : Options) (v : World σ τ) :=
      v.log inner (dispatchingRecord p.action p.discoveryLayout)
    have hrun' (v : World σ τ) : execute env o' v = perform inner o (start o' v) := by
      unfold execute
      rw [h.build_eq, perform_congr h]
    obtain ⟨children, hnext, hsame⟩ := blind_perform inner hlist hone (start o w)
    refine ⟨children, ?_, fun w' hanswers => ?_⟩
    · rw [← World.calls_log inner (dispatchingRecord o.action o.discoveryLayout) w]
      exact hnext.calls
    · obtain ⟨hresult, hnext'⟩ := hsame (start o' w') hanswers
      rw [hrun' w', ← World.calls_log inner (dispatchingRecord o'.action o'.discoveryLayout) w']
      exact ⟨hresult, hnext'.calls⟩

/-- A scripted runner answers alike from all grounds. -/
theorem sameAnswers_scripted (rules : List Rule) (g g' : Ground Unit)
    (children : List Invocation) : (Rule.runner rules).SameAnswers g g' children := by
  induction children generalizing g g' with
  | nil => trivial
  | cons i rest ih =>
    refine ⟨?_, ih _ _⟩
    simp only [Runner.ask, Rule.runner]
    cases rules.find? (·.applies i) <;> rfl

/-- Two command lines that list the groups, with different runners, and two that run all tests,
from different files. -/
theorem execute_otherSpellings :
    let parse (args : List String) := CommandLine.parse (args.map utf8)
    let env : Env Unit (Option Nat) :=
      ⟨Rule.runner [⟨"ctest", [], .ok 8⟩], Sink.unlimited, .one, []⟩
    let w : World Unit (Option Nat) := ⟨⟨.empty, []⟩, (), none, []⟩
    (∃ o o', parse ["-l", "--layout=groups", "-j2"] = .ok o ∧
      parse ["--strict", "-rl", "--layout", "groups", "--binary-suffix", "_test"] = .ok o' ∧
      o' ≠ o ∧ ∀ other, SameRun (execute env o w) (execute (env.withRunner other) o' w)) ∧
    (∃ o o', parse ["--run-all", "-b", "out"] = .ok o ∧
      parse ["--group-dir=lib", "-bout", "--layout", "groups", "-r"] = .ok o' ∧
      o' ≠ o ∧ SameRun (execute env o w) (execute env o' w) ∧
      ∀ files, (execute env o' { w with files := files }).1 = .ok 8) := by
  intro parse env w
  refine ⟨?_, ?_⟩
  · let o : Options :=
      { Options.default with
        listTests := true, layout := .groups, jobs := some ⟨2, by decide, by decide⟩ }
    let o' : Options :=
      { Options.default with
        listTests := true, runAll := true, strict := true, layout := .groups
        binarySuffix := "_test" }
    have hagree : Options.Agree o o' := .list rfl rfl ⟨rfl, rfl, fun _ => rfl⟩
    have h := execute_reads env o o' w hagree
    exact ⟨o, o', rfl, rfl, by decide, h.2.1 rfl⟩
  · let o : Options := { Options.default with runAll := true, build := utf8 "out" }
    let o' : Options :=
      { Options.default with
        runAll := true, build := utf8 "out", layout := .groups, groupDir := "lib" }
    have hparse : parse ["--run-all", "-b", "out"] = .ok o := by with_unfolding_all rfl
    have hparse' : parse ["--group-dir=lib", "-bout", "--layout", "groups", "-r"] = .ok o' := by
      with_unfolding_all rfl
    have hagree : Options.Agree o o' := .runAll ⟨rfl, rfl⟩ ⟨rfl, rfl⟩ ⟨rfl, rfl, rfl, rfl, rfl⟩ rfl
    obtain ⟨hsame, -, hanswered⟩ := execute_reads env o o' w hagree
    obtain ⟨children, -, hfiles⟩ := hanswered rfl (.inl rfl)
    have hresult : (execute env o w).1 = .ok 8 := by
      subst o w env
      rfl
    refine ⟨o, o', hparse, hparse', by decide, hsame, fun files => ?_⟩
    rw [(hfiles { w with files := files } (sameAnswers_scripted _ _ _ children)).1, hresult]

end Testbed
