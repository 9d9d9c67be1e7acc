import Testbed.Proofs.Execution.Building

/-!
# Which children a run calls

A listing calls no child. Every other action configures, compiles and then calls at most one more
child, and each of the three is called at most once. What is called depends on the replies so far,
on the files that the compiling child left and on the output, and on nothing else.

* `plannedCalls` are the children that a run is to call, said by the replies of the runner and
  not by the history of the run.
* `announceAndLaunch_cases` lists the three ways in which announcing a binary can go.
* `calls_execute`: a run calls exactly these, in this order.
-/

namespace Testbed

variable {σ τ : Type}

/-! ## The plan -/

/-- Whether a child was started and ended with the code of success. -/
def Reply.succeeds (r : Reply σ) : Bool :=
  match r.answer with
  | .ok code => code == 0
  | .error _ => false

/-- Whether an output takes all of a line and can then be flushed. -/
def Sink.announces (s : Sink τ) (line : Bytes) (state : τ) : Bool :=
  match s.offer line state with
  | (.all, state) => (s.flush state).1.isNone
  | (.part _ _, _) => false

/-- The child that is called once the project is built, if one is: the test runner, or the binary
that the name leads to, whose path the output must have taken. -/
def workCall? (env : Env σ τ) (o : Options) (files : FileSystem) (sink : τ) : Option Invocation :=
  match o.action with
  | .runAll => some ((o.toolchain env.hostJobs).testAll o.build)
  | .runOne name =>
    match resolve files o.build o.discoveryLayout name with
    | .ok binary =>
      if env.sink.announces (lineOf (Text.lossy binary)) sink then some ⟨binary, []⟩ else none
    | .error _ => none
  | _ => none

/-- The children that a run is to call, in order. -/
def plannedCalls (env : Env σ τ) (o : Options) (w : World σ τ) : List Invocation :=
  let configure := (o.toolchain env.hostJobs).configure o.build
  let compile := (o.toolchain env.hostJobs).compile o.build
  let configured := env.runner.ask w.ground configure
  let compiled := env.runner.ask configured.ground compile
  if o.action = .list then []
  else if o.strict = true ∧ configured.succeeds = false then [configure]
  else if o.strict = true ∧ compiled.succeeds = false then [configure, compile]
  else configure :: compile :: (workCall? env o compiled.files w.sink).toList

/-- A step has the code zero exactly if its child succeeds: a child that could not be started has
another one. -/
theorem Reply.stepCode_eq_zero_iff (r : Reply σ) : r.stepCode = 0 ↔ r.succeeds = true := by
  unfold Reply.stepCode Reply.succeeds
  cases r.answer with
  | ok code => exact beq_iff_eq.symm
  | error e => simp [launchFailureCode]

/-! ## The calls of each action -/

theorem calls_writeNames (env : Env σ τ) (names : List String) (w : World σ τ) :
    calls (writeNames env names w).2.history = calls w.history := by
  induction names generalizing w with
  | nil => rfl
  | cons name rest ih =>
    have h := World.calls_write env (lineOf name) w
    rw [writeNames]
    rcases hw : w.write env (lineOf name) with ⟨_ | reason, w'⟩
    · rw [hw] at h
      exact (ih w').trans h
    · rw [hw] at h
      exact h

/-- A listing calls no child. -/
theorem calls_listTests (env : Env σ τ) (buildDir : Path) (layout : Layout) (w : World σ τ) :
    calls (listTests env buildDir layout w).2.history = calls w.history := by
  have h := (logDiscovery_continues env.runner env buildDir layout w).calls
  rw [List.append_nil] at h
  unfold listTests
  simp only
  split
  · exact h
  · exact (calls_writeNames env _ _).trans h

theorem launch_continues (env : Env σ τ) (i : Invocation) (w : World σ τ) :
    Continues env.runner [i] w (launch env i w).2 := by
  have h := Continues.call env i w
  rw [launch]
  rcases hcall : w.call env i with ⟨_ | _, w'⟩ <;> rw [hcall] at h <;> exact h

/-- The result of a child that is called for the work is its code, or that it was not started. -/
theorem launch_fst (env : Env σ τ) (i : Invocation) (w : World σ τ) :
    (launch env i w).1 = (env.runner.ask w.ground i).answer.mapError .unlaunchable := by
  have h : (w.call env i).1 = (env.runner.ask w.ground i).answer := rfl
  rw [launch]
  rcases hcall : w.call env i with ⟨answer, v⟩
  rw [hcall] at h
  rw [← h]
  cases answer <;> rfl

/-- What writing a line gives where the output takes all of it. -/
theorem write_of_all (env : Env σ τ) {line : Bytes} {w : World σ τ} {sink : τ}
    (h : env.sink.offer line w.sink = (.all, sink)) :
    w.write env line = (none, { w with sink := sink, history := w.history ++ [.wrote line] }) := by
  simp only [World.write, h, Acceptance.taken]

/-- What writing a line gives where the output takes a part of it. -/
theorem write_of_part (env : Env σ τ) {line : Bytes} {w : World σ τ} {count : Nat}
    {reason : String} {sink : τ} (h : env.sink.offer line w.sink = (.part count reason, sink)) :
    w.write env line =
      (some reason,
        { w with sink := sink, history := w.history ++ [.wrote (line.take count)] }) := by
  simp only [World.write, h, Acceptance.taken]

/-- **The three ways in which announcing a binary can go**: the output takes a part of the line, it
takes all of it but cannot be flushed, or it can be flushed and the binary is run. -/
theorem announceAndLaunch_cases (env : Env σ τ) (binary : Path) (w : World σ τ) :
    let line := lineOf (Text.lossy binary)
    let outcome := announceAndLaunch env binary w
    (∃ count reason sink, env.sink.offer line w.sink = (.part count reason, sink) ∧
      outcome = (.error (.pathRefused reason),
        { w with sink := sink, history := w.history ++ [.wrote (line.take count)] })) ∨
    (∃ sink reason sink', env.sink.offer line w.sink = (.all, sink) ∧
      env.sink.flush sink = (some reason, sink') ∧
      outcome = (.error (.pathRefused reason),
        { w with
          sink := sink'
          history := w.history ++ [.wrote line, .flushed (some reason)] })) ∨
    (∃ sink sink', env.sink.offer line w.sink = (.all, sink) ∧
      env.sink.flush sink = (none, sink') ∧
      outcome = launch env ⟨binary, []⟩
        { w with sink := sink', history := w.history ++ [.wrote line, .flushed none] }) := by
  intro line outcome
  rcases ho : env.sink.offer line w.sink with ⟨_ | ⟨count, reason⟩, sink⟩
  · have hwrite := write_of_all env ho
    rcases hf : env.sink.flush sink with ⟨_ | reason, sink'⟩
    · refine .inr (.inr ⟨sink, sink', rfl, hf, ?_⟩)
      simp only [outcome, announceAndLaunch, line, hwrite, World.flush, hf, List.append_assoc,
        List.cons_append, List.nil_append]
    · refine .inr (.inl ⟨sink, reason, sink', rfl, hf, ?_⟩)
      simp only [outcome, announceAndLaunch, line, hwrite, World.flush, hf, List.append_assoc,
        List.cons_append, List.nil_append]
  · refine .inl ⟨count, reason, sink, rfl, ?_⟩
    simp only [outcome, announceAndLaunch, line, write_of_part env ho]

/-- Where the output takes the path, the binary is run right after the path is written. -/
theorem announceAndLaunch_of_announces (env : Env σ τ) {binary : Path} {w : World σ τ}
    (h : env.sink.announces (lineOf (Text.lossy binary)) w.sink = true) :
    ∃ w' : World σ τ, w'.ground = w.ground ∧
      deeds w'.history =
        deeds w.history ++ [.wrote (lineOf (Text.lossy binary)), .flushed none] ∧
      announceAndLaunch env binary w = launch env ⟨binary, []⟩ w' := by
  rcases announceAndLaunch_cases env binary w with ⟨count, reason, sink, ho, -⟩ |
    ⟨sink, reason, sink', ho, hf, -⟩ | ⟨sink, sink', ho, hf, heq⟩
  · simp [Sink.announces, ho] at h
  · simp [Sink.announces, ho, hf] at h
  · refine ⟨_, ?_, ?_, heq⟩
    · rfl
    · exact deeds_append ..

/-- Where the output does not take the path, no binary is run. -/
theorem announceAndLaunch_of_not_announces (env : Env σ τ) {binary : Path} {w : World σ τ}
    (h : env.sink.announces (lineOf (Text.lossy binary)) w.sink = false) :
    ∃ (reason : String) (w' : World σ τ), w'.ground = w.ground ∧
      calls w'.history = calls w.history ∧
      announceAndLaunch env binary w = (.error (.pathRefused reason), w') := by
  have hcalls (events : List Event) (hnone : calls events = []) :
      calls (w.history ++ events) = calls w.history := by
    rw [calls_append, hnone, List.append_nil]
  rcases announceAndLaunch_cases env binary w with ⟨count, reason, sink, ho, heq⟩ |
    ⟨sink, reason, sink', ho, hf, heq⟩ | ⟨sink, sink', ho, hf, -⟩
  · refine ⟨reason, _, ?_, ?_, heq⟩
    · rfl
    · exact hcalls _ rfl
  · refine ⟨reason, _, ?_, ?_, heq⟩
    · rfl
    · exact hcalls _ rfl
  · simp [Sink.announces, ho, hf] at h

/-- A binary is run exactly if the output takes its path and can be flushed. -/
theorem calls_announceAndLaunch (env : Env σ τ) (binary : Path) (w : World σ τ) :
    calls (announceAndLaunch env binary w).2.history =
      calls w.history ++
        if env.sink.announces (lineOf (Text.lossy binary)) w.sink then [⟨binary, []⟩] else [] := by
  cases h : env.sink.announces (lineOf (Text.lossy binary)) w.sink with
  | true =>
    obtain ⟨w', -, hdeeds, heq⟩ := announceAndLaunch_of_announces env h
    have hcalls : calls w'.history = calls w.history := by
      rw [← calls_deeds, hdeeds, calls_append, calls_deeds]
      exact List.append_nil _
    rw [heq, (launch_continues env _ w').calls, hcalls]
    rfl
  | false =>
    obtain ⟨reason, w', -, hcalls, heq⟩ := announceAndLaunch_of_not_announces env h
    rw [heq, hcalls]
    exact (List.append_nil _).symm

/-- What follows a build calls the one child that is planned for it, or none. -/
theorem calls_followUp (env : Env σ τ) (o : Options) (w : World σ τ) :
    calls (followUp env o w).2.history =
      calls w.history ++ (workCall? env o w.files w.sink).toList := by
  unfold followUp workCall?
  cases ha : o.action with
  | list => exact (List.append_nil _).symm
  | runAll => exact (launch_continues env _ w).calls
  | runOne name =>
    have hlog := logDiscovery_continues env.runner env o.build o.discoveryLayout w
    have hcalls := hlog.calls
    rw [List.append_nil] at hcalls
    simp only [findAndLaunch]
    cases resolve w.files o.build o.discoveryLayout name with
    | error e => exact hcalls.trans (List.append_nil _).symm
    | ok binary =>
      simp only [calls_announceAndLaunch, hcalls, hlog.sink]
      split <;> rfl
  | buildOnly => exact (List.append_nil _).symm

/-! ## The calls of a run -/

/-- Every action but listing calls what is planned for it. -/
theorem calls_perform (env : Env σ τ) {o : Options} (h : o.action ≠ .list) (w : World σ τ) :
    calls (perform env o w).2.history = calls w.history ++ plannedCalls env o w := by
  rw [perform_eq_afterBuild env h]
  unfold plannedCalls
  simp only [if_neg h, ← Bool.not_eq_true, ← Reply.stepCode_eq_zero_iff]
  rcases build_cases env (o.toolchain env.hostJobs) o.build o.strict w with
    ⟨hs, hc, herror, hnext⟩ | ⟨hs, hc, hd, herror, hnext⟩ | ⟨hp, hok, hnext⟩
  · rw [afterBuild_of_error herror, hnext.calls, if_pos ⟨hs, hc⟩]
  · rw [afterBuild_of_error herror, hnext.calls, if_neg fun h => h.2 hc, if_pos ⟨hs, hd⟩]
  · rw [if_neg fun h => h.2 (hp h.1).1, if_neg fun h => h.2 (hp h.1).2]
    rw [afterBuild_of_ok hok, calls_followUp, hnext.calls, hnext.files, hnext.sink,
      List.append_assoc]
    rfl

/-- At most three children are planned: one to configure, one to compile and one more. -/
theorem plannedCalls_prefix (env : Env σ τ) (o : Options) (w : World σ τ) :
    ∃ work, plannedCalls env o w <+:
      [(o.toolchain env.hostJobs).configure o.build, (o.toolchain env.hostJobs).compile o.build,
        work] := by
  unfold plannedCalls
  simp only
  split
  · exact ⟨⟨[], []⟩, List.nil_prefix⟩
  · split
    · exact ⟨⟨[], []⟩, _, rfl⟩
    · split
      · exact ⟨⟨[], []⟩, _, rfl⟩
      · cases workCall? env o _ w.sink with
        | none => exact ⟨⟨[], []⟩, _, rfl⟩
        | some work => exact ⟨work, List.prefix_rfl⟩

/-- **The calls of a run**: exactly the planned ones, in order, which are at most a configuring
call, a compiling call and one more. -/
theorem calls_execute (env : Env σ τ) (o : Options) (w : World σ τ) :
    calls (execute env o w).2.history = calls w.history ++ plannedCalls env o w ∧
      ∃ work, plannedCalls env o w <+:
        [(o.toolchain env.hostJobs).configure o.build, (o.toolchain env.hostJobs).compile o.build,
          work] := by
  refine ⟨?_, plannedCalls_prefix env o w⟩
  unfold execute
  have hlog := World.calls_log (env.within (executeSpan o.build))
    (dispatchingRecord o.action o.discoveryLayout) w
  by_cases h : o.action = .list
  · have hplan : plannedCalls env o w = [] := if_pos h
    rw [hplan, List.append_nil, ← hlog]
    simp only [perform, h]
    exact calls_listTests ..
  · have hrun := calls_perform (env.within (executeSpan o.build)) h
      (w.log (env.within (executeSpan o.build)) (dispatchingRecord o.action o.discoveryLayout))
    rw [hlog] at hrun
    exact hrun

end Testbed
