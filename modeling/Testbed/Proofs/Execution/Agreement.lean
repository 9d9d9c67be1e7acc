import Testbed.Proofs.Execution.Calls

/-!
# Runs that agree

Two runs are compared by their files, the states of their runner and of their output, and by what a
view lets one see of their histories. If they agree before something is done, with runners that
answer alike, they agree afterwards and have the same result.

* `World.Agrees` and `Reply.Agrees` say what is compared, and `SameOutcome` that two runs have the
  same result in worlds that agree.
* `World.Agrees.log`, `call`, `write` and `flush`: nothing that a run can do tells two worlds apart
  that agree.
* `listTests_agrees`: a listing keeps agreement, whatever the runners are.
* `followUp_agrees`: what follows a build keeps agreement, if the child that is called then is
  answered alike.
-/

namespace Testbed

variable {σ τ : Type}

/-- What is seen of an event; nothing, if there is no answer. -/
abbrev View := Event → Option Event

/-- Two worlds differ at most in what a view does not show of their histories. -/
structure World.Agrees (view : View) (w w' : World σ τ) : Prop where
  ground : w'.ground = w.ground
  sink : w'.sink = w.sink
  history : w'.history.filterMap view = w.history.filterMap view

/-- Two replies differ at most in what a view does not show of what was seen of the child. -/
structure Reply.Agrees (view : View) (spans : List Log.Span) (r r' : Reply σ) : Prop where
  answer : r'.answer = r.answer
  ground : r'.ground = r.ground
  seen : (r'.activity.map (Event.ofActivity spans)).filterMap view =
    (r.activity.map (Event.ofActivity spans)).filterMap view

/-- Two runs have the same result and end in worlds that agree. -/
structure SameOutcome {α : Type} (view : View) (o o' : α × World σ τ) : Prop where
  result : o'.1 = o.1
  world : World.Agrees view o.2 o'.2

/-- The same with another runner. -/
def Env.withRunner (env : Env σ τ) (r : Runner σ) : Env σ τ := { env with runner := r }

variable {view : View} {w w' : World σ τ}

namespace World.Agrees

theorem refl (view : View) (w : World σ τ) : World.Agrees view w w := ⟨rfl, rfl, rfl⟩

theorem files (h : World.Agrees view w w') : w'.files = w.files :=
  congrArg Ground.files h.ground

variable (env : Env σ τ) (other : Runner σ)

theorem log (h : World.Agrees view w w') (record : Log.Record) :
    World.Agrees view (w.log env record) (w'.log (env.withRunner other) record) where
  ground := h.ground
  sink := h.sink
  history := by
    simp only [World.log, List.filterMap_append, h.history]
    rfl

theorem write (h : World.Agrees view w w') (bytes : Bytes) :
    SameOutcome view (w.write env bytes) (w'.write (env.withRunner other) bytes) := by
  refine ⟨?_, h.ground, ?_, ?_⟩
  · simp only [World.write, Env.withRunner, h.sink]
  · simp only [World.write, Env.withRunner, h.sink]
  · simp only [World.write, Env.withRunner, h.sink, List.filterMap_append, h.history]

theorem flush (h : World.Agrees view w w') :
    SameOutcome view (w.flush env) (w'.flush (env.withRunner other)) := by
  refine ⟨?_, h.ground, ?_, ?_⟩
  · simp only [World.flush, Env.withRunner, h.sink]
  · simp only [World.flush, Env.withRunner, h.sink]
  · simp only [World.flush, Env.withRunner, h.sink, List.filterMap_append, h.history]

variable {env other} in
theorem call (h : World.Agrees view w w') {i : Invocation}
    (hreply : Reply.Agrees view env.spans (env.runner.ask w.ground i) (other.ask w'.ground i)) :
    SameOutcome view (w.call env i) (w'.call (env.withRunner other) i) := by
  refine ⟨hreply.answer, hreply.ground, h.sink, ?_⟩
  have hseen := hreply.seen
  simp only [Runner.ask, World.ground] at hseen
  simp only [World.call, Env.withRunner, List.filterMap_append, h.history, List.filterMap_cons,
    hseen]

end World.Agrees

/-! ## Listing -/

section

variable (env : Env σ τ) (other : Runner σ)

theorem writeNames_agrees (names : List String) (h : World.Agrees view w w') :
    SameOutcome view (writeNames env names w) (writeNames (env.withRunner other) names w') := by
  induction names generalizing w w' with
  | nil => exact ⟨rfl, h⟩
  | cons name rest ih =>
    obtain ⟨hresult, hworld⟩ := h.write env other (lineOf name)
    unfold writeNames
    rcases hw : w.write env (lineOf name) with ⟨refusal, v⟩
    rcases hw' : w'.write (env.withRunner other) (lineOf name) with ⟨refusal', v'⟩
    rw [hw, hw'] at hresult hworld
    obtain rfl : refusal' = refusal := hresult
    cases refusal' with
    | none => exact ih hworld
    | some reason => exact ⟨rfl, hworld⟩

theorem logDiscovery_agrees (h : World.Agrees view w w') (buildDir : Path) (layout : Layout) :
    World.Agrees view (logDiscovery env buildDir layout w)
      (logDiscovery (env.withRunner other) buildDir layout w') := by
  unfold logDiscovery
  rw [h.files]
  split
  · exact h
  · exact h.log (env.within (discoverSpan buildDir)) other _

theorem listTests_agrees (h : World.Agrees view w w') (buildDir : Path) (layout : Layout) :
    SameOutcome view (listTests env buildDir layout w)
      (listTests (env.withRunner other) buildDir layout w') := by
  have hlog := logDiscovery_agrees env other h buildDir layout
  unfold listTests
  rw [h.files]
  dsimp only
  split
  · exact ⟨rfl, hlog⟩
  · exact writeNames_agrees env other _ hlog

end

/-! ## What follows a build -/

variable {env : Env σ τ} {other : Runner σ}

theorem launch_agrees (h : World.Agrees view w w') {i : Invocation}
    (hreply : Reply.Agrees view env.spans (env.runner.ask w.ground i) (other.ask w'.ground i)) :
    SameOutcome view (launch env i w) (launch (env.withRunner other) i w') := by
  obtain ⟨hresult, hworld⟩ := h.call hreply
  unfold launch
  rcases hc : w.call env i with ⟨answer, v⟩
  rcases hc' : w'.call (env.withRunner other) i with ⟨answer', v'⟩
  rw [hc, hc'] at hresult hworld
  obtain rfl : answer' = answer := hresult
  cases answer' with
  | ok code => exact ⟨rfl, hworld⟩
  | error e => exact ⟨rfl, hworld⟩

/-- An output that took a line and was flushed announces it. -/
theorem announces_of_flush {line : Bytes} {v u : World σ τ} (hw : w.write env line = (none, v))
    (hf : v.flush env = (none, u)) :
    env.sink.announces line w.sink = true ∧ u.ground = w.ground := by
  rcases ho : env.sink.offer line w.sink with ⟨_ | ⟨count, reason⟩, sink⟩
  · rw [write_of_all env ho] at hw
    obtain ⟨-, rfl⟩ := Prod.mk.inj hw
    obtain ⟨hnone, rfl⟩ := Prod.mk.inj hf
    simp only at hnone
    exact ⟨by simp only [Sink.announces, ho, hnone, Option.isNone_none], rfl⟩
  · rw [write_of_part env ho] at hw
    exact absurd (congrArg Prod.fst hw) (Option.some_ne_none reason)

/-- A binary is announced and run alike, if its reply is alike once it is announced. -/
theorem announceAndLaunch_agrees (h : World.Agrees view w w') {binary : Path}
    (hreply : env.sink.announces (lineOf (Text.lossy binary)) w.sink = true →
      Reply.Agrees view env.spans (env.runner.ask w.ground ⟨binary, []⟩)
        (other.ask w.ground ⟨binary, []⟩)) :
    SameOutcome view (announceAndLaunch env binary w)
      (announceAndLaunch (env.withRunner other) binary w') := by
  obtain ⟨hwrite, hwritten⟩ := h.write env other (lineOf (Text.lossy binary))
  unfold announceAndLaunch
  rcases hw : w.write env (lineOf (Text.lossy binary)) with ⟨refusal, v⟩
  rcases hw' : w'.write (env.withRunner other) (lineOf (Text.lossy binary)) with ⟨refusal', v'⟩
  rw [hw, hw'] at hwrite hwritten
  obtain rfl : refusal' = refusal := hwrite
  cases refusal' with
  | some reason => exact ⟨rfl, hwritten⟩
  | none =>
    obtain ⟨hflush, hflushed⟩ := hwritten.flush env other
    dsimp only
    rcases hf : v.flush env with ⟨refusal, u⟩
    rcases hf' : v'.flush (env.withRunner other) with ⟨refusal', u'⟩
    rw [hf, hf'] at hflush hflushed
    obtain rfl : refusal' = refusal := hflush
    cases refusal' with
    | some reason => exact ⟨rfl, hflushed⟩
    | none =>
      obtain ⟨hann, hground⟩ := announces_of_flush hw hf
      have hground' : u'.ground = w.ground := hflushed.ground.trans hground
      refine launch_agrees hflushed ?_
      rw [hground', hground]
      exact hreply hann

/-- What follows a build keeps agreement, if the child that is called then, if one is, is answered
alike. -/
theorem followUp_agrees {o : Options} (h : World.Agrees view w w')
    (hwork : ∀ i, workCall? env o w.files w.sink = some i →
      Reply.Agrees view env.spans (env.runner.ask w.ground i) (other.ask w.ground i)) :
    SameOutcome view (followUp env o w) (followUp (env.withRunner other) o w') := by
  unfold workCall? at hwork
  unfold followUp
  cases ha : o.action with
  | list => exact ⟨rfl, h⟩
  | buildOnly => exact ⟨rfl, h⟩
  | runAll =>
    rw [ha] at hwork
    refine launch_agrees h ?_
    rw [h.ground]
    exact hwork _ rfl
  | runOne name =>
    rw [ha] at hwork
    have hlog := logDiscovery_agrees env other h o.build o.discoveryLayout
    have hsame := logDiscovery_continues env.runner env o.build o.discoveryLayout w
    simp only [findAndLaunch, h.files]
    cases hr : resolve w.files o.build o.discoveryLayout name with
    | error e => exact ⟨rfl, hlog⟩
    | ok binary =>
      refine announceAndLaunch_agrees hlog ?_
      rw [hsame.sink, hsame.ground]
      intro hann
      refine hwork _ ?_
      simp only [hr, hann, if_true]

/-- What follows a build keeps agreement, if the runner is the same. -/
theorem followUp_agrees_self (env : Env σ τ) (o : Options) (h : World.Agrees view w w') :
    SameOutcome view (followUp env o w) (followUp env o w') :=
  have hsame : SameOutcome view (followUp env o w) (followUp (env.withRunner env.runner) o w') :=
    followUp_agrees h fun _ _ => ⟨rfl, rfl, rfl⟩
  hsame

end Testbed
