import Testbed.Proofs.Execution.Calls

/-!
# Outputs that take everything

An output that takes all it is offered and can always be flushed gets every line of a list, and the
path of every binary.

* `Sink.Unfailing` says that an output is such from a state on, and `unfailing_unlimited` that
  the one without a limit is.
* `writeNames_of_unfailing` is the run that writes a list of names to it.
* `deeds_findAndLaunch` and `findAndLaunch_of_error` are the two ways to run one test with it.
-/

namespace Testbed

variable {σ τ : Type}

/-- From `state` on the output takes everything: in some states, which writing and flushing do not
leave, neither fails. -/
def Sink.Unfailing (s : Sink τ) (state : τ) : Prop :=
  ∃ keeps : τ → Prop, keeps state ∧ ∀ u, keeps u →
    (∀ bytes, ∃ v, s.offer bytes u = (.all, v) ∧ keeps v) ∧ ∃ v, s.flush u = (none, v) ∧ keeps v

namespace Sink.Unfailing

variable {s : Sink τ} {state : τ}

theorem offer (h : s.Unfailing state) (bytes : Bytes) :
    ∃ v, s.offer bytes state = (.all, v) ∧ s.Unfailing v := by
  obtain ⟨keeps, hstate, hkeeps⟩ := h
  obtain ⟨v, hoffer, hv⟩ := (hkeeps state hstate).1 bytes
  exact ⟨v, hoffer, keeps, hv, hkeeps⟩

theorem flush (h : s.Unfailing state) : ∃ v, s.flush state = (none, v) ∧ s.Unfailing v := by
  obtain ⟨keeps, hstate, hkeeps⟩ := h
  obtain ⟨v, hflush, hv⟩ := (hkeeps state hstate).2
  exact ⟨v, hflush, keeps, hv, hkeeps⟩

/-- Such an output takes the path of every binary. -/
theorem announces (h : s.Unfailing state) (line : Bytes) : s.announces line state = true := by
  obtain ⟨u, hoffer, hu⟩ := h.offer line
  obtain ⟨v, hflush, -⟩ := hu.flush
  simp only [Sink.announces, hoffer, hflush, Option.isNone_none]

end Sink.Unfailing

/-- An output without a limit takes everything. -/
theorem unfailing_unlimited : Sink.unlimited.Unfailing none :=
  ⟨(· = none), rfl, fun u hu => by
    subst hu
    exact ⟨fun bytes => ⟨none, rfl, rfl⟩, none, rfl, rfl⟩⟩

theorem written_map_wrote {α : Type} (bytes : α → Bytes) (items : List α) :
    written (items.map fun a => .wrote (bytes a)) = items.flatMap bytes := by
  induction items with
  | nil => rfl
  | cons a rest ih => exact congrArg (bytes a ++ ·) ih

/-- Every name of a list is written, and nothing else is done. -/
theorem writeNames_of_unfailing (env : Env σ τ) (names : List String) {w : World σ τ}
    (h : env.sink.Unfailing w.sink) :
    (writeNames env names w).1 = .ok successCode ∧
      (writeNames env names w).2.ground = w.ground ∧
      deeds (writeNames env names w).2.history =
        deeds w.history ++ names.map fun name => .wrote (lineOf name) := by
  induction names generalizing w with
  | nil => exact ⟨rfl, rfl, (List.append_nil _).symm⟩
  | cons name rest ih =>
    obtain ⟨v, hoffer, hv⟩ := h.offer (lineOf name)
    rw [writeNames, write_of_all env hoffer]
    obtain ⟨hok, hground, hdeeds⟩ :=
      ih (w := { w with sink := v, history := w.history ++ [.wrote (lineOf name)] }) hv
    refine ⟨hok, hground, hdeeds.trans ?_⟩
    rw [deeds_append, List.append_assoc]
    rfl

/-- A test that is found is announced and then run. -/
theorem deeds_findAndLaunch (env : Env σ τ) {buildDir : Path} {layout : Layout} {name : String}
    {binary : Path} {w : World σ τ} (h : env.sink.Unfailing w.sink)
    (hbinary : resolve w.files buildDir layout name = .ok binary) :
    deeds (findAndLaunch env buildDir layout name w).2.history =
      deeds w.history ++
        [.wrote (lineOf (Text.lossy binary)), .flushed none, .called ⟨binary, []⟩] := by
  have hlog := logDiscovery_continues env.runner env buildDir layout w
  have hann : env.sink.announces (lineOf (Text.lossy binary))
      (logDiscovery env buildDir layout w).sink = true := by
    rw [hlog.sink]
    exact h.announces _
  obtain ⟨w', -, hdeeds, hlaunch⟩ := announceAndLaunch_of_announces env hann
  simp only [findAndLaunch, hbinary]
  rw [hlaunch, (launch_continues env _ w').deeds, hdeeds, hlog.deeds]
  simp

/-- A name that leads to no binary ends the run, and nothing is written or called. -/
theorem findAndLaunch_of_error (env : Env σ τ) {buildDir : Path} {layout : Layout} {name : String}
    {e : ResolutionError} {w : World σ τ} (h : resolve w.files buildDir layout name = .error e) :
    (findAndLaunch env buildDir layout name w).1 = .error (.unresolved e) ∧
      Continues env.runner [] w (findAndLaunch env buildDir layout name w).2 := by
  simp only [findAndLaunch, h]
  exact ⟨trivial, logDiscovery_continues env.runner env buildDir layout w⟩

end Testbed
