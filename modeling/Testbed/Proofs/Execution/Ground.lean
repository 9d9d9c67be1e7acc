import Testbed.Execution.Execute

/-!
# What children leave behind

A run and the children it calls act on the same ground: the files, and whatever state the runner
keeps. Of the events in a history, calls, writes and flushes are the deeds of the run itself;
records and what children print are not.

* `Runner.ask` is the reply of a runner to one child on some ground, and `Runner.leave` the ground
  that several children leave, one after the other (`Runner.leave_append`).
* `deeds` keeps the deeds of a history; calls and output can be read off them alone
  (`calls_deeds`, `written_deeds`).
* `Continues` says that a run went from one world to another by calling children and did nothing
  else to be seen from outside. It composes (`Continues.trans`), logging continues a world with no
  call (`Continues.log`) and a call with one (`Continues.call`).
-/

namespace Testbed

variable {σ τ : Type}

/-! ## Ground -/

/-- What children act on: the state of their runner, and the files. -/
structure Ground (σ : Type) where
  state : σ
  files : FileSystem

/-- The ground that a reply leaves. -/
def Reply.ground (r : Reply σ) : Ground σ := ⟨r.state, r.files⟩

/-- The ground of a world. -/
def World.ground (w : World σ τ) : Ground σ := ⟨w.runner, w.files⟩

namespace Runner

/-- The reply to a child that is started on some ground. -/
def ask (r : Runner σ) (g : Ground σ) (i : Invocation) : Reply σ := r.call i g.state g.files

/-- The ground that children leave which are started one after the other. -/
def leave (r : Runner σ) : Ground σ → List Invocation → Ground σ
  | g, [] => g
  | g, i :: rest => leave r (r.ask g i).ground rest

theorem leave_append (r : Runner σ) (g : Ground σ) (front back : List Invocation) :
    r.leave g (front ++ back) = r.leave (r.leave g front) back := by
  induction front generalizing g with
  | nil => rfl
  | cons i front ih => exact ih (r.ask g i).ground

end Runner

/-! ## Deeds -/

/-- Whether an event is a deed of the run: a call, a write or a flush. -/
def Event.isDeed : Event → Bool
  | .called _ => true
  | .wrote _ => true
  | .flushed _ => true
  | .logged _ _ => false
  | .printed _ _ => false

/-- The deeds of a history, in order. -/
def deeds (history : List Event) : List Event := history.filter Event.isDeed

@[simp]
theorem deeds_append (h k : List Event) : deeds (h ++ k) = deeds h ++ deeds k :=
  List.filter_append ..

/-- What is seen of a child is no deed of the run. -/
theorem deeds_ofActivity (spans : List Log.Span) (seen : List Activity) :
    deeds (seen.map (Event.ofActivity spans)) = [] := by
  induction seen with
  | nil => rfl
  | cons a rest ih => cases a <;> exact ih

/-- Which children are called can be read off the deeds. -/
@[simp]
theorem calls_deeds (h : List Event) : calls (deeds h) = calls h := by
  induction h with
  | nil => rfl
  | cons e rest ih =>
    cases e with
    | called i => exact congrArg (i :: ·) ih
    | logged _ _ => exact ih
    | printed _ _ => exact ih
    | wrote _ => exact ih
    | flushed _ => exact ih

/-- What is written can be read off the deeds. -/
@[simp]
theorem written_deeds (h : List Event) : written (deeds h) = written h := by
  induction h with
  | nil => rfl
  | cons e rest ih =>
    cases e with
    | called _ => exact ih
    | logged _ _ => exact ih
    | printed _ _ => exact ih
    | wrote bytes => exact congrArg (bytes ++ ·) ih
    | flushed _ => exact ih

@[simp]
theorem calls_map_called (invocations : List Invocation) :
    calls (invocations.map .called) = invocations := by
  induction invocations with
  | nil => rfl
  | cons i rest ih => exact congrArg (i :: ·) ih

@[simp]
theorem written_map_called (invocations : List Invocation) :
    written (invocations.map .called) = [] := by
  induction invocations with
  | nil => rfl
  | cons i rest ih => exact ih

/-! ## Worlds that follow on each other -/

/-- From `w` to `w'` these children were called, in order, and nothing was done besides. -/
structure Continues (r : Runner σ) (invocations : List Invocation) (w w' : World σ τ) : Prop where
  ground : w'.ground = r.leave w.ground invocations
  sink : w'.sink = w.sink
  deeds : deeds w'.history = deeds w.history ++ invocations.map .called

namespace Continues

variable {r : Runner σ} {w w' w'' : World σ τ} {front back invocations : List Invocation}

theorem refl (r : Runner σ) (w : World σ τ) : Continues r [] w w where
  ground := rfl
  sink := rfl
  deeds := (List.append_nil _).symm

theorem trans (h : Continues r front w w') (h' : Continues r back w' w'') :
    Continues r (front ++ back) w w'' where
  ground := by rw [h'.ground, h.ground, Runner.leave_append]
  sink := h'.sink.trans h.sink
  deeds := by rw [h'.deeds, h.deeds, List.map_append, List.append_assoc]

/-- Logging is no deed. -/
theorem log (env : Env σ τ) (record : Log.Record) (w : World σ τ) :
    Continues r [] w (w.log env record) where
  ground := rfl
  sink := rfl
  deeds := deeds_append ..

/-- A call leaves the ground that the child leaves. -/
theorem call (env : Env σ τ) (i : Invocation) (w : World σ τ) :
    Continues env.runner [i] w (w.call env i).2 where
  ground := rfl
  sink := rfl
  deeds := by
    have h := deeds_ofActivity env.spans (env.runner.call i w.runner w.files).activity
    rw [World.call, deeds_append]
    exact congrArg (fun l => Testbed.deeds w.history ++ .called i :: l) h

/-- The files are those on the ground that the children leave. -/
theorem files (h : Continues r invocations w w') :
    w'.files = (r.leave w.ground invocations).files :=
  congrArg Ground.files h.ground

theorem calls (h : Continues r invocations w w') :
    calls w'.history = calls w.history ++ invocations := by
  rw [← calls_deeds, h.deeds, calls_append, calls_deeds, calls_map_called]

theorem written (h : Continues r invocations w w') : written w'.history = written w.history := by
  rw [← written_deeds, h.deeds, written_append, written_deeds, written_map_called, List.append_nil]

end Continues

/-- Looking for tests is no deed. -/
theorem logDiscovery_continues (r : Runner σ) (env : Env σ τ) (buildDir : Path) (layout : Layout)
    (w : World σ τ) : Continues r [] w (logDiscovery env buildDir layout w) := by
  unfold logDiscovery
  split
  · exact Continues.refl r w
  · exact Continues.log _ _ w

end Testbed
