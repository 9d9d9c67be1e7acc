import Testbed.Execution.Sink
import Testbed.Process.Runner
import Testbed.Toolchain

/-!
# The world of a run

A run acts on files, on a runner and on an output, and all it does to them is kept in one history,
in order: which children it calls, what they print, which bytes the output takes, when it is
flushed and what is logged inside which spans.

* `World` is the state of a run and `Env` what stays the same while it runs;
* `World.log`, `World.call`, `World.write` and `World.flush` are the only things a run does;
* `calls`, `written` and `records` read the history, each piece of it by itself.
-/

namespace Testbed

/-- Something that happens in a run. -/
inductive Event
  /-- The runner is called. -/
  | called (invocation : Invocation)
  /-- A record is logged inside these spans, the outermost first. -/
  | logged (spans : List Log.Span) (record : Log.Record)
  /-- A child prints. -/
  | printed (stream : Stream) (bytes : Bytes)
  /-- The output takes bytes. -/
  | wrote (bytes : Bytes)
  /-- The output is asked to flush; it does so if there is no reason against it. -/
  | flushed (refusal : Option String)
  deriving DecidableEq

/-- What happens when something is seen of a child inside spans. -/
def Event.ofActivity (spans : List Log.Span) : Activity → Event
  | .logged record => .logged spans record
  | .printed stream bytes => .printed stream bytes

/-- What a run can use: a runner, an output, how many workers the host suggests, and the spans
that it is in. -/
structure Env (σ τ : Type) where
  runner : Runner σ
  sink : Sink τ
  hostJobs : Jobs
  spans : List Log.Span

/-- The same inside one more span. -/
def Env.within {σ τ : Type} (env : Env σ τ) (span : Log.Span) : Env σ τ :=
  { env with spans := env.spans ++ [span] }

/-- The state of a run: the files, the states of the runner and of the output, and what happened
so far. -/
structure World (σ τ : Type) where
  files : FileSystem
  runner : σ
  sink : τ
  history : List Event

namespace World

variable {σ τ : Type}

/-- Logs a record inside the spans that the run is in. -/
def log (env : Env σ τ) (record : Log.Record) (w : World σ τ) : World σ τ :=
  { w with history := w.history ++ [.logged env.spans record] }

/-- Runs a child and gives its exit code. -/
def call (env : Env σ τ) (i : Invocation) (w : World σ τ) : Except LaunchError Int × World σ τ :=
  let reply := env.runner.call i w.runner w.files
  (reply.answer,
    { w with
      files := reply.files
      runner := reply.state
      history := w.history ++ .called i :: reply.activity.map (Event.ofActivity env.spans) })

/-- Writes bytes to the output; the result holds the reason if it does not take all of them. -/
def write (env : Env σ τ) (bytes : Bytes) (w : World σ τ) : Option String × World σ τ :=
  let (acceptance, sink) := env.sink.offer bytes w.sink
  (match acceptance with
    | .all => none
    | .part _ reason => some reason,
    { w with sink := sink, history := w.history ++ [.wrote (acceptance.taken bytes)] })

/-- Flushes the output; the result holds the reason if that fails. -/
def flush (env : Env σ τ) (w : World σ τ) : Option String × World σ τ :=
  let (refusal, sink) := env.sink.flush w.sink
  (refusal, { w with sink := sink, history := w.history ++ [.flushed refusal] })

end World

/-! ## Reading a history -/

/-- The invocations that the runner was called with, in order. -/
def calls (history : List Event) : List Invocation :=
  history.filterMap fun
    | .called i => some i
    | _ => none

/-- The bytes that the output took. -/
def written (history : List Event) : Bytes :=
  history.flatMap fun
    | .wrote bytes => bytes
    | _ => []

/-- What was logged, in order, with the spans it was logged in. -/
def records (history : List Event) : List (List Log.Span × Log.Record) :=
  history.filterMap fun
    | .logged spans record => some (spans, record)
    | _ => none

theorem calls_append (h k : List Event) : calls (h ++ k) = calls h ++ calls k :=
  List.filterMap_append

theorem written_append (h k : List Event) : written (h ++ k) = written h ++ written k :=
  List.flatMap_append

theorem records_append (h k : List Event) : records (h ++ k) = records h ++ records k :=
  List.filterMap_append

namespace World

variable {σ τ : Type}

/-- Logging calls nothing. -/
theorem calls_log (env : Env σ τ) (r : Log.Record) (w : World σ τ) :
    calls (w.log env r).history = calls w.history := by
  simp [log, calls]

/-- Writing calls nothing. -/
theorem calls_write (env : Env σ τ) (bytes : Bytes) (w : World σ τ) :
    calls (w.write env bytes).2.history = calls w.history := by
  simp [write, calls]

end World

end Testbed
