import Testbed.Process.Scripted
import Testbed.Proofs.Execution.Calls

/-!
# The path of a binary is written before the binary is run

A test is run only after the output has taken the line with the path of its binary and has been
flushed. An output that has room for a part of the line takes just that part, and then the run
fails with what the output says. Nothing else that a run of one test does concerns the output, and
running all tests or only building does not concern it at all.

* `Sink.HasRoom` is an output that takes so many bytes and then fails, and
  `Sink.hasRoom_limited` that a limited one is such.
* `announceAndLaunch_of_hasRoom` is what announcing a binary to such an output comes to.
* `build_continues` says that a build does not concern the output.
* `runOne_announces` is the result for running one test.
-/

namespace Testbed

variable {σ τ : Type}

/-! ## Outputs with room -/

namespace Sink

/-- Whether some bytes fit where there is room for so many, or for any number of them. -/
def fits (room : Option Nat) (bytes : Bytes) : Bool :=
  match room with
  | none => true
  | some n => bytes.length ≤ n

/-- As much of some bytes as there is room for. -/
def fitting (room : Option Nat) (bytes : Bytes) : Bytes :=
  match room with
  | none => bytes
  | some n => bytes.take n

/-- An output takes as many bytes as it has room for, and then fails for a reason. -/
def HasRoom (s : Sink τ) (room : Option Nat) (reason : String) (state : τ) : Prop :=
  ∀ bytes, (s.offer bytes state).1 =
    match room with
    | none => .all
    | some n => if bytes.length ≤ n then .all else .part n reason

theorem hasRoom_limited (flushFails : Bool) (room : Option Nat) :
    (limited flushFails).HasRoom room fullReason room := by
  intro bytes
  cases room with
  | none => rfl
  | some n =>
    simp only [limited]
    split <;> rfl

theorem fitting_of_fits {room : Option Nat} {bytes : Bytes} (h : fits room bytes = true) :
    fitting room bytes = bytes := by
  cases room with
  | none => rfl
  | some n => exact List.take_of_length_le (of_decide_eq_true h)

/-- Bytes that fit are taken, and others are taken as far as there is room. -/
theorem HasRoom.offer_cases {s : Sink τ} {room : Option Nat} {reason : String} {state : τ}
    (h : s.HasRoom room reason state) (bytes : Bytes) :
    (fits room bytes = true ∧ (s.offer bytes state).1 = .all) ∨
      (fits room bytes = false ∧
        ∃ n, room = some n ∧ (s.offer bytes state).1 = .part n reason) := by
  have hoffer := h bytes
  cases room with
  | none => exact .inl ⟨rfl, hoffer⟩
  | some n =>
    by_cases hlength : bytes.length ≤ n
    · exact .inl ⟨decide_eq_true hlength, hoffer.trans (if_pos hlength)⟩
    · exact .inr ⟨decide_eq_false hlength, n, rfl, hoffer.trans (if_neg hlength)⟩

end Sink

/-! ## Announcing -/

/-- Announcing a binary writes as much of its path as there is room for. If all of it is taken and
the output is flushed, the binary is run after that. Otherwise nothing is run, and the error says
what the output says. -/
theorem announceAndLaunch_of_hasRoom (env : Env σ τ) (binary : Path) {w : World σ τ}
    {room : Option Nat} {reason : String} (h : env.sink.HasRoom room reason w.sink) :
    let line := lineOf (Text.lossy binary)
    let refusal := (env.sink.flush (env.sink.offer line w.sink).2).1
    let outcome := announceAndLaunch env binary w
    written outcome.2.history = written w.history ++ Sink.fitting room line ∧
    (Sink.fits room line = true ∧ refusal = none →
      deeds outcome.2.history =
        deeds w.history ++ [.wrote line, .flushed none, .called ⟨binary, []⟩] ∧
      outcome.1 = (env.runner.ask w.ground ⟨binary, []⟩).answer.mapError .unlaunchable) ∧
    (¬ (Sink.fits room line = true ∧ refusal = none) →
      calls outcome.2.history = calls w.history ∧
      ∃ text, outcome.1 = .error (.pathRefused text) ∧
        if Sink.fits room line then refusal = some text else text = reason) := by
  intro line refusal outcome
  have hoffer := h.offer_cases line
  rcases announceAndLaunch_cases env binary w with ⟨count, reason', sink, ho, heq⟩ |
    ⟨sink, text, sink', ho, hf, heq⟩ | ⟨sink, sink', ho, hf, heq⟩
  · -- The output takes a part, so there was no room for more.
    have hpart : (env.sink.offer line w.sink).1 = .part count reason' := congrArg Prod.fst ho
    rw [hpart] at hoffer
    obtain ⟨hfits, n, rfl, hcount⟩ := hoffer.resolve_left fun hall => nomatch hall.2
    obtain ⟨rfl, rfl⟩ := Acceptance.part.inj hcount
    rw [show outcome = _ from heq, hfits]
    refine ⟨?_, (nomatch ·.1), fun _ => ⟨?_, reason', rfl, rfl⟩⟩
    · rw [written_append]
      exact congrArg _ (List.append_nil _)
    · rw [calls_append]
      exact List.append_nil _
  · -- The output takes all, but it is not flushed.
    have hall : (env.sink.offer line w.sink).1 = .all := congrArg Prod.fst ho
    rw [hall] at hoffer
    obtain ⟨hfits, -⟩ := hoffer.resolve_right fun ⟨_, n, _, hpart⟩ => nomatch hpart
    have hrefusal : refusal = some text := by
      simp only [refusal, line, ho, hf]
    rw [show outcome = _ from heq, hfits, hrefusal, Sink.fitting_of_fits hfits]
    refine ⟨?_, (nomatch ·.2), fun _ => ⟨?_, text, rfl, rfl⟩⟩
    · rw [written_append]
      exact congrArg _ (List.append_nil _)
    · rw [calls_append]
      exact List.append_nil _
  · -- The output takes all and is flushed.
    have hall : (env.sink.offer line w.sink).1 = .all := congrArg Prod.fst ho
    rw [hall] at hoffer
    obtain ⟨hfits, -⟩ := hoffer.resolve_right fun ⟨_, n, _, hpart⟩ => nomatch hpart
    have hrefusal : refusal = none := by
      simp only [refusal, line, ho, hf]
    let told : World σ τ :=
      { w with sink := sink', history := w.history ++ [.wrote line, .flushed none] }
    have hnext := launch_continues env ⟨binary, []⟩ told
    rw [show outcome = launch env ⟨binary, []⟩ told from heq, hfits, hrefusal,
      Sink.fitting_of_fits hfits]
    refine ⟨?_, fun _ => ⟨?_, ?_⟩, fun hnot => absurd ⟨rfl, rfl⟩ hnot⟩
    · rw [hnext.written, written_append]
      exact congrArg _ (List.append_nil _)
    · rw [hnext.deeds, deeds_append, List.append_assoc]
      rfl
    · exact launch_fst env _ told

/-! ## What does not concern the output -/

section

variable (env : Env σ τ) (t : Toolchain) (buildDir : Path) (strict : Bool) (w : World σ τ)

/-- However a build goes, it calls children and does nothing else. -/
theorem build_continues :
    ∃ children, Continues env.runner children w (build env t buildDir strict w).2 := by
  rcases build_cases env t buildDir strict w with
    ⟨-, -, -, hnext⟩ | ⟨-, -, -, -, hnext⟩ | ⟨-, -, hnext⟩
  · exact ⟨_, hnext⟩
  · exact ⟨_, hnext⟩
  · exact ⟨_, hnext⟩

/-- What does not concern the output does not do so after a build. -/
theorem afterBuild_continues {next : World σ τ → Except RunError Int × World σ τ}
    (hnext : ∀ v, ∃ children, Continues env.runner children v (next v).2) :
    ∃ children, Continues env.runner children w
      (afterBuild next (build env t buildDir strict w)).2 := by
  obtain ⟨front, hbuild⟩ := build_continues env t buildDir strict w
  cases hresult : (build env t buildDir strict w).1 with
  | error e =>
    rw [afterBuild_of_error hresult]
    exact ⟨front, hbuild⟩
  | ok u =>
    obtain ⟨back, hback⟩ := hnext (build env t buildDir strict w).2
    rw [afterBuild_of_ok hresult]
    exact ⟨front ++ back, hbuild.trans hback⟩

theorem runAll_continues :
    ∃ children, Continues env.runner children w (runAll env t buildDir strict w).2 := by
  rw [runAll_eq_afterBuild]
  exact afterBuild_continues env t buildDir strict w fun v => ⟨_, launch_continues env _ v⟩

theorem buildOnly_continues :
    ∃ children, Continues env.runner children w (buildOnly env t buildDir strict w).2 := by
  rw [buildOnly_eq_afterBuild]
  exact afterBuild_continues env t buildDir strict w fun v => ⟨[], Continues.refl env.runner v⟩

end

/-! ## Running one test -/

/-- **The path is written, and then the binary is run.** Once the project is built and the name
leads to a binary, the output takes as much of the line with its path as it has room for. The binary
is run exactly if the output takes all of it and is then flushed, and only after both; otherwise the
run fails with what the output says, and only the steps of the build have been called. If the build
is stopped or the name leads nowhere, the output is not touched; and neither running all tests nor
only building touches it. -/
theorem runOne_announces (env : Env σ τ) (t : Toolchain) (buildDir : Path) (layout : Layout)
    (name : String) (strict : Bool) (w : World σ τ) (room : Option Nat) (reason : String)
    (hroom : env.sink.HasRoom room reason w.sink) :
    let steps := [t.configure buildDir, t.compile buildDir]
    let built := build env t buildDir strict w
    let found := resolve built.2.files buildDir layout name
    let run := runOne env t buildDir layout name strict w
    (∀ p, built.1 = .ok () → found = .ok p →
      let line := lineOf (Text.lossy p)
      let refusal := (env.sink.flush (env.sink.offer line w.sink).2).1
      written run.2.history = written w.history ++ Sink.fitting room line ∧
      (Sink.fits room line = true ∧ refusal = none →
        deeds run.2.history = deeds w.history ++
          (steps.map .called ++ [.wrote line, .flushed none, .called ⟨p, []⟩]) ∧
        run.1 = (env.runner.ask (env.runner.leave w.ground steps) ⟨p, []⟩).answer.mapError
          .unlaunchable) ∧
      (¬ (Sink.fits room line = true ∧ refusal = none) →
        calls run.2.history = calls w.history ++ steps ∧
        ∃ text, run.1 = .error (.pathRefused text) ∧
          (if Sink.fits room line then refusal = some text else text = reason) ∧
          (RunError.pathRefused text).failure = ⟨"Error writing test path: " ++ text, 1⟩)) ∧
    ((∃ e, built.1 = .error e) ∨ (∃ e, found = .error e) →
      ∃ children, Continues env.runner children w run.2) ∧
    (∃ children, Continues env.runner children w (runAll env t buildDir strict w).2) ∧
    ∃ children, Continues env.runner children w (buildOnly env t buildDir strict w).2 := by
  intro steps built found run
  have hrun : run = afterBuild (findAndLaunch env buildDir layout name) built :=
    runOne_eq_afterBuild env t buildDir layout name strict w
  refine ⟨?_, ?_, runAll_continues env t buildDir strict w,
    buildOnly_continues env t buildDir strict w⟩
  · intro p hok hfound line refusal
    obtain ⟨v, hnext, hannounce⟩ := runOne_of_found hok hfound
    rw [← hnext.sink] at hroom
    obtain ⟨hwritten, hruns, hfails⟩ := announceAndLaunch_of_hasRoom env p hroom
    rw [hnext.sink] at hruns hfails
    rw [show run = _ from hannounce]
    refine ⟨hwritten.trans (congrArg (· ++ _) hnext.written), fun hboth => ?_, fun hnot => ?_⟩
    · obtain ⟨hdeeds, hresult⟩ := hruns hboth
      refine ⟨?_, ?_⟩
      · rw [hdeeds, hnext.deeds, List.append_assoc]
      · rw [hresult, hnext.ground]
    · obtain ⟨hcalls, text, hresult, htext⟩ := hfails hnot
      exact ⟨hcalls.trans hnext.calls, text, hresult, htext, rfl⟩
  · intro hfails
    obtain ⟨children, hbuild⟩ := build_continues env t buildDir strict w
    cases hresult : built.1 with
    | error e =>
      rw [hrun, afterBuild_of_error hresult]
      exact ⟨children, hbuild⟩
    | ok u =>
      obtain ⟨e, he⟩ := hfails.resolve_left fun ⟨e, he⟩ => nomatch hresult.symm.trans he
      have hlog := logDiscovery_continues env.runner env buildDir layout built.2
      rw [hrun, afterBuild_of_ok hresult, findAndLaunch, show resolve _ _ _ _ = _ from he]
      exact ⟨children ++ [], hbuild.trans hlog⟩

/-- A file system with one test. -/
def sortTest : FileSystem where
  cwd := []
  tree :=
    let tests : FileName := ⟨utf8 "test_bin", by decide⟩
    { entries := [([tests], .directory), ([⟨utf8 "sort", by decide⟩, tests], .file [] true)]
      distinct := by decide }

/-- An output that has room for all but the newline, one that cannot be flushed, and one that has
room for just the line. -/
theorem runOne_sortTest :
    let env (flushFails : Bool) : Env Unit (Option Nat) :=
      ⟨Rule.runner [], Sink.limited flushFails, .one, []⟩
    let t : Toolchain := ⟨utf8 "cmake", utf8 "ctest", utf8 ".", .one⟩
    let steps := [t.configure (utf8 "/"), t.compile (utf8 "/")]
    let run (flushFails : Bool) (room : Option Nat) :=
      runOne (env flushFails) t (utf8 "/") .testBin "sort" false ⟨sortTest, (), room, []⟩
    (written (run false (some 14)).2.history = utf8 "/test_bin/sort" ∧
      calls (run false (some 14)).2.history = steps ∧
      (run false (some 14)).1 = .error (.pathRefused "sink full")) ∧
    (calls (run true none).2.history = steps ∧
      (run true none).1 = .error (.pathRefused "flush failed")) ∧
    deeds (run false (some 15)).2.history =
      steps.map .called ++
        [.wrote (utf8 "/test_bin/sort\n"), .flushed none, .called ⟨utf8 "/test_bin/sort", []⟩] := by
  intro env t steps run
  have hbuilt (flushFails : Bool) (room : Option Nat) :
      (build (env flushFails) t (utf8 "/") false ⟨sortTest, (), room, []⟩).1 = .ok () :=
    (build_permissive (env flushFails) t (utf8 "/") _).1
  have hfound : resolve sortTest (utf8 "/") .testBin "sort" = .ok (utf8 "/test_bin/sort") := rfl
  have h (flushFails : Bool) (room : Option Nat) :=
    (runOne_announces (env flushFails) t (utf8 "/") .testBin "sort" false
      ⟨sortTest, (), room, []⟩ room Sink.fullReason (Sink.hasRoom_limited flushFails room)).1
      (utf8 "/test_bin/sort") (hbuilt flushFails room) hfound
  refine ⟨⟨?_, ?_, ?_⟩, ⟨?_, ?_⟩, ?_⟩
  · exact (h false (some 14)).1
  · exact ((h false (some 14)).2.2 (by decide)).1
  · obtain ⟨text, hresult, htext, -⟩ := ((h false (some 14)).2.2 (by decide)).2
    obtain rfl : text = Sink.fullReason := htext
    exact hresult
  · exact ((h true none).2.2 (by decide)).1
  · obtain ⟨text, hresult, htext, -⟩ := ((h true none).2.2 (by decide)).2
    have hreason : some Sink.flushReason = some text := htext
    obtain rfl : Sink.flushReason = text := Option.some.inj hreason
    exact hresult
  · exact ((h false (some 15)).2.1 (by decide)).1

end Testbed
