import Testbed.Process.Command
import Testbed.Proofs.CommandLine.Spelling
import Testbed.Proofs.Execution.Calls

/-!
# From the command line to the children

A value that names a program or a directory goes from the command line into the command lines of the
children as one argument, byte for byte, and what the children are told is enough to tell all
settings apart. Only a zero byte gets lost, on the last part of the way: the system takes no string
that holds one, so the command with it is another one and is not started.

* `Toolchain.eq_of_commandLines`: the three command lines determine the toolchain and the build
  directory.
* `Toolchain.nul_notMem_of_mem_words` and `nul_notMem_valueIn`: zero bytes in them come from the
  arguments alone.
* `plannedCalls_cases` lists what a run that is no listing can call.
* `execute_delivers` puts them together with what a command line spells.
-/

namespace Testbed

open CommandLine

variable {σ τ : Type}

/-! ## The three command lines -/

theorem Jobs.text_injective {j k : Jobs} (h : j.text = k.text) : j = k := by
  have hcount : j.count = k.count := by
    rw [← (isDecimal_text j).value, h, (isDecimal_text k).value]
  obtain ⟨n, hpos, hle⟩ := j
  obtain rfl : n = k.count := hcount
  rfl

/-- A worker count has no zero byte. -/
theorem Jobs.nul_notMem_text (j : Jobs) : nul ∉ utf8 j.text := by
  rw [Text.mem_utf8_iff (by decide)]
  intro hmem
  have hdigit : Text.isDigit (Char.ofNat nul.toNat) = true := (isDecimal_text j).digits _ hmem
  exact absurd hdigit (by decide)

namespace Toolchain

variable {t t' : Toolchain} {directory directory' : Path}

/-- **The three command lines lose nothing.** -/
theorem eq_of_commandLines (hconfigure : t.configure directory = t'.configure directory')
    (hcompile : t.compile directory = t'.compile directory')
    (htest : t.testAll directory = t'.testAll directory') : t = t' ∧ directory = directory' := by
  obtain ⟨cmake, ctest, sourceDir, jobs⟩ := t
  obtain ⟨cmake', ctest', sourceDir', jobs'⟩ := t'
  simp only [configure, compile, testAll, Invocation.mk.injEq, List.cons.injEq] at *
  obtain ⟨rfl, -, -, rfl, -, rfl, -⟩ := hconfigure
  obtain ⟨-, -, -, -, hjobs, -⟩ := hcompile
  obtain ⟨rfl, -⟩ := htest
  obtain rfl := Jobs.text_injective (Text.utf8_injective hjobs)
  exact ⟨rfl, rfl⟩

/-- Where the toolchain and the build directory have no zero byte, no command line has one. -/
theorem nul_notMem_of_mem_words (hcmake : nul ∉ t.cmake) (hctest : nul ∉ t.ctest)
    (hsource : nul ∉ t.sourceDir) (hdirectory : nul ∉ directory) {i : Invocation}
    (hi : i ∈ [t.configure directory, t.compile directory, t.testAll directory]) :
    ∀ word ∈ i.words, nul ∉ word := by
  have hjobs := t.jobs.nul_notMem_text
  have hfixed : ∀ word ∈ [utf8 ("-DCMAKE_BUILD_TYPE=" ++ buildType), utf8 "-S", utf8 "-B",
      utf8 "--build", utf8 "-j", utf8 "--test-dir"], nul ∉ word := by decide
  simp only [List.forall_mem_cons] at hfixed
  obtain ⟨htype, hS, hB, hbuild, hj, htestDir, -⟩ := hfixed
  simp only [List.mem_cons, List.not_mem_nil, or_false] at hi
  obtain rfl | rfl | rfl := hi
  · simp [Invocation.words, configure, *]
  · simp [Invocation.words, compile, *]
  · simp [Invocation.words, testAll, *]

end Toolchain

/-! ## What a run calls -/

/-- A run that is no listing configures, then it may compile, and then call one more child, which is
the test runner where all tests are to be run. -/
theorem plannedCalls_cases (env : Env σ τ) {o : Options} (h : o.action ≠ .list) (w : World σ τ) :
    let t := o.toolchain env.hostJobs
    plannedCalls env o w = [t.configure o.build] ∨
      plannedCalls env o w = [t.configure o.build, t.compile o.build] ∨
      ∃ work, plannedCalls env o w = [t.configure o.build, t.compile o.build, work] ∧
        (o.action = .runAll → work = t.testAll o.build) := by
  unfold plannedCalls
  simp only [if_neg h]
  split
  · exact .inl rfl
  · split
    · exact .inr (.inl rfl)
    · cases hwork : workCall? env o _ w.sink with
      | none => exact .inr (.inl rfl)
      | some work =>
        refine .inr (.inr ⟨work, rfl, fun hall => ?_⟩)
        simp only [workCall?, hall] at hwork
        exact (Option.some.inj hwork).symm

/-- A run that is no listing calls what is planned for it. -/
theorem calls_execute_of_ne_list (env : Env σ τ) {o : Options} (h : o.action ≠ .list)
    (w : World σ τ) :
    calls (execute env o w).2.history = calls w.history ++ plannedCalls env o w := by
  have hlog := World.calls_log (env.within (executeSpan o.build))
    (dispatchingRecord o.action o.discoveryLayout) w
  rw [← hlog]
  exact calls_perform (env.within (executeSpan o.build)) h _

/-! ## Values without a zero byte -/

/-- Where no argument holds a zero byte, no value does. -/
theorem nul_notMem_valueIn {items : List Item} {args : List Bytes} (h : Spells items args)
    (hargs : ∀ arg ∈ args, nul ∉ arg) (v : Valued) {fallback : Bytes} (hfallback : nul ∉ fallback) :
    nul ∉ valueIn items v fallback := by
  obtain hmem | hvalue := valueIn_cases items v fallback
  · obtain hdefault | ⟨arg, harg, hsuffix⟩ := h.exists_suffix hmem
    · rw [hdefault]
      decide
    · exact fun hnul => hargs arg harg (hsuffix.subset hnul)
  · rwa [hvalue]

/-- **From the command line to the children.** An accepted command line that asks for no listing
spells one list of items, which sets no option twice. Take the programs and directories that these
items name, with the defaults for those that they do not. Whatever the host is and whatever children
and output do, the run configures, with the build system as the program, the source directory right
after `-S` and the build directory right after `-B`; then it may compile, with the same program and
the build directory right after `--build`; and then it may call one more child, which is the test
runner with the build directory right after `--test-dir` where all tests are to be run. Each value
is one argument, byte for byte. The command of an invocation has its program and its arguments
exactly if no part holds a zero byte, which is so for the three if no argument of the command line
holds one; a part that holds one is replaced by a fixed text, and the command is refused then. And
the three command lines of any two toolchains and build directories agree only if these do. -/
theorem execute_delivers {args : List Bytes} {o : Options} (h : parse args = .ok o)
    (haction : o.action ≠ .list) :
    (∃ items, Spells items args ∧ (∀ items', Spells items' args → items' = items) ∧
      (items.map Item.key).Nodup ∧
      let cmake := valueIn items .cmake (utf8 "cmake")
      let ctest := valueIn items .ctest (utf8 "ctest")
      let sourceDir := valueIn items .sourceDir (utf8 ".")
      let buildDir := valueIn items .build (utf8 "./build")
      ∀ {σ τ : Type} (env : Env σ τ) (w : World σ τ),
        let t := o.toolchain env.hostJobs
        let jobs := utf8 t.jobs.text
        let configure : Invocation :=
          ⟨cmake, [utf8 "-DCMAKE_BUILD_TYPE=Debug", utf8 "-S", sourceDir, utf8 "-B", buildDir]⟩
        let compile : Invocation := ⟨cmake, [utf8 "--build", buildDir, utf8 "-j", jobs]⟩
        let testAll : Invocation := ⟨ctest, [utf8 "-j", jobs, utf8 "--test-dir", buildDir]⟩
        (t.configure o.build = configure ∧ t.compile o.build = compile ∧
          t.testAll o.build = testAll) ∧
        (∃ plan, calls (execute env o w).2.history = calls w.history ++ plan ∧
          (plan = [configure] ∨ plan = [configure, compile] ∨
            ∃ work, plan = [configure, compile, work] ∧
              (o.action = .runAll → work = testAll))) ∧
        ((∀ arg ∈ args, nul ∉ arg) → ∀ i ∈ [configure, compile, testAll],
          i.toCommand.words = i.words)) ∧
    (∀ i : Invocation,
      (i.toCommand.words = i.words ↔ ∀ word ∈ i.words, nul ∉ word) ∧
      i.toCommand.words =
        i.words.map (fun word => if nul ∈ word then utf8 "<string-with-nul>" else word) ∧
      (i.toCommand.refused = true ↔ ∃ word ∈ i.words, nul ∈ word)) ∧
    ∀ (t t' : Toolchain) (directory directory' : Path),
      (t.configure directory = t'.configure directory' ∧
        t.compile directory = t'.compile directory' ∧
        t.testAll directory = t'.testAll directory') ↔ t = t' ∧ directory = directory' := by
  refine ⟨?_, fun i => ⟨Invocation.words_toCommand_eq_iff, ?_, Invocation.refused_toCommand_iff⟩,
    ?_⟩
  · obtain ⟨items, hspells, hnodup, hcmake, hctest, hsource, hbuild⟩ := exists_spells_of_parse h
    refine ⟨items, hspells, fun items' h' => h'.unique hspells, hnodup, ?_⟩
    intro cmake ctest sourceDir buildDir σ τ env w t jobs configure compile testAll
    have hconfigure : t.configure o.build = configure := by
      simp only [t, configure, cmake, sourceDir, buildDir, Toolchain.configure, Options.toolchain,
        hcmake, hsource, hbuild]
      rfl
    have hcompile : t.compile o.build = compile := by
      simp only [t, compile, cmake, buildDir, jobs, Toolchain.compile, Options.toolchain, hcmake,
        hbuild]
      rfl
    have htest : t.testAll o.build = testAll := by
      simp only [t, testAll, ctest, buildDir, jobs, Toolchain.testAll, Options.toolchain, hctest,
        hbuild]
      rfl
    refine ⟨⟨hconfigure, hcompile, htest⟩, ?_, fun hargs => ?_⟩
    · have hplan := plannedCalls_cases env haction w
      rw [← hconfigure, ← hcompile, ← htest]
      exact ⟨_, calls_execute_of_ne_list env haction w, hplan⟩
    · have hpath {path fallback : Path} {v : Valued} (hvalue : path = valueIn items v fallback)
          (hfallback : nul ∉ fallback) : nul ∉ path :=
        hvalue ▸ nul_notMem_valueIn hspells hargs v hfallback
      rw [← hconfigure, ← hcompile, ← htest]
      intro i hi
      refine Invocation.words_toCommand_eq_iff.mpr ?_
      exact Toolchain.nul_notMem_of_mem_words (hpath hcmake (by decide)) (hpath hctest (by decide))
        (hpath hsource (by decide)) (hpath hbuild (by decide)) hi
  · simp only [Invocation.words_toCommand, SystemString.bytes_ofBytes]
    rfl
  · intro t t' directory directory'
    constructor
    · rintro ⟨hconfigure, hcompile, htest⟩
      exact Toolchain.eq_of_commandLines hconfigure hcompile htest
    · rintro ⟨rfl, rfl⟩
      exact ⟨rfl, rfl, rfl⟩

/-- Values with dashes, an equals sign, a space and a byte that is no text. -/
theorem execute_oddValues :
    let args := [utf8 "--cmake=-=x", utf8 "-S", utf8 "a b", utf8 "-b=" ++ [0xFF], utf8 "--ctest",
      [dash], utf8 "-rj3"]
    let configure : Invocation :=
      ⟨utf8 "-=x", [utf8 "-DCMAKE_BUILD_TYPE=Debug", utf8 "-S", utf8 "a b", utf8 "-B", [0xFF]]⟩
    let compile : Invocation := ⟨utf8 "-=x", [utf8 "--build", [0xFF], utf8 "-j", utf8 "3"]⟩
    let testAll : Invocation := ⟨[dash], [utf8 "-j", utf8 "3", utf8 "--test-dir", [0xFF]]⟩
    ∃ o, parse args = .ok o ∧ ∀ {σ τ : Type} (env : Env σ τ) (w : World σ τ),
      (∃ plan, calls (execute env o w).2.history = calls w.history ++ plan ∧
        (plan = [configure] ∨ plan = [configure, compile] ∨
          plan = [configure, compile, testAll])) ∧
      ∀ i ∈ [configure, compile, testAll], i.toCommand.words = i.words := by
  intro args configure compile testAll
  let o : Options := { Options.default with
    runAll := true, jobs := some ⟨3, by decide, by decide⟩, build := [0xFF]
    sourceDir := utf8 "a b", cmake := utf8 "-=x", ctest := [dash] }
  have hparse : parse args = .ok o := rfl
  have hsteps (hostJobs : Jobs) :
      let t := o.toolchain hostJobs
      t.configure o.build = configure ∧ t.compile o.build = compile ∧
        t.testAll o.build = testAll := by
    have htext : Jobs.text ⟨3, by decide, by decide⟩ = "3" := rfl
    have hjobs : (o.toolchain hostJobs).jobs.text = "3" := htext
    simp only [Toolchain.compile, Toolchain.testAll, hjobs]
    exact ⟨rfl, rfl, rfl⟩
  have hspells : Spells [.value .cmake (utf8 "-=x"), .value .sourceDir (utf8 "a b"),
      .value .build [0xFF], .value .ctest [dash], .flag .runAll, .value .jobs (utf8 "3")] args := by
    have hsource : Letters [] (some .sourceDir) (utf8 "S") := .without ⟨'S', rfl, rfl⟩
    have hbuild : Letters [.value .build [0xFF]] none (utf8 "b=" ++ [0xFF]) :=
      .equals ⟨'b', rfl, rfl⟩
    have hrun : Letters [.flag .runAll, .value .jobs (utf8 "3")] none (utf8 "rj3") :=
      .more ⟨'r', rfl, rfl⟩ (.attached ⟨'j', rfl, rfl⟩ (by decide) (by decide))
    exact ⟨args, .cons (.complete (.attached .cmake (utf8 "-=x")))
      (.cons (.separate (.letters hsource) (by decide))
        (.cons (.complete (.letters hbuild))
          (.cons (.separate (.without .ctest) (by decide))
            (.cons (.complete (.letters hrun)) .nil)))), .inl rfl⟩
  obtain ⟨⟨items, -, hunique, -, hruns⟩, -, -⟩ := execute_delivers hparse (by decide)
  obtain rfl := hunique _ hspells
  refine ⟨o, hparse, fun env w => ?_⟩
  obtain ⟨⟨hconfigure, hcompile, htest⟩, ⟨plan, hcalls, hplan⟩, hwords⟩ := hruns env w
  rw [← hconfigure, ← hcompile, ← htest] at hplan hwords
  rw [(hsteps env.hostJobs).1, (hsteps env.hostJobs).2.1, (hsteps env.hostJobs).2.2] at hplan hwords
  refine ⟨⟨plan, hcalls, ?_⟩, hwords (by decide)⟩
  obtain h | h | ⟨work, h, hwork⟩ := hplan
  · exact .inl h
  · exact .inr (.inl h)
  · rw [hwork rfl] at h
    exact .inr (.inr h)

/-- A zero byte in an accepted value gets lost: the command has another program. -/
theorem toCommand_zeroByte :
    let i : Invocation := ⟨utf8 "a" ++ nul :: utf8 "b", [utf8 "c"]⟩
    let o : Options := { Options.default with cmake := i.program }
    i.toCommand.words = [utf8 "<string-with-nul>", utf8 "c"] ∧ i.toCommand.words ≠ i.words ∧
      parse [utf8 "--cmake=" ++ i.program] = .ok o ∧ o.action ≠ .list ∧
      ((o.toolchain .one).configure o.build).toCommand.program.bytes ≠ o.cmake := by
  refine ⟨rfl, ?_, rfl, ?_, ?_⟩ <;> decide

end Testbed
