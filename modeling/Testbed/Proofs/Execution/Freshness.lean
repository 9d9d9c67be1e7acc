import Testbed.Proofs.Discovery.Naming
import Testbed.Proofs.Execution.Output
import Testbed.Proofs.FileSystem.Effects

/-!
# What a build leaves is what a test is run from

The test that is to be run is looked up only once the project is built, on the files as the build
left them. So a binary that the build wrote last is run, and one that it removed last is not
found, whatever the files were before.

* `runOne_of_permissive`: running one test builds first and then looks it up on what the build
  left.
* `resolve_of_write` and `resolve_of_remove`: the answer to a name whose file was written or
  removed last.
* `runOne_after_build` puts them together.
-/

namespace Testbed

variable {σ τ : Type}

/-! ## The name of a test -/

/-- A text that can be the name of a test and of no other: it names an entry of a directory and
holds no replacement character. -/
structure IsTestName (name : String) : Prop where
  ne_empty : name ≠ ""
  slash : '/' ∉ name.toList
  ne_self : name ≠ "."
  ne_parent : name ≠ ".."
  text : Text.replacement ∉ name.toList

namespace IsTestName

variable {name : String} (h : IsTestName name)

include h

theorem namesEntry : NamesEntry (utf8 name) where
  ne_nil e := h.ne_empty (Text.utf8_injective (t := "") e)
  slash e := h.slash ((Text.mem_utf8_iff (by decide) name).mp e)
  ne_self e := h.ne_self (Text.utf8_injective (t := ".") e)
  ne_parent e := h.ne_parent (Text.utf8_injective (t := "..") e)

theorem clean : Layout.testBin.Clean name where
  text := h.text
  shown hne := absurd rfl hne

end IsTestName

/-! ## The directory of the tests -/

theorem testBin_root_ne_nil (buildDir : Path) : Layout.testBin.root buildDir ≠ [] :=
  Path.join_ne_nil Layout.testBinName.namesEntry buildDir

theorem endsWithSlash_testBin_root (buildDir : Path) :
    (Layout.testBin.root buildDir).endsWithSlash = false :=
  Path.endsWithSlash_join Layout.testBinName.namesEntry buildDir

/-- The path of the binary of a test. -/
def binaryPath (buildDir : Path) (name : String) : Path :=
  Path.join (Layout.testBin.root buildDir) (utf8 name)

section

variable {before after : FileSystem} {buildDir : Path} {name : String} (h : IsTestName name)

include h

/-- A binary that was written last is found under its name. -/
theorem resolve_of_write {content : Bytes} {executable : Bool}
    (hwrite : (Effect.write (binaryPath buildDir name) content executable).apply before =
      (.ok (), after)) :
    resolve after buildDir .testBin name = .ok (binaryPath buildDir name) := by
  obtain ⟨names, entry, hbytes, hlist, hmem⟩ :=
    FileSystem.mem_list_of_write (testBin_root_ne_nil buildDir)
      (endsWithSlash_testBin_root buildDir) h.namesEntry hwrite
  have hin : entry ∈ after.namesIn (Layout.testBin.root buildDir) :=
    FileSystem.mem_namesIn_iff.mpr ⟨names, hlist, hmem⟩
  rw [resolve_eq_answer (isFirst_clean h.clean hbytes hin), hbytes]
  rfl

/-- The name of a binary that was removed last is not found. -/
theorem resolve_of_remove
    (hremove : (Effect.remove (binaryPath buildDir name)).apply before = (.ok (), after)) :
    resolve after buildDir .testBin name = .error (.notFound name) := by
  rw [resolve_eq_notFound_iff, discover_eq_map]
  refine ⟨rfl, ?_⟩
  intro target htarget hname
  obtain ⟨entry, hentry, rfl⟩ := List.mem_map.mp htarget
  have hbytes : entry.bytes = utf8 name := Text.eq_utf8_of_lossy hname h.text
  obtain ⟨names, hlist, hmem⟩ :=
    FileSystem.mem_namesIn_iff.mp (List.mem_filter.mp hentry).1
  exact FileSystem.notMem_list_of_remove (testBin_root_ne_nil buildDir)
    (endsWithSlash_testBin_root buildDir) h.namesEntry hremove hlist entry hmem hbytes

end

/-! ## Running one test -/

/-- Without strictness a test is looked up after the two steps of the build, on what they left. -/
theorem runOne_of_permissive (env : Env σ τ) (t : Toolchain) (buildDir : Path) (layout : Layout)
    (name : String) (w : World σ τ) :
    ∃ w' : World σ τ,
      Continues env.runner [t.configure buildDir, t.compile buildDir] w w' ∧
        runOne env t buildDir layout name false w = findAndLaunch env buildDir layout name w' := by
  obtain ⟨hok, hnext⟩ := build_permissive env t buildDir w
  exact ⟨_, hnext, by rw [runOne_eq_afterBuild, afterBuild_of_ok hok]⟩

/-- **What a build leaves is what a test is run from.** If the last thing that the build did to
the files was to write the binary of the test, its path is written, the output is flushed and the
binary is run; and if it was to remove that binary, the test is not found, and nothing is written
or run after the build. -/
theorem runOne_after_build (env : Env σ τ) (t : Toolchain) (buildDir : Path) (name : String)
    (w : World σ τ) (hname : IsTestName name) (hsink : env.sink.Unfailing w.sink) :
    let steps := [t.configure buildDir, t.compile buildDir]
    let path := binaryPath buildDir name
    let run := runOne env t buildDir .testBin name false w
    (∀ before content executable,
      (Effect.write path content executable).apply before =
          (.ok (), (env.runner.leave w.ground steps).files) →
        written run.2.history = written w.history ++ lineOf (Text.lossy path) ∧
        calls run.2.history = calls w.history ++ steps ++ [⟨path, []⟩] ∧
        deeds run.2.history = deeds w.history ++ steps.map .called ++
          [.wrote (lineOf (Text.lossy path)), .flushed none, .called ⟨path, []⟩]) ∧
    (∀ before,
      (Effect.remove path).apply before = (.ok (), (env.runner.leave w.ground steps).files) →
        run.1 = .error (.unresolved (.notFound name)) ∧
        written run.2.history = written w.history ∧
        calls run.2.history = calls w.history ++ steps) := by
  intro steps path run
  obtain ⟨w', hnext, hrun⟩ := runOne_of_permissive env t buildDir .testBin name w
  refine ⟨?_, ?_⟩
  · intro before content executable hwrite
    rw [← hnext.files] at hwrite
    have hall : deeds run.2.history = deeds w.history ++ steps.map .called ++
        [.wrote (lineOf (Text.lossy path)), .flushed none, .called ⟨path, []⟩] := by
      have hsink' : env.sink.Unfailing w'.sink := hnext.sink ▸ hsink
      rw [← hnext.deeds, ← deeds_findAndLaunch env hsink' (resolve_of_write hname hwrite)]
      exact congrArg (fun r => deeds r.2.history) hrun
    refine ⟨?_, ?_, hall⟩
    · rw [← written_deeds, hall, written_append, written_append, written_deeds,
        written_map_called, List.append_nil]
      exact congrArg (written w.history ++ ·) (List.append_nil _)
    · rw [← calls_deeds, hall, calls_append, calls_append, calls_deeds, calls_map_called]
      rfl
  · intro before hremove
    rw [← hnext.files] at hremove
    obtain ⟨herror, hrest⟩ := findAndLaunch_of_error env (resolve_of_remove hname hremove)
    have hall := hnext.trans hrest
    rw [← hrun] at herror hall
    exact ⟨herror, hall.written, hall.calls.trans (by rw [List.append_nil])⟩

/-- The runner that makes one change to the files at each call, as long as there are any. -/
def makingChanges (code : Int) : Runner (List Effect) where
  call _ changes files :=
    match changes with
    | [] => ⟨.ok code, [], [], files⟩
    | e :: rest => ⟨.ok code, [], rest, (e.apply files).2⟩

/-- Two children make two changes, one after the other. -/
theorem apply_makingChanges {code : Int} {first second : Effect} (fs : FileSystem)
    (i j : Invocation) (h : (second.apply (first.apply fs).2).1.isOk = true) :
    second.apply (first.apply fs).2 =
      (.ok (), ((makingChanges code).leave ⟨[first, second], fs⟩ [i, j]).files) := by
  refine Prod.ext ?_ rfl
  cases hr : (second.apply (first.apply fs).2).1 with
  | ok _ => rfl
  | error e =>
    rw [hr] at h
    exact nomatch h

/-- A build directory in which the directory of the tests is a link, under which an old test
stands. -/
def linkedTests : FileSystem where
  cwd := []
  tree :=
    let build : FileName := ⟨utf8 "build", by decide⟩
    let out : FileName := ⟨utf8 "out", by decide⟩
    { entries :=
        [([build], .directory), ([out], .directory),
         ([Layout.testBinName, build], .link (utf8 "../out")),
         ([⟨utf8 "heap", by decide⟩, out], .file [] true)]
      distinct := by decide }

/-- A test that the compiling child writes is run, and one that it removes is not found. -/
theorem runOne_linkedTests :
    let env : Env (List Effect) (Option Nat) := ⟨makingChanges 2, Sink.unlimited, .one, []⟩
    let t : Toolchain := ⟨utf8 "cmake", utf8 "ctest", utf8 ".", .one⟩
    let write (name : String) : Effect := .write (binaryPath (utf8 "/build") name) [] true
    let remove (name : String) : Effect := .remove (binaryPath (utf8 "/build") name)
    calls (runOne env t (utf8 "/build") .testBin "queue" false
        ⟨linkedTests, [remove "heap", write "queue"], none, []⟩).2.history =
      [t.configure (utf8 "/build"), t.compile (utf8 "/build"),
        ⟨utf8 "/build/test_bin/queue", []⟩] ∧
    (runOne env t (utf8 "/build") .testBin "heap" false
        ⟨linkedTests, [write "queue", remove "heap"], none, []⟩).1 =
      .error (.unresolved (.notFound "heap")) := by
  intro env t write remove
  have hwritten : ((write "queue").apply ((remove "heap").apply linkedTests).2).1.isOk = true := by
    decide +kernel
  have hremoved : ((remove "heap").apply ((write "queue").apply linkedTests).2).1.isOk = true := by
    decide +kernel
  have hpath : binaryPath (utf8 "/build") "queue" = utf8 "/build/test_bin/queue" := by decide
  refine ⟨?_, ?_⟩
  · have h := ((runOne_after_build env t (utf8 "/build") "queue"
      ⟨linkedTests, [remove "heap", write "queue"], none, []⟩
      ⟨by decide, by decide, by decide, by decide, by decide⟩ unfailing_unlimited).1 _ [] true
      (apply_makingChanges linkedTests _ _ hwritten)).2.1
    rw [hpath] at h
    exact h
  · exact ((runOne_after_build env t (utf8 "/build") "heap"
      ⟨linkedTests, [write "queue", remove "heap"], none, []⟩
      ⟨by decide, by decide, by decide, by decide, by decide⟩ unfailing_unlimited).2 _
      (apply_makingChanges linkedTests _ _ hremoved)).1

end Testbed
