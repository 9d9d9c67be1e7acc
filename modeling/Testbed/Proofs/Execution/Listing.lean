import Testbed.Host.Work.Lines
import Testbed.Proofs.Discovery.Naming
import Testbed.Proofs.Execution.Output

/-!
# Reading a listing back

A listing writes every name and a newline after it. So its lines are the names exactly if no name
holds a newline. A file name may hold one, and then the name stands on several lines, each of
which reads like the name of a test.

* `Lines.length_of_join` counts the lines of a text that was put together from lines, and
  `Lines.of_join_iff` says when they are the same lines.
* `lines_listTests`: what the lines of a listing are.
* `lines_brokenName`: a listing of one test in two lines, neither of which is the name of a test.
-/

namespace Testbed

variable {σ τ : Type}

/-! ## Lines put together -/

namespace Host.Lines

theorem join_cons (line : Bytes) (rest : List Bytes) :
    join (line :: rest) = line ++ 10 :: join rest := by
  simp [join]

/-- A newline ends the line before it. -/
theorem of_append_newline {line : Bytes} (h : 10 ∉ line) (rest : Bytes) :
    of (line ++ 10 :: rest) = line :: of rest := by
  induction line with
  | nil => rfl
  | cons b line ih =>
    simp only [List.mem_cons, not_or] at h
    rw [List.cons_append, of, if_neg fun e => h.1 e.symm, ih h.2]

/-- No line holds a newline. -/
theorem newline_notMem_of (text : Bytes) : ∀ line ∈ of text, (10 : UInt8) ∉ line := by
  induction text with
  | nil => exact fun line h => absurd h List.not_mem_nil
  | cons b rest ih =>
    intro line h
    rw [of] at h
    by_cases hb : b = 10
    · rw [if_pos hb] at h
      rcases List.mem_cons.mp h with rfl | h
      · exact List.not_mem_nil
      · exact ih line h
    · rw [if_neg hb] at h
      cases ho : of rest with
      | nil =>
        rw [ho] at h
        obtain rfl := List.mem_singleton.mp h
        exact fun hmem => hb (List.mem_singleton.mp hmem).symm
      | cons first more =>
        rw [ho] at h ih
        rcases List.mem_cons.mp h with rfl | h
        · have hfirst := ih first List.mem_cons_self
          exact fun hmem => (List.mem_cons.mp hmem).elim (fun e => hb e.symm) hfirst
        · exact ih line (List.mem_cons_of_mem _ h)

/-- Up to a newline a text has one line, and one more for each newline before it. -/
theorem length_of_append_newline (line rest : Bytes) :
    (of (line ++ 10 :: rest)).length = line.count 10 + 1 + (of rest).length := by
  induction line with
  | nil => simp [of, Nat.add_comm]
  | cons b line ih =>
    rw [List.cons_append, of]
    by_cases hb : b = 10
    · rw [if_pos hb, List.length_cons, ih, hb, List.count_cons_self]
      omega
    · rw [if_neg hb, List.count_cons_of_ne hb, ← ih]
      cases ho : of (line ++ 10 :: rest) with
      | nil =>
        rw [ho] at ih
        simp only [List.length_nil] at ih
        omega
      | cons first more => rfl

/-- Lines that were put together have one line each, and one more for each newline in them. -/
theorem length_of_join (lines : List Bytes) :
    (of (join lines)).length = lines.length + lines.flatten.count 10 := by
  induction lines with
  | nil => rfl
  | cons line rest ih =>
    rw [join_cons, length_of_append_newline, ih, List.flatten_cons, List.count_append,
      List.length_cons]
    omega

/-- Lines that were put together can be told apart again exactly if none holds a newline. -/
theorem of_join_iff (lines : List Bytes) :
    of (join lines) = lines ↔ ∀ line ∈ lines, (10 : UInt8) ∉ line := by
  constructor
  · intro h
    rw [← h]
    exact newline_notMem_of (join lines)
  · intro h
    induction lines with
    | nil => rfl
    | cons line rest ih =>
      rw [join_cons, of_append_newline (h line List.mem_cons_self),
        ih fun l hl => h l (List.mem_cons_of_mem _ hl)]

end Host.Lines

/-! ## The lines of a listing -/

/-- The text of a listing is made of the names as lines. -/
theorem flatMap_lineOf (names : List String) :
    names.flatMap lineOf = Host.Lines.join (names.map utf8) := by
  rw [Host.Lines.join, List.flatMap_map]
  rfl

theorem newline_notMem_map_iff (names : List String) :
    (∀ line ∈ names.map utf8, (10 : UInt8) ∉ line) ↔ ∀ name ∈ names, '\n' ∉ name.toList := by
  simp only [List.forall_mem_map]
  refine forall₂_congr fun name _ => not_congr ?_
  exact Text.mem_utf8_iff (by decide) name

/-- A listing writes the names of the targets, each on a line, and does nothing else. -/
theorem listTests_of_unfailing (env : Env σ τ) {buildDir : Path} {layout : Layout} {w : World σ τ}
    (hsink : env.sink.Unfailing w.sink) (htargets : discover w.files buildDir layout ≠ []) :
    (listTests env buildDir layout w).1 = .ok successCode ∧
      (listTests env buildDir layout w).2.ground = w.ground ∧
      calls (listTests env buildDir layout w).2.history = calls w.history ∧
      written (listTests env buildDir layout w).2.history =
        written w.history ++
          ((discover w.files buildDir layout).map TestTarget.name).flatMap lineOf := by
  have hlog := logDiscovery_continues env.runner env buildDir layout w
  have hempty : ¬ (discover w.files buildDir layout).isEmpty = true := by
    rwa [List.isEmpty_iff]
  rw [listTests, if_neg hempty]
  obtain ⟨hok, hground, hdeeds⟩ := writeNames_of_unfailing env
    ((discover w.files buildDir layout).map TestTarget.name)
    (w := logDiscovery env buildDir layout w) (hlog.sink ▸ hsink)
  refine ⟨hok, hground.trans hlog.ground, ?_, ?_⟩
  · rw [calls_writeNames, hlog.calls, List.append_nil]
  · rw [← written_deeds, hdeeds, written_append, written_deeds, hlog.written, written_map_wrote]

/-- **The lines of a listing.** Where there is anything to list and the output takes everything,
the listing succeeds, and there is a line for each test and one more for each newline in a name.
So the lines are the names of the tests, in order, exactly if no name holds a newline, and only
then are there as many; every line is then the name of a test that is found. -/
theorem lines_listTests (env : Env σ τ) (buildDir : Path) (layout : Layout) (w : World σ τ)
    (hsink : env.sink.Unfailing w.sink) (htargets : discover w.files buildDir layout ≠ []) :
    let names := (discover w.files buildDir layout).map TestTarget.name
    let run := listTests env buildDir layout w
    run.1 = .ok successCode ∧ run.2.files = w.files ∧ calls run.2.history = calls w.history ∧
    ∃ text, written run.2.history = written w.history ++ text ∧
      (Host.Lines.of text = names.map utf8 ↔ ∀ name ∈ names, '\n' ∉ name.toList) ∧
      ((Host.Lines.of text).length = names.length ↔ ∀ name ∈ names, '\n' ∉ name.toList) ∧
      ((∀ name ∈ names, '\n' ∉ name.toList) →
        ∀ line ∈ Host.Lines.of text, ∃ name, line = utf8 name ∧
          ∀ n, resolve w.files buildDir layout name ≠ .error (.notFound n)) := by
  intro names run
  obtain ⟨hok, hground, hcalls, hwritten⟩ := listTests_of_unfailing env hsink htargets
  have hlines : Host.Lines.of (names.flatMap lineOf) = names.map utf8 ↔
      ∀ name ∈ names, '\n' ∉ name.toList := by
    rw [flatMap_lineOf, Host.Lines.of_join_iff, newline_notMem_map_iff]
  refine ⟨hok, congrArg Ground.files hground, hcalls, _, hwritten, hlines, ?_, ?_⟩
  · rw [flatMap_lineOf, Host.Lines.length_of_join, List.length_map, ← newline_notMem_map_iff,
      Nat.add_eq_left, List.count_eq_zero]
    simp only [List.mem_flatten, not_exists, not_and]
    exact Iff.rfl
  · intro hclean line hline
    rw [hlines.mpr hclean] at hline
    obtain ⟨name, hname, rfl⟩ := List.mem_map.mp hline
    refine ⟨name, rfl, fun n hn => ?_⟩
    obtain ⟨target, htarget, rfl⟩ := List.mem_map.mp hname
    exact ((resolve_eq_notFound_iff w.files buildDir layout target.name n).mp hn).2 target htarget
      rfl

/-- The runner whose children do nothing. -/
def idle : Runner Unit where
  call _ _ files := ⟨.ok 0, [], (), files⟩

/-- Two tests with plain names. -/
def plainTests : FileSystem where
  cwd := []
  tree :=
    { entries :=
        [([Layout.testBinName], .directory),
         ([⟨utf8 "list", by decide⟩, Layout.testBinName], .file [] true),
         ([⟨utf8 "hash map", by decide⟩, Layout.testBinName], .file [] true)]
      distinct := by decide }

/-- The listing of two tests with plain names has their names as its lines. -/
theorem lines_plainTests :
    let env : Env Unit (Option Nat) := ⟨idle, Sink.unlimited, .one, []⟩
    Host.Lines.of
        (written (listTests env (utf8 "/") .testBin ⟨plainTests, (), none, []⟩).2.history) =
      [utf8 "list", utf8 "hash map"] := by
  intro env
  have hdiscover : (discover plainTests (utf8 "/") .testBin).map TestTarget.name =
      ["list", "hash map"] := by decide
  have hne : discover plainTests (utf8 "/") .testBin ≠ [] := by decide
  obtain ⟨-, -, -, text, hwritten, hlines, -⟩ :=
    lines_listTests env (utf8 "/") .testBin ⟨plainTests, (), none, []⟩ unfailing_unlimited hne
  simp only [hdiscover] at hlines
  rw [hwritten]
  exact hlines.mpr (by decide)

/-- A test whose name holds a newline. -/
def brokenName : FileSystem where
  cwd := []
  tree :=
    { entries :=
        [([Layout.testBinName], .directory),
         ([⟨utf8 "hash\nmap", by decide⟩, Layout.testBinName], .file [] true)]
      distinct := by decide }

/-- The listing of one test whose name holds a newline has two lines, and no test has the first of
them as its name. -/
theorem lines_brokenName :
    let env : Env Unit (Option Nat) := ⟨idle, Sink.unlimited, .one, []⟩
    (discover brokenName (utf8 "/") .testBin).length = 1 ∧
    Host.Lines.of
        (written (listTests env (utf8 "/") .testBin ⟨brokenName, (), none, []⟩).2.history) =
      [utf8 "hash", utf8 "map"] ∧
    resolve brokenName (utf8 "/") .testBin "hash" = .error (.notFound "hash") := by
  refine ⟨by decide, by decide, rfl⟩

end Testbed
