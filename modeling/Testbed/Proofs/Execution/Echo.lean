import Testbed.Proofs.Execution.Announcing
import Testbed.Proofs.Execution.Binary
import Testbed.Proofs.Execution.Output

/-!
# The line that announces a test

Before a test binary is run, the path of its entry is written as text. The name that was asked for
is the text of the last part of that path alone. A slash closes whatever stands open before it, so
the text of the whole path is that of the directory, a slash and the name: bytes that are no text,
in the build directory or in the entry, never change where the parts meet. The binary itself is run
by the bytes of its entry.

* `lossy_join`: the text of a joined path.
* `exists_testEntry_of_resolve`: the path that a name leads to, by its bytes and as text.
* `Sink.announcement` is what comes of offering a line to an output before a child is called, and
  `deeds_announceAndLaunch` says that announcing a binary does just that.
* `runOne_echoes` is the result for running one test.
-/

namespace Testbed

variable {σ τ : Type}

/-! ## The text of a joined path -/

/-- The text of a joined path is the text of its parts with that of the glue between them, whatever
stands open at the end of the left one. -/
theorem lossy_join {right : Path} (h : Path.isAbsolute right = false) (left : Path) :
    Text.lossy (Path.join left right) =
      Text.lossy left ++ Text.lossy (Path.glue left) ++ Text.lossy right := by
  have hslash : Text.lossy [slash] = "/" := Text.lossy_utf8 "/"
  have hcut (front back : Bytes) :
      Text.lossy (front ++ slash :: back) = Text.lossy front ++ "/" ++ Text.lossy back :=
    Text.lossy_append_ascii front (by decide) back
  rw [Path.join_relative h, Path.glue]
  split
  · next hnone =>
    rw [List.append_nil, show Text.lossy [] = "" from rfl, String.append_empty]
    rcases hnone with rfl | hlast
    · exact (String.empty_append).symm
    · -- The slash at the end of the left part closes what stands open there.
      obtain ⟨front, rfl⟩ := List.getLast?_eq_some_iff.mp hlast
      rw [← List.append_cons, hcut, hcut front [], show Text.lossy [] = "" from rfl,
        String.append_empty]
  · rw [← List.append_cons, hcut, hslash]

theorem lossy_testBin_root (buildDir : Path) :
    Text.lossy (Layout.testBin.root buildDir) =
      Text.lossy buildDir ++ Text.lossy (Path.glue buildDir) ++ Layout.testBinDir := by
  rw [Layout.root, lossy_join rfl, Text.lossy_utf8]

/-- The path of an entry of the test directory is that of the directory, a slash and the name of the
entry. -/
theorem join_testBin_root (buildDir : Path) (entry : FileName) :
    Path.join (Layout.testBin.root buildDir) entry.bytes =
      Layout.testBin.root buildDir ++ slash :: entry.bytes := by
  have hglue : Path.glue (Layout.testBin.root buildDir) = [slash] := by
    rw [Layout.root, Path.join_relative rfl, Path.glue_append]
    rfl
  rw [Path.join_eq entry.namesEntry, hglue, ← List.append_cons]

/-- What a name leads to in the test directory is an entry that reads as the name, so the text of
its path is that of the directory, a slash and the name. -/
theorem exists_testEntry_of_resolve {fs : FileSystem} {buildDir : Path} {name : String} {p : Path}
    (h : resolve fs buildDir .testBin name = .ok p) :
    let root := Layout.testBin.root buildDir
    (∃ entry ∈ fs.namesIn root, Text.lossy entry.bytes = name ∧ p = root ++ slash :: entry.bytes) ∧
      Text.lossy p = Text.lossy root ++ "/" ++ name := by
  intro root
  obtain ⟨directory, entry, ⟨rfl, rfl⟩, hentry, rfl⟩ := exists_keeps_of_resolve h
  rw [join_testBin_root]
  exact ⟨⟨entry, hentry, rfl, rfl⟩, Text.lossy_append_ascii root (by decide) entry.bytes⟩

/-! ## What is done to announce a binary -/

/-- What comes of offering a line to an output before a child is called: it takes a part of the
line, or it takes all of it and is flushed, and if it can be flushed the child is called. -/
def Sink.announcement (s : Sink τ) (line : Bytes) (i : Invocation) (state : τ) : List Event :=
  match s.offer line state with
  | (.part count _, _) => [.wrote (line.take count)]
  | (.all, state) =>
    .wrote line :: .flushed (s.flush state).1 ::
      if (s.flush state).1 = none then [.called i] else []

/-- Announcing a binary does nothing else, whatever the output does. -/
theorem deeds_announceAndLaunch (env : Env σ τ) (binary : Path) (w : World σ τ) :
    deeds (announceAndLaunch env binary w).2.history =
      deeds w.history ++
        env.sink.announcement (lineOf (Text.lossy binary)) ⟨binary, []⟩ w.sink := by
  unfold Sink.announcement
  rcases announceAndLaunch_cases env binary w with ⟨count, reason, sink, ho, heq⟩ |
    ⟨sink, reason, sink', ho, hf, heq⟩ | ⟨sink, sink', ho, hf, heq⟩
  · rw [heq, ho, deeds_append]
    rfl
  · rw [heq, ho, deeds_append]
    simp only [hf]
    rfl
  · rw [heq, ho, (launch_continues env ⟨binary, []⟩ _).deeds, deeds_append, List.append_assoc]
    simp only [hf]
    rfl

/-- What is written to announce a binary is what the output takes of the line. -/
theorem written_announcement (s : Sink τ) (line : Bytes) (i : Invocation) (state : τ) :
    written (s.announcement line i state) = (s.offer line state).1.taken line := by
  unfold Sink.announcement
  rcases s.offer line state with ⟨_ | ⟨count, reason⟩, state'⟩
  · show written (.wrote line :: .flushed (s.flush state').1 ::
      if (s.flush state').1 = none then [.called i] else []) = line
    split <;> exact List.append_nil line
  · exact List.append_nil (line.take count)

/-- An output takes what it is offered from the front. -/
theorem Acceptance.isPrefix_taken (a : Acceptance) (bytes : Bytes) : a.taken bytes <+: bytes := by
  cases a with
  | all => exact List.prefix_rfl
  | part count reason => exact List.take_prefix count bytes

/-! ## Running one test -/

section

variable {env : Env σ τ} {t : Toolchain} {buildDir : Path} {layout : Layout} {name : String}
  {strict : Bool} {w : World σ τ}

/-- Where a binary is found, running the test calls the steps of the build and announces it. -/
theorem deeds_runOne_of_found {binary : Path}
    (hbuilt : (build env t buildDir strict w).1 = .ok ())
    (hfound : resolve (build env t buildDir strict w).2.files buildDir layout name = .ok binary) :
    deeds (runOne env t buildDir layout name strict w).2.history =
      deeds w.history ++ ([t.configure buildDir, t.compile buildDir].map .called ++
        env.sink.announcement (lineOf (Text.lossy binary)) ⟨binary, []⟩ w.sink) := by
  obtain ⟨v, hnext, hrun⟩ := runOne_of_found hbuilt hfound
  rw [hrun, deeds_announceAndLaunch, hnext.deeds, hnext.sink, List.append_assoc]

/-- Where none is found, it does nothing but call steps of the build. -/
theorem runOne_continues_of_not_found
    (h : (build env t buildDir strict w).1 = .ok () →
      ∃ e, resolve (build env t buildDir strict w).2.files buildDir layout name = .error e) :
    ∃ steps, Continues env.runner steps w (runOne env t buildDir layout name strict w).2 := by
  obtain ⟨steps, hbuild⟩ := build_continues env t buildDir strict w
  rw [runOne_eq_afterBuild]
  cases hbuilt : (build env t buildDir strict w).1 with
  | error e =>
    rw [afterBuild_of_error hbuilt]
    exact ⟨steps, hbuild⟩
  | ok u =>
    obtain ⟨e, he⟩ := h hbuilt
    rw [afterBuild_of_ok hbuilt]
    exact ⟨steps ++ [], hbuild.trans (findAndLaunch_of_error env he).2⟩

end

/-- **The line that announces a test.** Once the project is built and the name leads to a binary in
the test directory, this is an entry whose name reads as what was asked for, and the line that is
offered to the output is the text of the test directory, a slash, and what was asked for, whatever
the bytes of the entry are. If the output takes all of it and can be flushed, the binary is called
by the bytes of the entry. The text of the test directory is that of the build directory and
`test_bin` with what stands between them. So running a test writes that line or the front of it, or
nothing. -/
theorem runOne_echoes (env : Env σ τ) (t : Toolchain) (buildDir : Path) (name : String)
    (strict : Bool) (w : World σ τ) :
    let root := Layout.testBin.root buildDir
    let line := lineOf (Text.lossy root ++ "/" ++ name)
    let built := build env t buildDir strict w
    let found := resolve built.2.files buildDir .testBin name
    let run := runOne env t buildDir .testBin name strict w
    (∀ p, built.1 = .ok () → found = .ok p →
      ∃ entry ∈ built.2.files.namesIn root, Text.lossy entry.bytes = name ∧
        p = root ++ slash :: entry.bytes ∧
        deeds run.2.history = deeds w.history ++
          ([t.configure buildDir, t.compile buildDir].map .called ++
            env.sink.announcement line ⟨root ++ slash :: entry.bytes, []⟩ w.sink)) ∧
    (∃ text, written run.2.history = written w.history ++ text ∧ text <+: line) ∧
    ((built.1 = .ok () → ∃ e, found = .error e) → written run.2.history = written w.history) ∧
    Text.lossy root =
      Text.lossy buildDir ++ Text.lossy (Path.glue buildDir) ++ "test_bin" := by
  intro root line built found run
  have hquiet : (built.1 = .ok () → ∃ e, found = .error e) →
      written run.2.history = written w.history := by
    intro h
    obtain ⟨steps, hnext⟩ := runOne_continues_of_not_found h
    exact hnext.written
  have hdeeds (p : Path) (hbuilt : built.1 = .ok ()) (hp : found = .ok p) :
      deeds run.2.history = deeds w.history ++
        ([t.configure buildDir, t.compile buildDir].map .called ++
          env.sink.announcement line ⟨p, []⟩ w.sink) := by
    have hline : lineOf (Text.lossy p) = line :=
      congrArg lineOf (exists_testEntry_of_resolve hp).2
    rw [← hline]
    exact deeds_runOne_of_found hbuilt hp
  refine ⟨fun p hbuilt hp => ?_, ?_, hquiet, lossy_testBin_root buildDir⟩
  · obtain ⟨entry, hentry, hname, rfl⟩ := (exists_testEntry_of_resolve hp).1
    exact ⟨entry, hentry, hname, rfl, hdeeds _ hbuilt hp⟩
  · by_cases h : built.1 = .ok () → ∃ e, found = .error e
    · exact ⟨[], (hquiet h).trans (List.append_nil _).symm, List.nil_prefix⟩
    · obtain ⟨hbuilt, hnone⟩ := Classical.not_imp.mp h
      cases hp : found with
      | error e => exact absurd ⟨e, hp⟩ hnone
      | ok p =>
        refine ⟨_, ?_, (env.sink.offer line w.sink).1.isPrefix_taken line⟩
        rw [← written_deeds, hdeeds p hbuilt hp, written_append, written_append,
          written_map_called, written_deeds, List.nil_append, written_announcement]

/-- A test whose name breaks off within a character, in a build directory whose name does so too. -/
def brokenTest : FileSystem where
  cwd := []
  tree :=
    let build : FileName := ⟨[0xC3], by decide⟩
    { entries :=
        [([build], .directory), ([Layout.testBinName, build], .directory),
         ([⟨[0x68, 0xE2, 0x82], by decide⟩, Layout.testBinName, build], .file [] true)]
      distinct := by decide }

/-- The line for it has one replacement character for each name, and the binary is called by the
bytes as they are. -/
theorem runOne_brokenTest :
    let env : Env Unit (Option Nat) := ⟨Rule.runner [], Sink.unlimited, .one, []⟩
    let t : Toolchain := ⟨utf8 "cmake", utf8 "ctest", utf8 ".", .one⟩
    let build : Path := [slash, 0xC3]
    deeds (runOne env t build .testBin "h\uFFFD" false ⟨brokenTest, (), none, []⟩).2.history =
      [.called (t.configure build), .called (t.compile build),
        .wrote (utf8 "/\uFFFD/test_bin/h\uFFFD\n"), .flushed none,
        .called ⟨[slash, 0xC3] ++ utf8 "/test_bin/h" ++ [0xE2, 0x82], []⟩] := by
  intro env t build
  let p : Path := [slash, 0xC3] ++ utf8 "/test_bin/h" ++ [0xE2, 0x82]
  have hbuilt : (Testbed.build env t build false ⟨brokenTest, (), none, []⟩).1 = .ok () :=
    (build_permissive env t build _).1
  have hfiles : (Testbed.build env t build false ⟨brokenTest, (), none, []⟩).2.files =
      brokenTest := (build_permissive env t build _).2.files
  have hfound : resolve brokenTest build .testBin "h\uFFFD" = .ok p := rfl
  have hline : lineOf (Text.lossy (Layout.testBin.root build) ++ "/" ++ "h\uFFFD") =
      utf8 "/\uFFFD/test_bin/h\uFFFD\n" := by decide
  obtain ⟨entry, -, -, hp, hdeeds⟩ := (runOne_echoes env t build "h\uFFFD" false
    ⟨brokenTest, (), none, []⟩).1 p hbuilt (hfiles ▸ hfound)
  rw [hline, ← hp] at hdeeds
  exact hdeeds

end Testbed
