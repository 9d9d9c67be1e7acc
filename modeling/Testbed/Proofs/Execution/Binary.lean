import Testbed.Host.Search
import Testbed.Process.Scripted
import Testbed.Proofs.Discovery.GroupBinary
import Testbed.Proofs.Execution.Calls
import Testbed.Proofs.FileSystem.Standing

/-!
# The binary that is run

The binary that a name leads to is an entry of a directory that was listed. Its path is that of the
directory joined with its name, however the path of the directory is written, so the entry stands
there. And the path holds a slash, so that it is never taken for the name of a program which is
looked up elsewhere.

* `Layout.Keeps` says in which directory a layout keeps the binary of a test, and under which name;
  `exists_keeps_of_resolve` that a name leads to nothing else.
* `slash_mem_join`: what is joined to a path that leads somewhere holds a slash.
* `Host.findProgram_of_slash` and `Host.findProgram_of_standsAt`: a program is found at a path with
  a slash and nowhere else.
* `resolve_eq_ok_standsAt` puts them together with what running one test calls.
-/

namespace Testbed

variable {σ τ : Type}

/-! ## Where a binary is kept -/

/-- A layout keeps the binary of a test in the directory at a path, as the entry of a name: in the
root, where the text of the name is that of the test; or in the `tests` of an entry of the root that
has the text of the test as its name and is not hidden, where the name is text that ends in the
suffix. -/
def Layout.Keeps (fs : FileSystem) (buildDir : Path) (name : String) (directory : Path)
    (entry : FileName) : Layout → Prop
  | .testBin =>
    directory = Layout.testBin.root buildDir ∧ Text.lossy entry.bytes = name
  | .groups groupDir suffix =>
    let root := (Layout.groups groupDir suffix).root buildDir
    (∃ group ∈ fs.namesIn root, Text.lossy group.bytes = name ∧ isHidden name = false ∧
      directory = Path.join (Path.join root group.bytes) (utf8 groupTestsDir)) ∧
    (∃ text, entry.bytes = utf8 text) ∧ utf8 suffix <:+ entry.bytes

/-- A name leads to what the layout keeps for it, by the path of the directory and the name
there. -/
theorem exists_keeps_of_resolve {fs : FileSystem} {buildDir : Path} {layout : Layout}
    {name : String} {p : Path} (h : resolve fs buildDir layout name = .ok p) :
    ∃ directory entry, layout.Keeps fs buildDir name directory entry ∧
      entry ∈ fs.namesIn directory ∧ p = Path.join directory entry.bytes := by
  cases hfind : (discover fs buildDir layout).find? (fun t => t.name == name) with
  | none =>
    simp only [resolve, hfind, reduceCtorEq] at h
  | some target =>
    have hfirst := find?_name_eq_some_iff.mp hfind
    have hmem := List.mem_of_find?_eq_some hfind
    rw [discover_eq_map] at hmem
    obtain ⟨found, hfound, rfl⟩ := List.mem_map.mp hmem
    obtain ⟨hfound, hshown⟩ := List.mem_filter.mp hfound
    have hname : Text.lossy found.bytes = name := hfirst.1
    rw [resolve_eq_answer hfirst] at h
    cases layout with
    | testBin => exact ⟨_, found, ⟨rfl, hname⟩, hfound, (Except.ok.inj h).symm⟩
    | groups groupDir suffix =>
      obtain ⟨entry, ⟨hentry, before, after, hsplit, -⟩, rfl⟩ := binaryAmong_eq_ok_iff.mp h
      have hhidden : isHidden name = false := by simpa [Layout.shows, hname] using hshown
      exact ⟨_, entry, ⟨⟨found, hfound, hname, hhidden, rfl⟩, hentry.text, hentry.suffixed⟩,
        hsplit ▸ List.mem_append_right before List.mem_cons_self, rfl⟩

/-! ## Programs with a slash -/

/-- A name that is joined to a path has a slash before it, unless the path is empty. -/
theorem slash_mem_join {directory : Path} (h : directory ≠ []) (entry : FileName) :
    slash ∈ Path.join directory entry.bytes := by
  rw [Path.join_eq entry.namesEntry]
  by_cases hlast : directory.getLast? = some slash
  · have hmem : slash ∈ directory := List.mem_of_getLast? hlast
    simp only [List.mem_append, hmem, true_or]
  · have hglue : Path.glue directory = [slash] := by simp [Path.glue, h, hlast]
    simp only [List.mem_append, hglue, List.mem_singleton, true_or, or_true]

namespace Host

/-- A path with a slash is not looked up anywhere. -/
theorem findProgram_of_slash {fs : FileSystem} {p : Path} (h : slash ∈ p) :
    findProgram fs p = (programAt fs p).map fun l => (p, l) :=
  if_pos h

/-- The program at a path with a slash is what stands there and can be run, unless the path is too
long. -/
theorem findProgram_of_standsAt {fs : FileSystem} {p : Path} {d : Location} {name : FileName}
    {e : Entry} (h : fs.StandsAt p d name e) (hslash : slash ∈ p)
    (hlength : p.length < FileSystem.maxPathLength)
    (hrun : runnable fs (name :: d) = .ok (name :: d)) :
    findProgram fs p = .ok (p, name :: d) := by
  have hlink : ∀ target, e ≠ .link target := by
    rintro target rfl
    rw [runnable, h.entry] at hrun
    exact nomatch hrun
  have hfind := FileSystem.find_of_standsAt h hlength hlink
  rw [findProgram_of_slash hslash, programAt, FileSystem.locate, hfind]
  simp only [hrun]
  rfl

end Host

/-! ## Running it -/

/-- **The binary that is run is the one that was found.** Where a name leads to a path, the layout
keeps an entry for it in a directory that can be listed, and the path is that of the directory
joined with the name of the entry, so that the entry stands there. The path holds a slash: it stands
for what it leads to and is not looked up, and an entry that can be run is the program, unless the
path is too long. Once the project is built, running the test calls that very path without
arguments, if the output takes it. -/
theorem resolve_eq_ok_standsAt (env : Env σ τ) (t : Toolchain) (strict : Bool) (w : World σ τ)
    (fs : FileSystem) (buildDir : Path) (layout : Layout) (name : String) (p : Path)
    (h : resolve fs buildDir layout name = .ok p) :
    (∃ directory entry d e, layout.Keeps fs buildDir name directory entry ∧
      entry ∈ fs.namesIn directory ∧ p = Path.join directory entry.bytes ∧
      fs.locateDirectory directory = .ok d ∧ fs.StandsAt p d entry e ∧
      (p.length < FileSystem.maxPathLength →
        ((∀ target, e ≠ .link target) → fs.find p = .ok (.found (entry :: d))) ∧
        (Host.runnable fs (entry :: d) = .ok (entry :: d) →
          Host.findProgram fs p = .ok (p, entry :: d)))) ∧
    slash ∈ p ∧
    Host.findProgram fs p = (Host.programAt fs p).map (fun l => (p, l)) ∧
    ((build env t buildDir strict w).1 = .ok () → (build env t buildDir strict w).2.files = fs →
      calls (runOne env t buildDir layout name strict w).2.history =
        calls w.history ++ ([t.configure buildDir, t.compile buildDir] ++
          if env.sink.announces (lineOf (Text.lossy p)) w.sink then [⟨p, []⟩] else [])) := by
  obtain ⟨directory, entry, hkeeps, hentry, hp⟩ := exists_keeps_of_resolve h
  obtain ⟨names, hlist, hmem⟩ := FileSystem.mem_namesIn_iff.mp hentry
  obtain ⟨d, e, hd, hstands⟩ := FileSystem.standsAt_of_mem_list hlist hmem
  have hne : directory ≠ [] := (FileSystem.locateDirectory_eq_ok_iff_components.mp hd).1
  rw [← hp] at hstands
  have hslash : slash ∈ p := hp ▸ slash_mem_join hne entry
  refine ⟨⟨directory, entry, d, e, hkeeps, hentry, hp, hd, hstands, fun hlength => ⟨?_, ?_⟩⟩,
    hslash, Host.findProgram_of_slash hslash, fun hbuilt hfiles => ?_⟩
  · exact FileSystem.find_of_standsAt hstands hlength
  · exact Host.findProgram_of_standsAt hstands hslash hlength
  · obtain ⟨v, hnext, hrun⟩ := runOne_of_found hbuilt (hfiles ▸ h)
    rw [hrun, calls_announceAndLaunch, hnext.calls, hnext.sink, List.append_assoc]

/-- A group whose binary has the name of a program of the system. -/
def namesakes : FileSystem where
  cwd := []
  tree :=
    let usr : FileName := ⟨utf8 "usr", by decide⟩
    let bin : FileName := ⟨utf8 "bin", by decide⟩
    let net : FileName := ⟨utf8 "net", by decide⟩
    let tests : FileName := Layout.groupTestsName
    let binary : FileName := ⟨utf8 "net_gtest", by decide⟩
    { entries :=
        [([usr], .directory), ([bin, usr], .directory),
         ([binary, bin, usr], .file [] true), ([net], .directory), ([tests, net], .directory),
         ([binary, tests, net], .file [] true)]
      distinct := by decide }

/-- Where the directory of the groups has an empty name, the binary of the group is run and not the
program of the same name. -/
theorem resolve_namesakes :
    let env : Env Unit (Option Nat) := ⟨Rule.runner [], Sink.unlimited, .one, []⟩
    let t : Toolchain := ⟨utf8 "cmake", utf8 "ctest", utf8 ".", .one⟩
    let layout : Layout := .groups "" "gtest"
    let p : Path := utf8 "./net/tests/net_gtest"
    resolve namesakes (utf8 ".") layout "net" = .ok p ∧
    (Host.findProgram namesakes p).toOption.map Prod.fst = some p ∧
    (Host.findProgram namesakes (utf8 "net_gtest")).toOption.map Prod.fst =
      some (utf8 "/usr/bin/net_gtest") ∧
    calls (runOne env t (utf8 ".") layout "net" false ⟨namesakes, (), none, []⟩).2.history =
      [t.configure (utf8 "."), t.compile (utf8 "."), ⟨p, []⟩] := by
  intro env t layout p
  have hdiscover : discover namesakes (utf8 ".") layout =
      [⟨"usr", utf8 "./usr"⟩, ⟨"net", utf8 "./net"⟩] := by decide
  have hresolve : resolve namesakes (utf8 ".") layout "net" = .ok p := by
    rw [resolve, hdiscover]
    rfl
  have hbuilt : (build env t (utf8 ".") false ⟨namesakes, (), none, []⟩).1 = .ok () :=
    (build_permissive env t (utf8 ".") _).1
  obtain ⟨-, -, hprogram, hcalls⟩ := resolve_eq_ok_standsAt env t false
    ⟨namesakes, (), none, []⟩ namesakes (utf8 ".") layout "net" p hresolve
  refine ⟨hresolve, ?_, by decide +kernel, hcalls hbuilt rfl⟩
  rw [hprogram]
  rfl

end Testbed
