import Mathlib.Data.List.Nodup
import Testbed.Discovery
import Testbed.Proofs.Text.Decoding

/-!
# Names of tests

A test is called by the text of its file name. Distinct file names can have one text, since bytes
that are no text are replaced, but never if the text holds no replacement character: such a name
belongs to one entry of the directory alone, whatever else stands there.

* `Layout.shows` says which entries stand for a test, and `discover_eq_map` that these are the
  tests.
* `filter_discover` finds exactly one target of such a name.
* `resolve_eq_notFound_iff` and `resolve_eq_answer` say which answer a name gets.
* `resolve_discover` puts them together: listing the tests and running one agree on names.
-/

namespace Testbed

/-! ## Names in a directory -/

/-- The names in the directory that a path leads to; none if it leads to no directory. -/
def FileSystem.namesIn (fs : FileSystem) (p : Path) : List FileName :=
  match fs.list p with
  | .ok names => names
  | .error _ => []

/-- A name in the directory that a path leads to is listed there. -/
theorem FileSystem.mem_namesIn_iff {fs : FileSystem} {p : Path} {name : FileName} :
    name ∈ fs.namesIn p ↔ ∃ names, fs.list p = .ok names ∧ name ∈ names := by
  unfold FileSystem.namesIn
  cases fs.list p with
  | error e => simp
  | ok names => simp

/-- The directory of the tests is an entry of the build directory. -/
def Layout.testBinName : FileName := ⟨utf8 testBinDir, by decide⟩

/-- The directory that holds the binary of a group is an entry of the group. -/
def Layout.groupTestsName : FileName := ⟨utf8 groupTestsDir, by decide⟩

/-- No name is in a directory twice. -/
theorem FileSystem.namesIn_nodup (fs : FileSystem) (p : Path) : (fs.namesIn p).Nodup := by
  unfold FileSystem.namesIn FileSystem.list
  cases fs.locateDirectory p with
  | error e => exact List.nodup_nil
  | ok l => exact fs.tree.children_nodup l

theorem discover_eq (fs : FileSystem) (buildDir : Path) (layout : Layout) :
    discover fs buildDir layout =
      (fs.namesIn (layout.root buildDir)).filterMap (target? (layout.root buildDir) layout) := by
  unfold discover FileSystem.namesIn
  cases fs.list (layout.root buildDir) <;> rfl

/-- The binary of a group, told by the names in the directory that holds it. -/
def binaryAmong (directory : Path) (suffix : String) (names : List FileName) :
    Except ResolutionError Path :=
  match names.find? (hasSuffix suffix) with
  | some name => .ok (Path.join directory name.bytes)
  | none => .error (.missingBinary directory suffix)

/-- Of the file system, only the names in the directory of the binary matter. -/
theorem findBinary_eq (fs : FileSystem) (directory : Path) (suffix : String) :
    findBinary fs directory suffix = binaryAmong directory suffix (fs.namesIn directory) := by
  unfold findBinary binaryAmong FileSystem.namesIn
  cases fs.list directory with
  | error e => rfl
  | ok names => cases h : names.find? (hasSuffix suffix) <;> simp only [h]

/-- No binary of a group is missing because of its name. -/
theorem binaryAmong_ne_notFound (directory : Path) (suffix : String) (names : List FileName)
    (name : String) : binaryAmong directory suffix names ≠ .error (.notFound name) := by
  unfold binaryAmong
  split
  · exact fun h => nomatch h
  · exact fun h => nomatch h

/-! ## The entries that are shown -/

/-- An entry of the root stands for a test: every binary does, and every group that is not
hidden. -/
def Layout.shows : Layout → FileName → Bool
  | .testBin, _ => true
  | .groups _ _, entry => !isHidden (Text.lossy entry.bytes)

/-- The test that an entry of the root stands for. -/
def TestTarget.ofEntry (root : Path) (entry : FileName) : TestTarget :=
  ⟨Text.lossy entry.bytes, Path.join root entry.bytes⟩

theorem target?_eq (root : Path) (layout : Layout) (entry : FileName) :
    target? root layout entry =
      if layout.shows entry then some (.ofEntry root entry) else none := by
  cases layout with
  | testBin => rfl
  | groups groupDir suffix =>
    cases h : isHidden (Text.lossy entry.bytes) <;>
      simp [target?, Layout.shows, TestTarget.ofEntry, h]

theorem filterMap_target? (root : Path) (layout : Layout) (names : List FileName) :
    names.filterMap (target? root layout) =
      (names.filter layout.shows).map (TestTarget.ofEntry root) := by
  induction names with
  | nil => rfl
  | cons entry rest ih =>
    rw [List.filterMap_cons, target?_eq, ih]
    by_cases h : layout.shows entry = true
    · rw [if_pos h, List.filter_cons_of_pos h, List.map_cons]
    · rw [if_neg h, List.filter_cons_of_neg h]

/-- The tests are the entries of the root that are shown. -/
theorem discover_eq_map (fs : FileSystem) (buildDir : Path) (layout : Layout) :
    discover fs buildDir layout =
      ((fs.namesIn (layout.root buildDir)).filter layout.shows).map
        (TestTarget.ofEntry (layout.root buildDir)) := by
  rw [discover_eq, filterMap_target?]

/-! ## The answer to a name -/

/-- The directory of a group that holds its binary. -/
def TestTarget.testsDir (target : TestTarget) : Path :=
  Path.join target.path (utf8 Layout.groupTestsDir)

/-- A target is the first one that has a name. -/
def IsFirst (name : String) (targets : List TestTarget) (target : TestTarget) : Prop :=
  target.name = name ∧
    ∃ before after, targets = before ++ target :: after ∧ ∀ t ∈ before, t.name ≠ name

theorem find?_name_eq_some_iff {name : String} {targets : List TestTarget}
    {target : TestTarget} :
    targets.find? (fun t => t.name == name) = some target ↔ IsFirst name targets target := by
  rw [List.find?_eq_some_iff_append, IsFirst]
  simp

/-- What a layout answers for a target, given the names in the directory of its binary. -/
def Layout.answer (layout : Layout) (target : TestTarget) (names : List FileName) :
    Except ResolutionError Path :=
  match layout with
  | .testBin => .ok target.path
  | .groups _ suffix => binaryAmong target.testsDir suffix names

theorem resolve_eq_answer {fs : FileSystem} {buildDir : Path} {layout : Layout} {name : String}
    {target : TestTarget} (h : IsFirst name (discover fs buildDir layout) target) :
    resolve fs buildDir layout name = layout.answer target (fs.namesIn target.testsDir) := by
  rw [resolve, find?_name_eq_some_iff.mpr h]
  cases layout with
  | testBin => rfl
  | groups groupDir suffix => exact findBinary_eq fs target.testsDir suffix

theorem answer_ne_notFound (layout : Layout) (target : TestTarget) (names : List FileName)
    (name : String) : layout.answer target names ≠ .error (.notFound name) := by
  cases layout with
  | testBin => exact fun h => nomatch h
  | groups groupDir suffix => exact binaryAmong_ne_notFound target.testsDir suffix names name

/-- A name is not found exactly if no target has it, and then it is named in the answer. -/
theorem resolve_eq_notFound_iff (fs : FileSystem) (buildDir : Path) (layout : Layout)
    (name n : String) :
    resolve fs buildDir layout name = .error (.notFound n) ↔
      n = name ∧ ∀ t ∈ discover fs buildDir layout, t.name ≠ name := by
  cases h : (discover fs buildDir layout).find? (fun t => t.name == name) with
  | some target =>
    have hfirst := find?_name_eq_some_iff.mp h
    rw [resolve_eq_answer hfirst]
    refine ⟨fun hn => absurd hn (answer_ne_notFound layout target _ n), ?_⟩
    rintro ⟨-, hall⟩
    exact absurd hfirst.1 (hall target (List.mem_of_find?_eq_some h))
  | none =>
    have hall : ∀ t ∈ discover fs buildDir layout, t.name ≠ name := by
      simpa using List.find?_eq_none.mp h
    have hresolve : resolve fs buildDir layout name = .error (.notFound name) := by
      rw [resolve, h]
    rw [hresolve]
    constructor
    · rintro ⟨⟩
      exact ⟨rfl, hall⟩
    · rintro ⟨rfl, -⟩
      rfl

/-! ## Names that belong to one entry -/

/-- A name that is the text of one entry alone: it holds no replacement character, and the layout
does not pass over it. -/
structure Layout.Clean (layout : Layout) (name : String) : Prop where
  text : Text.replacement ∉ name.toList
  shown : layout ≠ .testBin → isHidden name = false

/-- An entry is shown under a clean name exactly if it has that name. -/
theorem Layout.Clean.shows_iff {layout : Layout} {name : String} {entry other : FileName}
    (hname : layout.Clean name) (hentry : entry.bytes = utf8 name) :
    (layout.shows other && Text.lossy other.bytes == name) = true ↔ other = entry := by
  rw [Bool.and_eq_true, beq_iff_eq]
  constructor
  · rintro ⟨-, hlossy⟩
    have hbytes : other.bytes = utf8 name := Text.eq_utf8_of_lossy hlossy hname.text
    exact FileName.ext_bytes (hbytes.trans hentry.symm)
  · rintro rfl
    have hlossy : Text.lossy other.bytes = name := by rw [hentry, Text.lossy_utf8]
    refine ⟨?_, hlossy⟩
    cases layout with
    | testBin => rfl
    | groups groupDir suffix =>
      have hhidden : isHidden name = false := hname.shown (fun h => nomatch h)
      simp only [Layout.shows, hlossy, hhidden, Bool.not_false]

/-- The entries of a directory have different paths. -/
theorem join_injective {root : Path} {entry other : FileName}
    (h : Path.join root other.bytes = Path.join root entry.bytes) : other = entry := by
  rw [Path.join_relative other.not_isAbsolute, Path.join_relative entry.not_isAbsolute] at h
  exact FileName.ext_bytes (List.append_cancel_left h)

/-- Among the targets there is exactly one of a clean name. -/
theorem filter_discover {fs : FileSystem} {buildDir : Path} {layout : Layout} {name : String}
    {entry : FileName} (hname : layout.Clean name) (hentry : entry.bytes = utf8 name)
    (hmem : entry ∈ fs.namesIn (layout.root buildDir)) :
    (discover fs buildDir layout).filter (fun t => t.name == name) =
      [⟨name, Path.join (layout.root buildDir) entry.bytes⟩] := by
  have hsame : ∀ other : FileName,
      (layout.shows other && Text.lossy other.bytes == name) = (other == entry) := fun other =>
    Bool.eq_iff_iff.mpr ((hname.shows_iff hentry).trans beq_iff_eq.symm)
  have hlossy : Text.lossy entry.bytes = name := by rw [hentry, Text.lossy_utf8]
  rw [discover_eq_map, List.filter_map, List.filter_filter]
  simp only [Function.comp_def, TestTarget.ofEntry, Bool.and_comm (_ == name), hsame]
  rw [List.filter_beq, List.count_eq_one_of_mem (fs.namesIn_nodup _) hmem, List.replicate_one,
    List.map_singleton, TestTarget.ofEntry, hlossy]

/-- The only target of a clean name is the first one. -/
theorem isFirst_clean {fs : FileSystem} {buildDir : Path} {layout : Layout} {name : String}
    {entry : FileName} (hname : layout.Clean name) (hentry : entry.bytes = utf8 name)
    (hmem : entry ∈ fs.namesIn (layout.root buildDir)) :
    IsFirst name (discover fs buildDir layout)
      ⟨name, Path.join (layout.root buildDir) entry.bytes⟩ := by
  rw [← find?_name_eq_some_iff, ← List.head?_filter, filter_discover hname hentry hmem]
  rfl

/-- **Listing the tests and running one agree on names.** A name is not found exactly if no listed
target has it; else the first target that has it is taken, as a binary or as a group whose binary
is told by the entries of its `tests` alone. And the name of an entry that is text without
replacement characters is the name of one target, which is that entry. -/
theorem resolve_discover (fs : FileSystem) (buildDir : Path) (layout : Layout) (name : String) :
    ((∃ n, resolve fs buildDir layout name = .error (.notFound n)) ↔
      ∀ t ∈ discover fs buildDir layout, t.name ≠ name) ∧
    (∀ target, IsFirst name (discover fs buildDir layout) target →
      (layout = .testBin → resolve fs buildDir layout name = .ok target.path) ∧
      (∀ groupDir suffix, layout = .groups groupDir suffix →
        resolve fs buildDir layout name =
          binaryAmong target.testsDir suffix (fs.namesIn target.testsDir))) ∧
    (layout = .testBin → ∀ directory suffix,
      resolve fs buildDir layout name ≠ .error (.missingBinary directory suffix)) ∧
    (∀ entry ∈ fs.namesIn (layout.root buildDir), entry.bytes = utf8 name → layout.Clean name →
      ∃ target, (discover fs buildDir layout).filter (fun t => t.name == name) = [target] ∧
        target.path = Path.join (layout.root buildDir) entry.bytes ∧
        resolve fs buildDir layout name = layout.answer target (fs.namesIn target.testsDir) ∧
        ∀ other ∈ fs.namesIn (layout.root buildDir),
          Path.join (layout.root buildDir) other.bytes = target.path → other = entry) := by
  refine ⟨?_, ?_, ?_, ?_⟩
  · constructor
    · rintro ⟨n, hn⟩
      exact ((resolve_eq_notFound_iff fs buildDir layout name n).mp hn).2
    · intro hall
      exact ⟨name, (resolve_eq_notFound_iff fs buildDir layout name name).mpr ⟨rfl, hall⟩⟩
  · intro target hfirst
    refine ⟨?_, ?_⟩
    · rintro rfl
      exact resolve_eq_answer hfirst
    · rintro groupDir suffix rfl
      exact resolve_eq_answer hfirst
  · rintro rfl directory suffix hmissing
    cases h : (discover fs buildDir .testBin).find? (fun t => t.name == name) with
    | none =>
      rw [resolve, h] at hmissing
      exact nomatch hmissing
    | some target =>
      rw [resolve_eq_answer (find?_name_eq_some_iff.mp h)] at hmissing
      exact nomatch hmissing
  · intro entry hmem hentry hname
    refine ⟨_, filter_discover hname hentry hmem, rfl, ?_, ?_⟩
    · exact resolve_eq_answer (isFirst_clean hname hentry hmem)
    · exact fun other _ h => join_injective h

/-- Two groups, of which the first has a name that is no text. -/
def mixedGroups : FileSystem where
  cwd := []
  tree :=
    let src : FileName := ⟨utf8 "src", by decide⟩
    let group : FileName := ⟨utf8 "é", by decide⟩
    let tests : FileName := ⟨utf8 "tests", by decide⟩
    { entries :=
        [([src], .directory), ([⟨[0xFF], by decide⟩, src], .directory),
         ([group, src], .directory), ([tests, group, src], .directory),
         ([⟨utf8 "unit_gtest", by decide⟩, tests, group, src], .file [] true)]
      distinct := by decide }

/-- The group of the clean name is reached past the other one. -/
theorem resolve_mixedGroups :
    (discover mixedGroups (utf8 "/") .defaultGroups).length = 2 ∧
    resolve mixedGroups (utf8 "/") .defaultGroups "é" =
      .ok (utf8 "/src/é/tests/unit_gtest") := by
  refine ⟨by decide, ?_⟩
  obtain ⟨target, hfilter, -, hresolve, -⟩ :=
    (resolve_discover mixedGroups (utf8 "/") .defaultGroups "é").2.2.2 ⟨utf8 "é", by decide⟩
      (by decide) rfl ⟨by decide, fun _ => by decide⟩
  have htarget : (discover mixedGroups (utf8 "/") .defaultGroups).filter
      (fun t => t.name == "é") = [⟨"é", utf8 "/src/é"⟩] := by decide
  rw [htarget] at hfilter
  rw [hresolve, ← List.head_eq_of_cons_eq hfilter]
  rfl

end Testbed
