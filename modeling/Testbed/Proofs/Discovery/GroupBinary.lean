import Testbed.Proofs.Discovery.Exactness

/-!
# The binary of a group

The binary of a group is the first entry of its `tests` whose name is text and ends in the suffix. A
name that ends in the suffix and is no text is passed over, though a group of such a name is found.

* `FileName.SuffixedText` says which names count, and `binaryAmong_eq_ok_iff` and
  `binaryAmong_eq_error_iff` what the answer is among given names.
* `suffixedAmong` is the answer if the bytes of the names alone counted, and
  `binaryAmong_eq_suffixedAmong_iff` says when the two agree.
* `resolve_group` puts them together: which answer each group gets.
* `resolve_unreadGtest`: a group that holds an entry which ends in the suffix, and has no binary.
-/

namespace Testbed

open FileSystem

/-! ## Names that end in the suffix -/

namespace FileName

/-- A name is text. -/
def IsText (entry : FileName) : Prop := ∃ text, entry.bytes = utf8 text

/-- The bytes of a name end with those of the suffix. -/
def EndsIn (suffix : String) (entry : FileName) : Prop := utf8 suffix <:+ entry.bytes

/-- A name is text and ends in the suffix. -/
structure SuffixedText (suffix : String) (entry : FileName) : Prop where
  text : entry.IsText
  suffixed : entry.EndsIn suffix

/-- An entry is the first of those that have a property. -/
def IsFirstWhere (P : FileName → Prop) (names : List FileName) (entry : FileName) : Prop :=
  P entry ∧ ∃ before after, names = before ++ entry :: after ∧ ∀ other ∈ before, ¬ P other

end FileName

open FileName

theorem hasSuffix_eq_true_iff {suffix : String} {entry : FileName} :
    hasSuffix suffix entry = true ↔ entry.SuffixedText suffix := by
  rw [hasSuffix, Bool.and_eq_true, Option.isSome_iff_exists, List.isSuffixOf_iff_suffix]
  simp only [Text.decode?_eq_some_iff]
  exact ⟨fun h => ⟨h.1, h.2⟩, fun h => ⟨h.text, h.suffixed⟩⟩

theorem find?_eq_some_iff_isFirstWhere {p : FileName → Bool} {P : FileName → Prop}
    (hp : ∀ entry, p entry = true ↔ P entry) {names : List FileName} {entry : FileName} :
    names.find? p = some entry ↔ IsFirstWhere P names entry := by
  simp only [List.find?_eq_some_iff_append, IsFirstWhere, hp, Bool.not_eq_true', ← Bool.not_eq_true]

theorem find?_eq_none_iff_forall {p : FileName → Bool} {P : FileName → Prop}
    (hp : ∀ entry, p entry = true ↔ P entry) {names : List FileName} :
    names.find? p = none ↔ ∀ entry ∈ names, ¬ P entry := by
  simp only [List.find?_eq_none, hp]

/-! ## The answer among given names -/

section

variable {directory : Path} {suffix : String} {names : List FileName}

/-- The binary is the first entry whose name is text and ends in the suffix. -/
theorem binaryAmong_eq_ok_iff {p : Path} :
    binaryAmong directory suffix names = .ok p ↔
      ∃ entry, IsFirstWhere (SuffixedText suffix) names entry ∧
        p = Path.join directory entry.bytes := by
  simp only [← find?_eq_some_iff_isFirstWhere fun _ => hasSuffix_eq_true_iff]
  unfold binaryAmong
  cases names.find? (hasSuffix suffix) with
  | none => simp
  | some entry => simp [eq_comm]

/-- There is no binary exactly if no name is text and ends in the suffix. -/
theorem binaryAmong_eq_error_iff {e : ResolutionError} :
    binaryAmong directory suffix names = .error e ↔
      e = .missingBinary directory suffix ∧ ∀ entry ∈ names, ¬ entry.SuffixedText suffix := by
  rw [← find?_eq_none_iff_forall fun _ => hasSuffix_eq_true_iff]
  unfold binaryAmong
  cases names.find? (hasSuffix suffix) with
  | none => simp [eq_comm]
  | some entry => simp

/-- There is a binary, or the answer names the directory and the suffix. -/
theorem binaryAmong_error_or_ok (directory : Path) (suffix : String) (names : List FileName) :
    binaryAmong directory suffix names = .error (.missingBinary directory suffix) ∨
      ∃ p, binaryAmong directory suffix names = .ok p := by
  unfold binaryAmong
  cases names.find? (hasSuffix suffix) with
  | none => exact .inl rfl
  | some entry => exact .inr ⟨_, rfl⟩

/-- What would be the binary if every name counted that ends in the suffix, text or not. -/
def suffixedAmong (directory : Path) (suffix : String) (names : List FileName) :
    Except ResolutionError Path :=
  match names.find? fun entry => (utf8 suffix).isSuffixOf entry.bytes with
  | some entry => .ok (Path.join directory entry.bytes)
  | none => .error (.missingBinary directory suffix)

/-- Nothing is passed over exactly if the first name that ends in the suffix, if there is one, is
text. -/
theorem binaryAmong_eq_suffixedAmong_iff :
    binaryAmong directory suffix names = suffixedAmong directory suffix names ↔
      ∀ entry, IsFirstWhere (EndsIn suffix) names entry → entry.IsText := by
  have hends : ∀ entry : FileName,
      (utf8 suffix).isSuffixOf entry.bytes = true ↔ entry.EndsIn suffix :=
    fun entry => List.isSuffixOf_iff_suffix
  simp only [← find?_eq_some_iff_isFirstWhere hends]
  unfold suffixedAmong
  cases hfind : names.find? fun entry => (utf8 suffix).isSuffixOf entry.bytes with
  | none =>
    have hnone := (find?_eq_none_iff_forall hends).mp hfind
    simp only [reduceCtorEq, false_imp_iff, implies_true, iff_true]
    exact binaryAmong_eq_error_iff.mpr ⟨rfl, fun entry hentry h => hnone entry hentry h.suffixed⟩
  | some first =>
    simp only [Option.some.injEq, forall_eq']
    obtain ⟨hfirst, before, after, hsplit, hbefore⟩ :=
      (find?_eq_some_iff_isFirstWhere hends).mp hfind
    rw [binaryAmong_eq_ok_iff]
    constructor
    · rintro ⟨entry, ⟨hentry, -⟩, hjoin⟩
      exact join_injective hjoin ▸ hentry.text
    · intro htext
      have hpassed : ∀ other ∈ before, ¬ other.SuffixedText suffix :=
        fun other hother h => hbefore other hother h.suffixed
      exact ⟨first, ⟨⟨htext, hfirst⟩, before, after, hsplit, hpassed⟩, rfl⟩

end

/-! ## The names that a path leads to -/

section

variable {fs : FileSystem} {p : Path} {P : FileName → Prop}

theorem isFirstWhere_namesIn_iff {entry : FileName} :
    IsFirstWhere P (fs.namesIn p) entry ↔
      ∃ d, fs.LeadsTo p d ∧ IsFirstWhere P (fs.tree.children d) entry := by
  constructor
  · intro h
    by_cases hleads : ∃ d, fs.LeadsTo p d
    · obtain ⟨d, hd⟩ := hleads
      exact ⟨d, hd, namesIn_of_leadsTo hd ▸ h⟩
    · rw [namesIn_of_not_leadsTo fun d hd => hleads ⟨d, hd⟩] at h
      obtain ⟨-, before, after, hnil, -⟩ := h
      exact absurd hnil.symm (List.append_ne_nil_of_right_ne_nil _ (List.cons_ne_nil _ _))
  · rintro ⟨d, hd, h⟩
    rwa [namesIn_of_leadsTo hd]

theorem forall_namesIn_iff :
    (∀ entry ∈ fs.namesIn p, P entry) ↔
      (∀ d, ¬ fs.LeadsTo p d) ∨ ∃ d, fs.LeadsTo p d ∧ ∀ entry ∈ fs.tree.children d, P entry := by
  constructor
  · intro h
    by_cases hleads : ∃ d, fs.LeadsTo p d
    · obtain ⟨d, hd⟩ := hleads
      exact .inr ⟨d, hd, namesIn_of_leadsTo hd ▸ h⟩
    · exact .inl fun d hd => hleads ⟨d, hd⟩
  · rintro (hnot | ⟨d, hd, h⟩)
    · rw [namesIn_of_not_leadsTo hnot]
      exact fun entry hentry => nomatch hentry
    · rwa [namesIn_of_leadsTo hd]

end

/-! ## The answer to the name of a group -/

/-- Whatever has a name has a first target of that name. -/
theorem exists_isFirst {name : String} {targets : List TestTarget}
    (h : name ∈ targets.map TestTarget.name) : ∃ target, IsFirst name targets target := by
  obtain ⟨target, htarget, hname⟩ := List.mem_map.mp h
  have hsome : (targets.find? fun t => t.name == name).isSome = true :=
    List.find?_isSome.mpr ⟨target, htarget, beq_iff_eq.mpr hname⟩
  obtain ⟨first, hfirst⟩ := Option.isSome_iff_exists.mp hsome
  exact ⟨first, find?_name_eq_some_iff.mp hfirst⟩

theorem IsFirst.unique {name : String} {targets : List TestTarget} {target other : TestTarget}
    (h : IsFirst name targets target) (h' : IsFirst name targets other) : target = other :=
  Option.some.inj ((find?_name_eq_some_iff.mpr h).symm.trans (find?_name_eq_some_iff.mpr h'))

/-- The binary of a target that was found is looked for in the `tests` of an entry of the root. -/
theorem testsDir_of_isFirst {fs : FileSystem} {buildDir : Path} {layout : Layout} {name : String}
    {target : TestTarget} (h : IsFirst name (discover fs buildDir layout) target) :
    ∃ group ∈ fs.namesIn (layout.root buildDir), Text.lossy group.bytes = name ∧
      target.testsDir =
        Path.join (Path.join (layout.root buildDir) group.bytes) (utf8 Layout.groupTestsDir) := by
  have hmem := List.mem_of_find?_eq_some (find?_name_eq_some_iff.mpr h)
  rw [discover_eq_map] at hmem
  obtain ⟨group, hgroup, rfl⟩ := List.mem_map.mp hmem
  exact ⟨group, (List.mem_filter.mp hgroup).1, h.1, rfl⟩

/-- **The binary of a group.** A name of a group that was found leads to the `tests` of the first
group of that name. There is no binary exactly if this leads to no directory, or to one in which no
name is text and ends in the suffix, and then the answer names the directory and the suffix; else
the binary is the first entry of such a name, of whatever kind. So the bytes of the names alone
decide exactly if the first name that ends in the suffix is text. -/
theorem resolve_group (fs : FileSystem) (buildDir : Path) (groupDir suffix name : String)
    (h : name ∈ (discover fs buildDir (.groups groupDir suffix)).map TestTarget.name) :
    let layout : Layout := .groups groupDir suffix
    let answer := resolve fs buildDir layout name
    ∃ target, IsFirst name (discover fs buildDir layout) target ∧
      (∃ group ∈ fs.namesIn (layout.root buildDir), Text.lossy group.bytes = name ∧
        target.testsDir = Path.join (Path.join (layout.root buildDir) group.bytes)
          (utf8 Layout.groupTestsDir)) ∧
      (answer = .error (.missingBinary target.testsDir suffix) ↔
        (∀ d, ¬ fs.LeadsTo target.testsDir d) ∨
          ∃ d, fs.LeadsTo target.testsDir d ∧
            ∀ entry ∈ fs.tree.children d, ¬ entry.SuffixedText suffix) ∧
      (∀ p, answer = .ok p ↔
        ∃ d entry, fs.LeadsTo target.testsDir d ∧
          IsFirstWhere (SuffixedText suffix) (fs.tree.children d) entry ∧
          p = Path.join target.testsDir entry.bytes) ∧
      (answer = .error (.missingBinary target.testsDir suffix) ∨ ∃ p, answer = .ok p) ∧
      (answer = suffixedAmong target.testsDir suffix (fs.namesIn target.testsDir) ↔
        ∀ d entry, fs.LeadsTo target.testsDir d →
          IsFirstWhere (EndsIn suffix) (fs.tree.children d) entry → entry.IsText) := by
  intro layout answer
  obtain ⟨target, hfirst⟩ := exists_isFirst h
  have hanswer : answer = binaryAmong target.testsDir suffix (fs.namesIn target.testsDir) :=
    resolve_eq_answer hfirst
  refine ⟨target, hfirst, testsDir_of_isFirst hfirst, ?_, fun p => ?_, ?_, ?_⟩ <;> rw [hanswer]
  · rw [binaryAmong_eq_error_iff, forall_namesIn_iff]
    exact and_iff_right rfl
  · rw [binaryAmong_eq_ok_iff]
    simp only [isFirstWhere_namesIn_iff]
    constructor
    · rintro ⟨entry, ⟨d, hd, hentry⟩, rfl⟩
      exact ⟨d, entry, hd, hentry, rfl⟩
    · rintro ⟨d, entry, hd, hentry, rfl⟩
      exact ⟨entry, ⟨d, hd, hentry⟩, rfl⟩
  · exact binaryAmong_error_or_ok _ _ _
  · rw [binaryAmong_eq_suffixedAmong_iff]
    simp only [isFirstWhere_namesIn_iff]
    constructor
    · exact fun h d entry hd hentry => h entry ⟨d, hd, hentry⟩
    · rintro h entry ⟨d, hd, hentry⟩
      exact h d entry hd hentry

/-- The group `tree` in the default directory of the groups. -/
def treeGroup : Location := [⟨utf8 "tree", by decide⟩, Layout.defaultGroupName]

/-- The `tests` of the group `tree`. -/
def treeTests : Location := Layout.groupTestsName :: treeGroup

/-- A name that is no text and ends in the default suffix. -/
def unreadName : FileName := ⟨0xFF :: utf8 "gtest", by decide⟩

/-- The group `tree` has an entry of such a name, and behind it a directory that has the suffix as
its name. -/
def secondGtest : FileSystem where
  cwd := []
  tree :=
    { entries :=
        [([Layout.defaultGroupName], .directory), (treeGroup, .directory), (treeTests, .directory),
         (unreadName :: treeTests, .file [] true),
         (⟨utf8 "gtest", by decide⟩ :: treeTests, .directory)]
      distinct := by decide }

/-- The directory is the binary, whatever stands before it. -/
theorem resolve_secondGtest :
    resolve secondGtest (utf8 "/") .defaultGroups "tree" = .ok (utf8 "/src/tree/tests/gtest") := by
  obtain ⟨target, hfirst, -, -, hok, -⟩ :=
    resolve_group secondGtest (utf8 "/") Layout.defaultGroupDir Layout.defaultSuffix "tree"
      (by decide)
  have hfound : IsFirst "tree" (discover secondGtest (utf8 "/") .defaultGroups)
      ⟨"tree", utf8 "/src/tree"⟩ := find?_name_eq_some_iff.mp (by decide)
  obtain rfl := hfirst.unique hfound
  have hleads : secondGtest.LeadsTo (utf8 "/src/tree/tests") treeTests :=
    locateDirectory_eq_ok_iff_leadsTo.mp rfl
  have hgtest : IsFirstWhere (SuffixedText "gtest") (secondGtest.tree.children treeTests)
      ⟨utf8 "gtest", by decide⟩ :=
    (find?_eq_some_iff_isFirstWhere fun _ => hasSuffix_eq_true_iff).mp (by decide)
  exact (hok _).mpr ⟨treeTests, _, hleads, hgtest, rfl⟩

/-- The group `tree` has an entry that ends in the suffix, of a name that is no text. -/
def unreadGtest : FileSystem where
  cwd := []
  tree :=
    { entries :=
        [([Layout.defaultGroupName], .directory), (treeGroup, .directory), (treeTests, .directory),
         (unreadName :: treeTests, .file [] true)]
      distinct := by decide }

/-- The group is found, and its `tests` are a directory that holds an entry which ends in the
suffix; yet no binary is found. -/
theorem resolve_unreadGtest :
    IsFirst "tree" (discover unreadGtest (utf8 "/") .defaultGroups) ⟨"tree", utf8 "/src/tree"⟩ ∧
    unreadGtest.LeadsTo (utf8 "/src/tree/tests") treeTests ∧
    unreadName ∈ unreadGtest.tree.children treeTests ∧ unreadName.EndsIn "gtest" ∧
    resolve unreadGtest (utf8 "/") .defaultGroups "tree" =
      .error (.missingBinary (utf8 "/src/tree/tests") "gtest") :=
  ⟨find?_name_eq_some_iff.mp (by decide), locateDirectory_eq_ok_iff_leadsTo.mp rfl, by decide,
    ⟨[0xFF], rfl⟩, by decide⟩

end Testbed
