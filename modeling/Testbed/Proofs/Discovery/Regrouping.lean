import Testbed.Proofs.Discovery.Naming

/-!
# Build directories and group directories

The directory of the groups is named by two paths, one after the other, and it does not matter where
the first one ends: a part of the second one may as well belong to it. And the directory of the test
binaries may be taken for one of groups, which then are the same entries without the hidden ones.

* `Layout.joinDirs` joins the names of directories as texts, and `utf8_joinDirs` says that this is
  joining them as paths.
* `discover_of_root_eq` and `resolve_of_root_eq`: of the build directory and of the name of the
  group directory only the path matters that they amount to.
* `filter_hidden_discover` compares the two layouts on one directory.
* `groups_regroup` puts them together.
-/

namespace Testbed

/-! ## Texts that are paths -/

/-- The bytes of a text start with a slash exactly if the text does. -/
theorem isAbsolute_utf8_iff (s : String) :
    Path.isAbsolute (utf8 s) = true ↔ s.toList.head? = some '/' := by
  rw [Path.isAbsolute, beq_iff_eq]
  constructor
  · intro h
    obtain ⟨rest, hrest⟩ := List.head?_eq_some_iff.mp h
    have hs : utf8 s = [] ++ slash :: rest := hrest
    rw [Text.toList_of_utf8_eq (by decide) hs]
    rfl
  · intro h
    obtain ⟨rest, hrest⟩ := List.head?_eq_some_iff.mp h
    rw [utf8, hrest]
    rfl

/-- The bytes of a text end with a slash exactly if the text does. -/
theorem getLast?_utf8_iff (s : String) :
    (utf8 s).getLast? = some slash ↔ s.toList.getLast? = some '/' := by
  constructor
  · intro h
    obtain ⟨front, hfront⟩ := List.getLast?_eq_some_iff.mp h
    rw [Text.toList_of_utf8_eq (by decide) hfront]
    exact List.getLast?_concat
  · intro h
    obtain ⟨front, hfront⟩ := List.getLast?_eq_some_iff.mp h
    rw [utf8, hfront, List.flatMap_append]
    exact List.getLast?_concat

theorem utf8_eq_nil_iff (s : String) : utf8 s = [] ↔ s = "" :=
  ⟨fun h => Text.utf8_injective h, fun h => congrArg utf8 h⟩

/-- A name of a directory as seen from another one, as a text: one that starts with a slash stands
for itself, another one follows after a slash, unless there is one already or nothing before it. -/
def Layout.joinDirs (left right : String) : String :=
  if right.toList.head? = some '/' then right
  else if left = "" ∨ left.toList.getLast? = some '/' then left ++ right
  else left ++ "/" ++ right

/-- Joining the texts is joining the paths. -/
theorem utf8_joinDirs (left right : String) :
    utf8 (Layout.joinDirs left right) = Path.join (utf8 left) (utf8 right) := by
  unfold Layout.joinDirs Path.join Path.glue
  simp only [isAbsolute_utf8_iff, getLast?_utf8_iff, utf8_eq_nil_iff]
  split
  · rfl
  · split
    · rw [utf8_append, List.append_nil]
    · rw [utf8_append, utf8_append]
      rfl

/-! ## One directory under several names -/

section

variable {fs : FileSystem} {buildDir buildDir' : Path} {groupDir groupDir' suffix : String}

/-- Groups are found in the directory that the two paths amount to. -/
theorem discover_of_root_eq {suffix' : String}
    (h : (Layout.groups groupDir suffix).root buildDir =
      (Layout.groups groupDir' suffix').root buildDir') :
    discover fs buildDir (.groups groupDir suffix) =
      discover fs buildDir' (.groups groupDir' suffix') := by
  rw [discover_eq_map, discover_eq_map, h]
  rfl

/-- The binary of a group is the same where the groups are. -/
theorem resolve_of_root_eq
    (h : (Layout.groups groupDir suffix).root buildDir =
      (Layout.groups groupDir' suffix).root buildDir') (name : String) :
    resolve fs buildDir (.groups groupDir suffix) name =
      resolve fs buildDir' (.groups groupDir' suffix) name := by
  rw [resolve, resolve, discover_of_root_eq h]

/-- A part of the name of the group directory may belong to the build directory. -/
theorem root_joinDirs (buildDir : Path) (front back suffix : String) :
    (Layout.groups (Layout.joinDirs front back) suffix).root buildDir =
      (Layout.groups back suffix).root (Path.join buildDir (utf8 front)) := by
  simp only [Layout.root]
  rw [utf8_joinDirs, Path.join_assoc]

end

/-- As groups, the entries of the test directory are the tests that are not hidden. -/
theorem filter_hidden_discover (fs : FileSystem) (buildDir : Path) (suffix : String) :
    (discover fs buildDir .testBin).filter (fun target => !isHidden target.name) =
      discover fs buildDir (.groups Layout.testBinDir suffix) := by
  have hall : (fs.namesIn (Layout.testBin.root buildDir)).filter Layout.testBin.shows =
      fs.namesIn (Layout.testBin.root buildDir) := List.filter_true _
  rw [discover_eq_map, discover_eq_map, hall, List.filter_map]
  rfl

/-- **One directory of groups under several names.** Whether a part of the name of the group
directory stands at the end of the build directory or at the start of the name, be it empty, be it
absolute or with slashes at its end, the root is the same path, the same groups are found by the
same paths, and every name gets the same answer. And where the directory of the test binaries is
taken for one of groups, these are the tests that are not hidden, in the same order and by the same
paths. -/
theorem groups_regroup (fs : FileSystem) (buildDir : Path) (front back suffix name : String) :
    let joined : Layout := .groups (Layout.joinDirs front back) suffix
    let split : Layout := .groups back suffix
    let inner := Path.join buildDir (utf8 front)
    joined.root buildDir = split.root inner ∧
    discover fs buildDir joined = discover fs inner split ∧
    resolve fs buildDir joined name = resolve fs inner split name ∧
    utf8 (Layout.joinDirs front back) = Path.join (utf8 front) (utf8 back) ∧
    discover fs buildDir (.groups Layout.testBinDir suffix) =
      (discover fs buildDir .testBin).filter fun target => !isHidden target.name := by
  intro joined split inner
  have hroot : joined.root buildDir = split.root inner := root_joinDirs buildDir front back suffix
  exact ⟨hroot, discover_of_root_eq hroot, resolve_of_root_eq hroot name,
    utf8_joinDirs front back, (filter_hidden_discover fs buildDir suffix).symm⟩

end Testbed
