import Testbed.Proofs.Discovery.Naming
import Testbed.Proofs.FileSystem.Leading

/-!
# What is found

The tests that are found are the entries of one directory, each of them once, and all that is looked
at are the names of these entries: neither what stands under a name nor anything else in the tree.

* `discover_of_leadsTo`: the entries that the layout shows are found, in the order of the directory.
* `discover_of_not_leadsTo`: where the root leads to no directory, nothing is found.
* `discover_exact` puts them together, and compares two file systems in which the root leads to
  directories with the same names.
-/

namespace Testbed

open FileSystem

/-! ## The names in a directory -/

section

variable {fs fs' : FileSystem} {p : Path} {d d' : Location}

theorem namesIn_of_leadsTo (h : fs.LeadsTo p d) : fs.namesIn p = fs.tree.children d := by
  rw [namesIn, list_of_leadsTo h]

theorem namesIn_of_not_leadsTo (h : ∀ d, ¬ fs.LeadsTo p d) : fs.namesIn p = [] := by
  obtain ⟨e, he⟩ := list_of_not_leadsTo h
  rw [namesIn, he]

/-- Directories in which something stands under the same names are listed alike, apart from the
order. -/
theorem children_perm
    (h : ∀ name, (fs'.tree.entryAt (name :: d')).isSome = (fs.tree.entryAt (name :: d)).isSome) :
    (fs'.tree.children d').Perm (fs.tree.children d) := by
  refine (List.perm_ext_iff_of_nodup (fs'.tree.children_nodup d') (fs.tree.children_nodup d)).mpr ?_
  intro name
  rw [Tree.mem_children_iff, Tree.mem_children_iff, h]

end

/-! ## What is found -/

section

variable {fs fs' : FileSystem} {buildDir : Path} {layout : Layout} {d d' : Location}

/-- The tests are the entries that are shown, in the order of the directory. -/
theorem discover_of_leadsTo (h : fs.LeadsTo (layout.root buildDir) d) :
    discover fs buildDir layout =
      ((fs.tree.children d).filter layout.shows).map
        (TestTarget.ofEntry (layout.root buildDir)) := by
  rw [discover_eq_map, namesIn_of_leadsTo h]

/-- Where the root leads to no directory, nothing is found. -/
theorem discover_of_not_leadsTo (h : ∀ d, ¬ fs.LeadsTo (layout.root buildDir) d) :
    discover fs buildDir layout = [] := by
  rw [discover_eq_map, namesIn_of_not_leadsTo h]
  rfl

/-- No two tests have the same path. -/
theorem nodup_paths_discover (fs : FileSystem) (buildDir : Path) (layout : Layout) :
    ((discover fs buildDir layout).map TestTarget.path).Nodup := by
  rw [discover_eq_map, List.map_map]
  refine List.Nodup.map_on ?_ ((fs.namesIn_nodup _).filter _)
  exact fun entry _ other _ h => (join_injective h.symm).symm

end

/-- **What is found.** Where the root of the layout leads to no directory, nothing is found; so it
is where the root runs into a dead end, be it that something is missing, at the root or behind a
link, that a file is in the way, or that links lead around in a loop. Otherwise the tests are the
entries of that directory, in its order: each entry that the layout shows stands for one, with the
text of its name and the path of the root joined with its name, and no two have the same path. Two
file systems in which the root leads to directories with the same names, in the same order, have
the same tests, whatever else is in them; where the order is another one, so is that of the
tests. -/
theorem discover_exact (fs : FileSystem) (buildDir : Path) (layout : Layout) :
    let root := layout.root buildDir
    ((∀ d, ¬ fs.LeadsTo root d) → discover fs buildDir layout = []) ∧
    (∀ n l cs, Reaches fs.tree n (startOf root fs.cwd) root.components l cs →
      DeadEnd fs.tree l cs → discover fs buildDir layout = []) ∧
    ∀ d, fs.LeadsTo root d →
      discover fs buildDir layout =
        ((fs.tree.children d).filter layout.shows).map (TestTarget.ofEntry root) ∧
      (∀ name, name ∈ fs.tree.children d ↔ (fs.tree.entryAt (name :: d)).isSome = true) ∧
      (fs.tree.children d).Nodup ∧
      ((discover fs buildDir layout).map TestTarget.path).Nodup ∧
      ∀ fs' d', fs'.LeadsTo root d' →
        (fs'.tree.children d' = fs.tree.children d →
          discover fs' buildDir layout = discover fs buildDir layout) ∧
        ((∀ name, (fs'.tree.entryAt (name :: d')).isSome = (fs.tree.entryAt (name :: d)).isSome) →
          (discover fs' buildDir layout).Perm (discover fs buildDir layout)) := by
  intro root
  refine ⟨discover_of_not_leadsTo, fun n l cs hreach hdead => ?_, fun d hd => ⟨?_, ?_, ?_, ?_, ?_⟩⟩
  · exact discover_of_not_leadsTo fun d => hdead.not_leadsTo hreach
  · exact discover_of_leadsTo hd
  · exact fun name => fs.tree.mem_children_iff name d
  · exact fs.tree.children_nodup d
  · exact nodup_paths_discover fs buildDir layout
  · intro fs' d' hd'
    rw [discover_of_leadsTo hd, discover_of_leadsTo hd']
    refine ⟨fun hsame => ?_, fun hsame => ?_⟩
    · rw [hsame]
    · exact ((children_perm hsame).filter _).map _

/-- The default directory of the groups is an entry of the build directory. -/
def Layout.defaultGroupName : FileName := ⟨utf8 defaultGroupDir, by decide⟩

/-- A link to a directory of groups: one that is hidden, one that is a directory, and one that has a
name that is no text and is a link to nothing. -/
def linkedGroups : FileSystem where
  cwd := []
  tree :=
    let real : FileName := ⟨utf8 "real", by decide⟩
    { entries :=
        [([real], .directory),
         ([⟨utf8 ".DS_Store", by decide⟩, real], .file [] false),
         ([⟨utf8 "stack", by decide⟩, real], .directory),
         ([⟨[0xFE], by decide⟩, real], .link (utf8 "nowhere")),
         ([Layout.defaultGroupName], .link (utf8 "./real"))]
      distinct := by decide }

/-- A directory of groups with the same names, under which other things stand. -/
def plainGroups : FileSystem where
  cwd := []
  tree :=
    let src : FileName := Layout.defaultGroupName
    { entries :=
        [([src], .directory),
         ([⟨utf8 ".DS_Store", by decide⟩, src], .directory),
         ([⟨utf8 "stack", by decide⟩, src], .file [1] true),
         ([⟨[0xFE], by decide⟩, src], .tool .succeed)]
      distinct := by decide }

/-- A link that leads to itself, in place of the directory of the groups. -/
def circlingGroups : FileSystem where
  cwd := []
  tree :=
    { entries := [([Layout.defaultGroupName], .link (utf8 "src/."))]
      distinct := by decide }

/-- The same groups are found behind the link and in the plain directory, the hidden one left out,
and none where the link leads around. -/
theorem discover_linkedGroups :
    let targets : List TestTarget :=
      [⟨"stack", utf8 "/src/stack"⟩, ⟨"\uFFFD", utf8 "/src/" ++ [0xFE]⟩]
    discover linkedGroups (utf8 "/") .defaultGroups = targets ∧
    discover plainGroups (utf8 "/") .defaultGroups = targets ∧
    discover circlingGroups (utf8 "/") .defaultGroups = [] := by
  intro targets
  have hlinked : linkedGroups.LeadsTo (utf8 "/src") [⟨utf8 "real", by decide⟩] :=
    locateDirectory_eq_ok_iff_leadsTo.mp rfl
  have hplain : plainGroups.LeadsTo (utf8 "/src") [Layout.defaultGroupName] :=
    locateDirectory_eq_ok_iff_leadsTo.mp rfl
  obtain ⟨-, -, hfound⟩ := discover_exact linkedGroups (utf8 "/") .defaultGroups
  obtain ⟨htargets, -, -, -, hsame⟩ := hfound _ hlinked
  have hlist : discover linkedGroups (utf8 "/") .defaultGroups = targets := by
    rw [htargets]
    decide
  refine ⟨hlist, ((hsame plainGroups _ hplain).1 (by decide)).trans hlist, ?_⟩
  -- The link has one more component than its name, so each round leaves one more behind.
  have hlink : HasLink circlingGroups.tree [] Layout.defaultGroupName (utf8 "src/.") := ⟨rfl, rfl⟩
  have hround : Reaches circlingGroups.tree (1 + 0) [] [.child Layout.defaultGroupName] []
      ([.child Layout.defaultGroupName] ++ [.here]) :=
    .step (.follow hlink) (.refl _ _)
  exact (discover_exact circlingGroups (utf8 "/") .defaultGroups).2.1 0 [] _ (.refl _ _)
    (.loop hround)

end Testbed
