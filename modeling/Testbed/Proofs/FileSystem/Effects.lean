import Testbed.FileSystem.Effect
import Testbed.Proofs.FileSystem.Walking

/-!
# What writing and removing leave

A file that was written is listed in the directory before its name, and what was removed is not
listed there, whatever else the tree holds and wherever links lead.

* `slot_join`: the last step of a path is taken in the directory before its last name.
* `mem_list_of_write`: after a write the directory has an entry of the name.
* `notMem_list_of_remove`: after a removal the directory has none, if it can be listed at all.
-/

namespace Testbed

namespace FileSystem

/-- Writing a file puts it where its path leads, in the place of no directory and no link. -/
theorem put_of_writeFile {fs fs' : FileSystem} {p : Path} {content : Bytes} {executable : Bool}
    (h : fs.writeFile p content executable = .ok fs') :
    ∃ place, fs.find p = .ok place ∧ ∃ (l : Location) (e : Entry),
      fs' = { fs with tree := fs.tree.put l e } ∧
      (∀ e, fs.tree.entryAt l = some e → e.goesOn = false) ∧
      ∀ d name, place = .vacant d name → l = name :: d := by
  unfold writeFile at h
  cases hplace : fs.find p with
  | error e =>
    rw [hplace] at h
    exact nomatch h
  | ok place =>
    rw [hplace] at h
    refine ⟨place, rfl, ?_⟩
    cases place with
    | vacant d name =>
      have hfree : IsFree fs.tree d name := isFree_of_find hplace
      refine ⟨name :: d, .file content executable, (Except.ok.inj h).symm, ?_, ?_⟩
      · intro e he
        rw [hfree.2] at he
        exact nomatch he
      · rintro _ _ ⟨⟩
        rfl
    | found l =>
      cases he : fs.tree.entryAt l with
      | none =>
        simp only [he] at h
        exact nomatch h
      | some e =>
        cases e with
        | file old before =>
          simp only [he, Except.ok.injEq] at h
          refine ⟨l, .file content (before || executable), h.symm, ?_, fun _ _ hv => nomatch hv⟩
          intro other hother
          rw [he] at hother
          exact Option.some.inj hother ▸ rfl
        | directory =>
          simp only [he] at h
          exact nomatch h
        | link target =>
          simp only [he] at h
          exact nomatch h
        | tool program =>
          simp only [he] at h
          exact nomatch h

/-- The last call of a change was made. -/
theorem eq_ok_of_lastCall {fs fs' : FileSystem} {r : Except SystemError FileSystem}
    (h : fs.lastCall r = (.ok (), fs')) : r = .ok fs' := by
  cases r with
  | error e => exact nomatch congrArg Prod.fst h
  | ok after => exact congrArg Except.ok (congrArg Prod.snd h)

/-- The entry of this name in the directory that a path leads to was erased, with all below it. -/
def Erases (fs : FileSystem) (directory : Path) (piece : Bytes) (fs' : FileSystem) : Prop :=
  ∃ (d : Location) (name : FileName), name.bytes = piece ∧ fs.locateDirectory directory = .ok d ∧
    fs' = { fs with tree := fs.tree.erase (name :: d) }

/-- Where an entry was erased, its directory does not list it, if it can be listed at all. -/
theorem notMem_list_of_erases {fs fs' : FileSystem} {directory : Path} {piece : Bytes}
    (hslash : directory.endsWithSlash = false) (h : Erases fs directory piece fs')
    {names : List FileName} (hlist : fs'.list directory = .ok names) :
    ∀ name ∈ names, name.bytes ≠ piece := by
  obtain ⟨d, name, hname, hdir, rfl⟩ := h
  intro other hother hbytes
  obtain rfl : other = name := FileName.ext_bytes (hbytes.trans hname.symm)
  rw [list] at hlist
  cases hl : locateDirectory { fs with tree := fs.tree.erase (other :: d) } directory with
  | error e =>
    rw [hl] at hlist
    exact nomatch hlist
  | ok l =>
    rw [hl] at hlist
    obtain rfl := Except.ok.inj hlist
    -- The tree before the removal was larger, so the path led to the same directory there.
    have hbefore : fs.locateDirectory directory = .ok l := by
      refine locateDirectory_extends ?_ ?_ hslash hl
      · exact extends_erase fs.tree (other :: d)
      · rfl
    obtain rfl := Except.ok.inj (hbefore.symm.trans hdir)
    rw [Tree.mem_children_iff, Tree.entryAt_erase, if_pos] at hother
    · exact nomatch hother
    · exact List.isSuffixOf_iff_suffix.mpr List.suffix_rfl

section

variable {fs fs' : FileSystem} {directory : Path} (hne : directory ≠ [])
  (hslash : directory.endsWithSlash = false) {piece : Bytes} (hpiece : NamesEntry piece)

include hne hslash hpiece

/-- The last step of a path is taken in the directory before its last name. -/
theorem slot_join {s : Slot} (h : fs.slot (Path.join directory piece) = .ok s) :
    fs.locateDirectory directory = .ok s.directory ∧ Path.component? piece = some s.last := by
  rw [slot] at h
  by_cases hnul : nul ∈ Path.join directory piece
  · rw [if_pos hnul] at h
    exact nomatch h
  have hnil : ¬ (Path.join directory piece).isEmpty = true := by
    rw [List.isEmpty_iff]
    exact Path.join_ne_nil hpiece directory
  rw [if_neg hnul, if_neg hnil] at h
  by_cases hlen : maxPathLength ≤ (Path.join directory piece).length
  · rw [if_pos hlen] at h
    exact nomatch h
  obtain ⟨c, hc⟩ : ∃ c, Path.component? piece = some c := by
    rcases Path.component?_eq hpiece with ⟨name, -, hc⟩ | hc <;> exact ⟨_, hc⟩
  have hsteps : (Path.pieces (Path.join directory piece)).filterMap Path.component? =
      directory.steps ++ [c] := by
    have := Path.steps_join hpiece directory
    rw [hc] at this
    exact this
  simp only [if_neg hlen, hsteps, List.dropLast_concat, List.getLast?_concat,
    Option.getD_some] at h
  cases hw : walk fs.tree maxLinks (startOf (Path.join directory piece) fs.cwd) directory.steps with
  | error e =>
    rw [hw] at h
    exact nomatch h
  | ok place =>
    rw [hw] at h
    cases place with
    | vacant _ _ => exact nomatch h
    | found d =>
      by_cases hdir : fs.tree.isDirectory d = true
      · simp only [if_pos hdir, Except.ok.injEq] at h
        subst h
        exact ⟨locateDirectory_of_walk hne hslash hpiece (Nat.lt_of_not_le hlen) hw hdir, hc⟩
      · simp only [if_neg hdir, reduceCtorEq] at h

/-- A file that was written has an entry in the directory before its name: itself, or a link that
leads to it. -/
theorem mem_list_of_writeFile {content : Bytes} {executable : Bool}
    (h : fs.writeFile (Path.join directory piece) content executable = .ok fs') :
    ∃ (names : List FileName) (name : FileName), name.bytes = piece ∧
      fs'.list directory = .ok names ∧ name ∈ names := by
  obtain ⟨place, hplace, new, written, rfl, hfree, hnew⟩ := put_of_writeFile h
  obtain ⟨d, name, hname, hdir, hlast⟩ := find_join hne hslash hpiece hplace
  have hdir' : FileSystem.locateDirectory { fs with tree := fs.tree.put new written } directory =
      .ok d := by
    refine locateDirectory_extends ?_ ?_ hslash hdir
    · exact extends_put hfree
    · rfl
  refine ⟨(fs.tree.put new written).children d, name, hname, ?_, ?_⟩
  · rw [list, hdir']
    rfl
  rw [Tree.mem_children_iff, Tree.entryAt_put]
  split
  · rfl
  · next hother =>
    refine hlast.resolve_left ?_
    rintro rfl
    exact hother (hnew d name rfl).symm

/-! ## Removing -/

/-- A call that takes its last step to an entry is a call for the entry of the last name. -/
theorem slot_join_child {d : Location} {name : FileName} {slashed : Bool}
    (h : fs.slot (Path.join directory piece) = .ok ⟨d, .child name, slashed⟩) :
    name.bytes = piece ∧ fs.locateDirectory directory = .ok d := by
  obtain ⟨hdir, hc⟩ := slot_join hne hslash hpiece h
  refine ⟨?_, hdir⟩
  rcases Path.component?_eq hpiece with ⟨name', hname, hc'⟩ | hc'
  · obtain rfl := Component.child.inj (Option.some.inj (hc'.symm.trans hc))
    exact hname
  · exact nomatch hc'.symm.trans hc

/-- Removing a file erases the entry of the last name. -/
theorem erases_of_removeFile (h : fs.removeFile (Path.join directory piece) = .ok fs') :
    Erases fs directory piece fs' := by
  unfold removeFile at h
  split at h
  · exact nomatch h
  · next d name slashed hs =>
    obtain ⟨hname, hdir⟩ := slot_join_child hne hslash hpiece hs
    split at h
    · exact nomatch h
    · exact nomatch h
    · split at h
      · exact nomatch h
      · exact ⟨d, name, hname, hdir, (Except.ok.inj h).symm⟩
  · exact nomatch h
  · exact nomatch h

/-- Removing an empty directory erases the entry of the last name. -/
theorem erases_of_removeDirectory (h : fs.removeDirectory (Path.join directory piece) = .ok fs') :
    Erases fs directory piece fs' := by
  unfold removeDirectory at h
  split at h
  · exact nomatch h
  · next d name slashed hs =>
    obtain ⟨hname, hdir⟩ := slot_join_child hne hslash hpiece hs
    split at h
    · exact nomatch h
    · split at h
      · exact ⟨d, name, hname, hdir, (Except.ok.inj h).symm⟩
      · exact nomatch h
    · exact nomatch h
  · exact nomatch h
  · exact nomatch h
  · exact nomatch h

/-- Whatever is removed, the last thing that is done is to erase the entry of the last name. -/
theorem erases_of_removeAll (h : fs.removeAll (Path.join directory piece) = (.ok (), fs')) :
    ∃ before, Erases before directory piece fs' := by
  unfold removeAll at h
  split at h
  · exact nomatch congrArg Prod.fst h
  · next l _ =>
    split at h
    · exact ⟨_, erases_of_removeDirectory hne hslash hpiece (eq_ok_of_lastCall h)⟩
    · exact ⟨_, erases_of_removeFile hne hslash hpiece (eq_ok_of_lastCall h)⟩

/-! ## Effects -/

/-- **After a write** the directory before the last name of the path lists that name. -/
theorem mem_list_of_write {before after : FileSystem} {content : Bytes} {executable : Bool}
    (h : (Effect.write (Path.join directory piece) content executable).apply before =
      (.ok (), after)) :
    ∃ (names : List FileName) (name : FileName), name.bytes = piece ∧
      after.list directory = .ok names ∧ name ∈ names := by
  simp only [Effect.apply, afterParents] at h
  split at h
  · exact nomatch congrArg Prod.fst h
  · exact mem_list_of_writeFile hne hslash hpiece (eq_ok_of_lastCall h)

/-- **After a removal** the directory before the last name of the path does not list that name. -/
theorem notMem_list_of_remove {before after : FileSystem}
    (h : (Effect.remove (Path.join directory piece)).apply before = (.ok (), after))
    {names : List FileName} (hlist : after.list directory = .ok names) :
    ∀ name ∈ names, name.bytes ≠ piece := by
  obtain ⟨last, herases⟩ := erases_of_removeAll hne hslash hpiece h
  exact notMem_list_of_erases hslash herases hlist

end

end FileSystem

end Testbed
