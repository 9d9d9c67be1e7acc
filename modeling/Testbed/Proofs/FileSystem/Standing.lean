import Testbed.Proofs.FileSystem.Walking

/-!
# What stands at a path

A path that ends with the name of an entry of a directory names that entry, wherever the steps
before the name lead. What stands there is not followed: it may be a link, and one to nothing. The
system takes no path of `maxPathLength` bytes, though the directory before its last name can be
listed.

* `FileSystem.StandsAt` says that an entry stands at a path.
* `walk_append_of_found`: a path goes on from where its first steps lead to.
* `standsAt_of_mem_list`: what is listed in a directory stands at the path of the directory joined
  with the name.
* `find_of_standsAt`: what stands at a path is what the path leads to, unless it is a link or the
  path is too long.
-/

namespace Testbed.FileSystem

/-- The entry `e` stands at a path: the last step of the path goes to the name `name`, the steps
before it lead to the directory `d`, and that has an entry of the name. -/
structure StandsAt (fs : FileSystem) (p : Path) (d : Location) (name : FileName) (e : Entry) :
    Prop where
  leads : ∃ front, p.components = front ++ [.child name] ∧
    walk fs.tree maxLinks (startOf p fs.cwd) front = .ok (.found d)
  directory : fs.tree.isDirectory d = true
  entry : fs.tree.entryAt (name :: d) = some e

/-! ## Going on -/

section

variable {t : Tree} {follow : Location → List Component → Except SystemError Place}
  {l d : Location} {back : List Component} {place : Place}

theorem walkWith_append_of_found
    (hfollow : ∀ l cs, follow l cs = .ok (.found d) → follow l (cs ++ back) = .ok place)
    (hnow : walkWith t follow d back = .ok place) (front : List Component)
    (h : walkWith t follow l front = .ok (.found d)) :
    walkWith t follow l (front ++ back) = .ok place := by
  induction front generalizing l with
  | nil =>
    obtain rfl : l = d := Place.found.inj (Except.ok.inj h)
    exact hnow
  | cons c front ih =>
    rw [List.cons_append, walkWith_cons]
    rcases walkWith_cons.mp h with ⟨l', hadv, hrest⟩ | ⟨name, target, hc, hlink, hrest⟩ |
      ⟨_, _, _, _, hplace⟩
    · exact .inl ⟨l', hadv, ih hrest⟩
    · refine .inr (.inl ⟨name, target, hc, hlink, ?_⟩)
      rw [← List.append_assoc]
      exact hfollow _ _ hrest
    · exact nomatch hplace

/-- A path goes on from where its first steps lead to, if the other steps follow no link. -/
theorem walk_append_of_found (hnow : ∀ follow, walkWith t follow d back = .ok place) (links : Nat)
    (front : List Component) (h : walk t links l front = .ok (.found d)) :
    walk t links l (front ++ back) = .ok place := by
  refine walk_related t t (R := fun follow _ => ∀ l front, follow l front = .ok (.found d) →
    follow l (front ++ back) = .ok place) ?_ ?_ links l front h
  · exact fun _ _ hstop => nomatch hstop
  · exact fun follow _ ih _ front hstep => walkWith_append_of_found ih (hnow follow) front hstep

/-- A step to the name of an entry that is no link leads there. -/
theorem walkWith_child_of_entry {name : FileName} {e : Entry} (hd : t.isDirectory d = true)
    (he : t.entryAt (name :: d) = some e) (hlink : ∀ target, e ≠ .link target) :
    walkWith t follow d [.child name] = .ok (.found (name :: d)) :=
  walkWith_cons.mpr
    (.inl ⟨name :: d, ⟨hd, .inr (.inr ⟨name, e, rfl, rfl, he, hlink⟩)⟩, rfl⟩)

/-- A slash at the end of a path to a directory makes no difference. -/
theorem walk_steps_of_components {p : Path} {links : Nat}
    (h : walk t links l p.components = .ok (.found d)) :
    walk t links l p.steps = .ok (.found d) := by
  cases hslash : p.endsWithSlash with
  | false => rwa [Path.components_eq_steps hslash] at h
  | true =>
    have hcomponents : p.components = p.steps ++ [.here] := by
      rw [Path.components, hslash]
      rfl
    have hstays : ∀ follow l, walkWith t follow l [.here] = .ok (.found d) → l = d := by
      intro follow l hhere
      rw [walkWith] at hhere
      split at hhere
      · exact Place.found.inj (Except.ok.inj hhere)
      · cases hhere
    rw [hcomponents] at h
    obtain ⟨m, hm, rfl⟩ := walk_append (List.cons_ne_nil _ _) hstays links _ h
    exact hm

end

/-! ## Entries of a directory -/

section

variable {fs : FileSystem} {p : Path} {d : Location}

theorem component?_bytes (name : FileName) : Path.component? name.bytes = some (.child name) := by
  have h := name.namesEntry
  rw [Path.component?, if_neg h.ne_nil, if_neg h.ne_self, if_neg h.ne_parent,
    FileName.ofBytes?_bytes]

/-- What is listed in a directory stands at the path of the directory joined with the name. -/
theorem standsAt_of_mem_list {names : List FileName} {name : FileName}
    (h : fs.list p = .ok names) (hname : name ∈ names) :
    ∃ d e, fs.locateDirectory p = .ok d ∧ fs.StandsAt (Path.join p name.bytes) d name e := by
  unfold list at h
  cases hd : fs.locateDirectory p with
  | error e =>
    rw [hd] at h
    exact nomatch h
  | ok d =>
    rw [hd] at h
    obtain rfl : fs.tree.children d = names := Except.ok.inj h
    obtain ⟨e, he⟩ := Option.isSome_iff_exists.mp ((Tree.mem_children_iff ..).mp hname)
    obtain ⟨hne, -, hwalk, hdir⟩ := locateDirectory_eq_ok_iff_components.mp hd
    have hcomponents : (Path.join p name.bytes).components = p.steps ++ [.child name] := by
      rw [Path.components_eq_steps (Path.endsWithSlash_join name.namesEntry p),
        Path.steps_join name.namesEntry, component?_bytes]
      rfl
    have hstart : startOf (Path.join p name.bytes) fs.cwd = startOf p fs.cwd := by
      rw [startOf, startOf, Path.isAbsolute_join_name name.namesEntry hne]
    exact ⟨d, e, rfl, ⟨p.steps, hcomponents, hstart ▸ walk_steps_of_components hwalk⟩, hdir, he⟩

/-- What stands at a path is what the path leads to, unless it is a link or the path is too
long. -/
theorem find_of_standsAt {name : FileName} {e : Entry} (h : fs.StandsAt p d name e)
    (hlength : p.length < maxPathLength) (hlink : ∀ target, e ≠ .link target) :
    fs.find p = .ok (.found (name :: d)) := by
  obtain ⟨front, hcomponents, hwalk⟩ := h.leads
  have hne : ¬ p.isEmpty = true := by
    intro hnil
    obtain rfl := List.isEmpty_iff.mp hnil
    exact List.append_ne_nil_of_right_ne_nil front (List.cons_ne_nil _ _) hcomponents.symm
  rw [find, if_neg hne, if_neg (Nat.not_le.mpr hlength), hcomponents]
  exact walk_append_of_found
    (fun _ => walkWith_child_of_entry h.directory h.entry hlink) maxLinks front hwalk

end

end Testbed.FileSystem
