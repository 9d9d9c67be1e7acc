import Testbed.FileSystem.Walk

/-!
# Where a path leads

What is known about following a path when something about the path or the tree is known: the path
ends with the name of an entry, or the tree is a part of a larger one.

* `Path.steps_join`: joining a name to a path adds one step to those of the path.
* `walk_append`: a path leads through where its first steps lead to.
* `walk_extends`: a directory that is found in a tree is found in every tree that has at least its
  directories and its links.
* `find_join`: a path that ends with the name of an entry leads through the directory before that
  name.
-/

namespace Testbed

/-! ## The steps of a path -/

/-- A part of a path that takes no other step than to an entry of that name, if it takes one. -/
structure NamesEntry (piece : Bytes) : Prop where
  ne_nil : piece ≠ []
  slash : slash ∉ piece
  ne_self : piece ≠ selfName
  ne_parent : piece ≠ parentName

theorem FileName.namesEntry (name : FileName) : NamesEntry name.bytes :=
  ⟨name.valid.1, name.valid.2.1, name.valid.2.2.2.1, name.valid.2.2.2.2.1⟩

namespace Path

/-- The steps of a path, whether or not a slash follows the last one. -/
def steps (p : Path) : List Component := (pieces p).filterMap component?

theorem components_eq_steps {p : Path} (h : endsWithSlash p = false) : components p = p.steps := by
  rw [components, h]
  exact List.append_nil _

theorem pieces_ne_nil (p : Path) : pieces p ≠ [] := by
  cases p with
  | nil => exact List.cons_ne_nil _ _
  | cons b rest =>
    rw [pieces]
    split
    · exact List.cons_ne_nil _ _
    · split <;> exact List.cons_ne_nil _ _

/-- A path may be cut at a slash. -/
theorem pieces_append (front back : Path) :
    pieces (front ++ slash :: back) = pieces front ++ pieces back := by
  induction front with
  | nil => simp [pieces]
  | cons b front ih =>
    by_cases hb : b = slash
    · simp [pieces, hb, ih]
    · have hne : (b == slash) = false := beq_false_of_ne hb
      simp only [List.cons_append, pieces, hne, Bool.false_eq_true, if_false, ih]
      cases hp : pieces front with
      | nil => exact absurd hp (pieces_ne_nil front)
      | cons piece more => rfl

/-- What holds no slash is one part. -/
theorem pieces_of_notMem {piece : Bytes} (h : slash ∉ piece) : pieces piece = [piece] := by
  induction piece with
  | nil => rfl
  | cons b rest ih =>
    simp only [List.mem_cons, not_or] at h
    have hne : (b == slash) = false := beq_false_of_ne fun e => h.1 e.symm
    simp only [pieces, hne, Bool.false_eq_true, if_false, ih h.2]

section

variable {piece : Bytes} (h : NamesEntry piece)

include h

theorem join_eq (p : Path) : join p piece = p ++ glue p ++ piece := by
  refine join_relative ?_
  cases hp : piece with
  | nil => rfl
  | cons b rest =>
    have hb : b ≠ slash := fun e => h.slash (by rw [hp, e]; exact List.mem_cons_self)
    exact beq_false_of_ne fun e => hb (Option.some.inj e)

/-- Joining a name adds the step that the name takes. -/
theorem steps_join (p : Path) : (join p piece).steps = p.steps ++ (component? piece).toList := by
  have hlast : [piece].filterMap component? = (component? piece).toList := by
    cases hc : component? piece <;> simp [hc]
  rw [join_eq h]
  rcases List.eq_nil_or_concat p with rfl | ⟨init, b, rfl⟩
  · simp only [glue_nil, List.nil_append, steps, pieces_of_notMem h.slash, hlast]
    rfl
  · by_cases hb : b = slash
    · -- The path ends with a slash, after which an empty part takes no step.
      subst hb
      have hglue : glue (init ++ [slash]) = [] := by simp [glue]
      have hempty : (pieces []).filterMap component? = [] := rfl
      rw [List.concat_eq_append, hglue, List.append_nil, List.append_assoc]
      simp only [steps, List.singleton_append, pieces_append, pieces_of_notMem h.slash,
        List.filterMap_append, hlast]
      rw [hempty, List.append_nil]
    · have hglue : glue (init ++ [b]) = [slash] := by simp [glue, hb]
      rw [List.concat_eq_append, hglue, List.append_assoc (init ++ [b])]
      simp only [steps, List.singleton_append, pieces_append, pieces_of_notMem h.slash,
        List.filterMap_append, hlast]

/-- What was joined to a name does not end with a slash. -/
theorem endsWithSlash_join (p : Path) : endsWithSlash (join p piece) = false := by
  rw [join_eq h, endsWithSlash, List.getLast?_append, List.getLast?_eq_some_getLast h.ne_nil,
    Option.some_or]
  exact beq_false_of_ne fun e => h.slash (Option.some.inj e ▸ List.getLast_mem h.ne_nil)

theorem join_ne_nil (p : Path) : join p piece ≠ [] := by
  rw [join_eq h]
  exact fun e => h.ne_nil (List.append_eq_nil_iff.mp e).2

theorem length_le_length_join (p : Path) : p.length ≤ (join p piece).length := by
  rw [join_eq h, List.length_append, List.length_append]
  omega

/-- What was joined to a name starts where the path did, unless that was empty. -/
theorem isAbsolute_join_name {p : Path} (hp : p ≠ []) :
    isAbsolute (join p piece) = isAbsolute p := by
  rw [join_eq h]
  cases p with
  | nil => exact absurd rfl hp
  | cons b rest => rfl

/-- The step that a name takes leads to the entry of that name, or no entry can have it. -/
theorem component?_eq :
    (∃ name : FileName, name.bytes = piece ∧ component? piece = some (.child name)) ∨
      component? piece = some .impossible := by
  rw [component?, if_neg h.ne_nil, if_neg h.ne_self, if_neg h.ne_parent, FileName.ofBytes?]
  by_cases hv : IsFileName piece
  · rw [dif_pos hv]
    exact .inl ⟨⟨piece, hv⟩, rfl, rfl⟩
  · rw [dif_neg hv]
    exact .inr rfl

end

end Path

/-- Whether a path can go on from an entry: into a directory, or where a link leads. -/
def Entry.goesOn : Entry → Bool
  | .directory => true
  | .link _ => true
  | .file _ _ => false
  | .tool _ => false

namespace FileSystem

/-! ## One step -/

section

variable {t : Tree} {follow : Location → List Component → Except SystemError Place}
  {l : Location} {c : Component} {rest : List Component} {place : Place}

/-- From the directory `l` the step `c` leads to `l'` without following a link. -/
def Advances (t : Tree) (l : Location) (c : Component) (l' : Location) : Prop :=
  t.isDirectory l = true ∧
    ((c = .here ∧ l' = l) ∨ (c = .up ∧ l' = l.tail) ∨
      ∃ name e, c = .child name ∧ l' = name :: l ∧ t.entryAt (name :: l) = some e ∧
        ∀ target, e ≠ .link target)

/-- The name `name` is free in the directory `l`. -/
def IsFree (t : Tree) (l : Location) (name : FileName) : Prop :=
  t.isDirectory l = true ∧ t.entryAt (name :: l) = none

/-- In the directory `l` a link that holds `target` has the name `name`. -/
def HasLink (t : Tree) (l : Location) (name : FileName) (target : Path) : Prop :=
  t.isDirectory l = true ∧ t.entryAt (name :: l) = some (.link target)

/-- A path goes on after its first step, or that step follows a link, or it is the last one and
names what is free. -/
theorem walkWith_cons :
    walkWith t follow l (c :: rest) = .ok place ↔
      (∃ l', Advances t l c l' ∧ walkWith t follow l' rest = .ok place) ∨
      (∃ name target, c = .child name ∧ HasLink t l name target ∧
        follow (startOf target l) (Path.components target ++ rest) = .ok place) ∨
      (∃ name, c = .child name ∧ IsFree t l name ∧ rest = [] ∧ place = .vacant l name) := by
  by_cases hl : t.isDirectory l = true
  · cases c with
    | here => simp [walkWith, Advances, hl]
    | up => simp [walkWith, Advances, hl]
    | impossible => simp [walkWith, Advances, hl]
    | child name =>
      cases he : t.entryAt (name :: l) with
      | none =>
        by_cases hr : rest = []
        · simp [walkWith, Advances, HasLink, IsFree, hl, he, hr, eq_comm]
        · simp [walkWith, Advances, HasLink, IsFree, hl, he, hr]
      | some e => cases e <;> simp [walkWith, Advances, HasLink, IsFree, hl, he]
  · simp [walkWith, Advances, HasLink, IsFree, hl]

/-! ## Several steps -/

/-- What holds of a path that may follow no link, and of one more link whenever it holds of the
links before, holds of every path. It may relate the paths in two trees. -/
theorem walk_related (t t' : Tree)
    {R : (Location → List Component → Except SystemError Place) →
      (Location → List Component → Except SystemError Place) → Prop}
    (hstop : R (fun _ _ => .error .tooManyLinks) (fun _ _ => .error .tooManyLinks))
    (hstep : ∀ follow follow', R follow follow' → R (walkWith t follow) (walkWith t' follow'))
    (links : Nat) : R (walk t links) (walk t' links) := by
  induction links with
  | zero => exact hstep _ _ hstop
  | succ links ih => exact hstep _ _ ih

theorem walkWith_append {back : List Component} {P : Location → Prop} (hback : back ≠ [])
    (hfollow : ∀ l cs, follow l (cs ++ back) = .ok place →
      ∃ d, follow l cs = .ok (.found d) ∧ P d)
    (hnow : ∀ l, walkWith t follow l back = .ok place → P l)
    (front : List Component) (h : walkWith t follow l (front ++ back) = .ok place) :
    ∃ d, walkWith t follow l front = .ok (.found d) ∧ P d := by
  induction front generalizing l with
  | nil => exact ⟨l, rfl, hnow l h⟩
  | cons c front ih =>
    rcases walkWith_cons.mp h with ⟨l', hadv, hrest⟩ | ⟨name, target, hc, hlink, hrest⟩ |
      ⟨_, _, _, hnil, _⟩
    · obtain ⟨d, hd, hP⟩ := ih hrest
      exact ⟨d, walkWith_cons.mpr (.inl ⟨l', hadv, hd⟩), hP⟩
    · rw [List.append_eq, ← List.append_assoc] at hrest
      obtain ⟨d, hd, hP⟩ := hfollow _ _ hrest
      exact ⟨d, walkWith_cons.mpr (.inr (.inl ⟨name, target, hc, hlink, hd⟩)), hP⟩
    · exact absurd (List.append_eq_nil_iff.mp hnil).2 hback

/-- A path leads through where its first steps lead to: what the other steps say of their start,
they say of that place. -/
theorem walk_append {back : List Component} {P : Location → Prop} (hback : back ≠ [])
    (hnow : ∀ follow l, walkWith t follow l back = .ok place → P l) (links : Nat)
    (front : List Component) (h : walk t links l (front ++ back) = .ok place) :
    ∃ d, walk t links l front = .ok (.found d) ∧ P d := by
  refine walk_related t t (R := fun follow _ => ∀ l front, follow l (front ++ back) = .ok place →
    ∃ d, follow l front = .ok (.found d) ∧ P d) ?_ ?_ links l front h
  · exact fun _ _ hstop => nomatch hstop
  · exact fun follow _ ih _ front hstep => walkWith_append hback ih (hnow follow) front hstep

/-- A step to the name of an entry leads to a free name, or there is such an entry. -/
theorem walkWith_child {name : FileName} (h : walkWith t follow l [.child name] = .ok place) :
    t.isDirectory l = true ∧
      (place = .vacant l name ∨ (t.entryAt (name :: l)).isSome = true) := by
  rcases walkWith_cons.mp h with ⟨_, ⟨hl, hadv⟩, -⟩ | ⟨_, _, hc, ⟨hl, he⟩, -⟩ |
    ⟨_, hc, ⟨hl, -⟩, -, hplace⟩
  · rcases hadv with ⟨hc, -⟩ | ⟨hc, -⟩ | ⟨_, _, hc, -, he, -⟩
    · exact nomatch hc
    · exact nomatch hc
    · obtain rfl := Component.child.inj hc
      exact ⟨hl, .inr (Option.isSome_of_mem he)⟩
  · obtain rfl := Component.child.inj hc
    exact ⟨hl, .inr (Option.isSome_of_mem he)⟩
  · obtain rfl := Component.child.inj hc
    exact ⟨hl, .inl hplace⟩

/-- A step that names no entry that can exist leads nowhere. -/
theorem walkWith_impossible : walkWith t follow l [.impossible] ≠ .ok place := by
  intro h
  rcases walkWith_cons.mp h with ⟨_, ⟨_, hadv⟩, -⟩ | ⟨_, _, hc, -⟩ | ⟨_, hc, -⟩
  · rcases hadv with ⟨hc, -⟩ | ⟨hc, -⟩ | ⟨_, _, hc, -⟩ <;> exact nomatch hc
  · exact nomatch hc
  · exact nomatch hc

theorem isFree_of_walkWith {d : Location} {name : FileName}
    (hfollow : ∀ l cs, follow l cs = .ok (.vacant d name) → IsFree t d name)
    (h : walkWith t follow l rest = .ok (.vacant d name)) : IsFree t d name := by
  induction rest generalizing l with
  | nil => exact nomatch h
  | cons c rest ih =>
    rcases walkWith_cons.mp h with ⟨_, -, hrest⟩ | ⟨_, _, -, -, hrest⟩ |
      ⟨_, -, hfree, -, hplace⟩
    · exact ih hrest
    · exact hfollow _ _ hrest
    · obtain ⟨rfl, rfl⟩ := Place.vacant.inj hplace
      exact hfree

/-- What a path finds vacant is free. -/
theorem isFree_of_walk {links : Nat} {d : Location} {name : FileName}
    (h : walk t links l rest = .ok (.vacant d name)) : IsFree t d name := by
  refine walk_related t t (R := fun follow _ => ∀ l rest, follow l rest = .ok (.vacant d name) →
    IsFree t d name) ?_ ?_ links l rest h
  · exact fun _ _ hstop => nomatch hstop
  · exact fun _ _ ih _ _ hstep => isFree_of_walkWith ih hstep

/-! ## Larger trees -/

/-- The tree `big` has every directory and every link of `small`, in the same place. -/
def Extends (big small : Tree) : Prop :=
  ∀ l e, e.goesOn = true → small.entryAt l = some e → big.entryAt l = some e

theorem Extends.isDirectory {big small : Tree} (h : Extends big small)
    (hl : small.isDirectory l = true) : big.isDirectory l = true := by
  simp only [Tree.isDirectory, Bool.or_eq_true, beq_iff_eq] at hl ⊢
  exact hl.imp id (h l .directory rfl)

/-- Putting something where there was neither a directory nor a link leaves all of these. -/
theorem extends_put {new : Entry} (h : ∀ e, t.entryAt l = some e → e.goesOn = false) :
    Extends (t.put l new) t := by
  intro m e he hm
  have hne : m ≠ l := by
    rintro rfl
    rw [h e hm] at he
    exact nomatch he
  rw [Tree.entryAt_put, if_neg hne, hm]

theorem extends_erase (t : Tree) (l : Location) : Extends t (t.erase l) := by
  intro m e _ hm
  rw [Tree.entryAt_erase] at hm
  split at hm
  · exact nomatch hm
  · exact hm

/-- Whatever a path finds a directory from is a directory itself. -/
theorem isDirectory_of_walkWith {d : Location} (hd : t.isDirectory d = true)
    (h : walkWith t follow l rest = .ok (.found d)) : t.isDirectory l = true := by
  cases rest with
  | nil =>
    obtain rfl : l = d := Place.found.inj (Except.ok.inj h)
    exact hd
  | cons c rest =>
    rcases walkWith_cons.mp h with ⟨_, hadv, -⟩ | ⟨_, _, -, hlink, -⟩ | ⟨_, -, hfree, -⟩
    · exact hadv.1
    · exact hlink.1
    · exact hfree.1

theorem Advances.of_extends {big small : Tree} {l' : Location} (h : Extends big small)
    (hadv : Advances small l c l') (hl' : small.isDirectory l' = true) : Advances big l c l' := by
  refine ⟨h.isDirectory hadv.1, ?_⟩
  rcases hadv.2 with hhere | hup | ⟨name, e, hc, rfl, -, -⟩
  · exact .inl hhere
  · exact .inr (.inl hup)
  · have hbig : big.isDirectory (name :: l) = true := h.isDirectory hl'
    simp only [Tree.isDirectory, List.isEmpty_cons, Bool.false_or, beq_iff_eq] at hbig
    exact .inr (.inr ⟨name, .directory, hc, rfl, hbig, fun _ e => nomatch e⟩)

theorem walkWith_extends {big small : Tree}
    {follow' : Location → List Component → Except SystemError Place} {d : Location}
    (h : Extends big small) (hd : small.isDirectory d = true)
    (hfollow : ∀ l cs, follow l cs = .ok (.found d) → follow' l cs = .ok (.found d))
    (cs : List Component) (hwalk : walkWith small follow l cs = .ok (.found d)) :
    walkWith big follow' l cs = .ok (.found d) := by
  induction cs generalizing l with
  | nil => exact hwalk
  | cons c cs ih =>
    rw [walkWith_cons]
    rcases walkWith_cons.mp hwalk with ⟨l', hadv, hrest⟩ | ⟨name, target, hc, hlink, hrest⟩ |
      ⟨_, _, _, _, hplace⟩
    · exact .inl ⟨l', hadv.of_extends h (isDirectory_of_walkWith hd hrest), ih hrest⟩
    · refine .inr (.inl ⟨name, target, hc, ⟨h.isDirectory hlink.1, ?_⟩, hfollow _ _ hrest⟩)
      exact h _ _ rfl hlink.2
    · exact nomatch hplace

/-- A directory that a path finds in a tree is found in every larger one. -/
theorem walk_extends {big small : Tree} (h : Extends big small) {d : Location}
    (hd : small.isDirectory d = true) (links : Nat) (cs : List Component)
    (hwalk : walk small links l cs = .ok (.found d)) : walk big links l cs = .ok (.found d) := by
  refine walk_related small big (R := fun follow follow' => ∀ l cs,
    follow l cs = .ok (.found d) → follow' l cs = .ok (.found d)) ?_ ?_ links l cs hwalk
  · exact fun _ _ hstop => nomatch hstop
  · exact fun _ _ ih _ cs hstep => walkWith_extends h hd ih cs hstep

theorem isFree_of_find {fs : FileSystem} {p : Path} {d : Location} {name : FileName}
    (h : fs.find p = .ok (.vacant d name)) : IsFree fs.tree d name := by
  unfold find at h
  split at h
  · exact nomatch h
  · split at h
    · exact nomatch h
    · exact isFree_of_walk h

end

/-! ## The directory that a path leads to -/

/-- A path leads to a directory if its components do and the system takes it. -/
theorem locateDirectory_eq_ok_iff_components {fs : FileSystem} {p : Path} {l : Location} :
    fs.locateDirectory p = .ok l ↔
      p ≠ [] ∧ p.length < maxPathLength ∧
        walk fs.tree maxLinks (startOf p fs.cwd) p.components = .ok (.found l) ∧
        fs.tree.isDirectory l = true := by
  unfold locateDirectory locate find
  by_cases hp : p = []
  · simp [hp]
  · by_cases hlen : maxPathLength ≤ p.length
    · simp [hp, hlen, Nat.not_lt.mpr hlen]
    · simp only [List.isEmpty_iff, hp, if_false, hlen, ne_eq, not_false_eq_true, true_and,
        Nat.lt_of_not_le hlen]
      cases walk fs.tree maxLinks (startOf p fs.cwd) p.components with
      | error e => simp
      | ok place =>
        cases place with
        | vacant d name => simp
        | found m =>
          by_cases hm : fs.tree.isDirectory m = true
          · simp only [hm, if_true, Except.ok.injEq, Place.found.injEq]
            exact ⟨fun e => ⟨e, e ▸ hm⟩, fun e => e.1⟩
          · simp only [hm, Bool.false_eq_true, if_false, reduceCtorEq, false_iff, not_and,
              Except.ok.injEq, Place.found.injEq]
            rintro rfl
            exact hm

/-- A path that does not end with a slash leads to a directory if its steps do and the system
takes it. -/
theorem locateDirectory_eq_ok_iff {fs : FileSystem} {p : Path} {l : Location}
    (h : p.endsWithSlash = false) :
    fs.locateDirectory p = .ok l ↔
      p ≠ [] ∧ p.length < maxPathLength ∧
        walk fs.tree maxLinks (startOf p fs.cwd) p.steps = .ok (.found l) ∧
        fs.tree.isDirectory l = true := by
  rw [locateDirectory_eq_ok_iff_components, Path.components_eq_steps h]

/-- A directory that a path leads to is still there in a larger tree. -/
theorem locateDirectory_extends {fs fs' : FileSystem} (h : Extends fs'.tree fs.tree)
    (hcwd : fs'.cwd = fs.cwd) {p : Path} (hp : p.endsWithSlash = false) {l : Location}
    (hl : fs.locateDirectory p = .ok l) : fs'.locateDirectory p = .ok l := by
  rw [locateDirectory_eq_ok_iff hp] at hl ⊢
  obtain ⟨hne, hlen, hwalk, hdir⟩ := hl
  exact ⟨hne, hlen, hcwd ▸ walk_extends h hdir maxLinks _ hwalk, h.isDirectory hdir⟩

section

variable {fs : FileSystem} {directory : Path} (hne : directory ≠ [])
  (hslash : directory.endsWithSlash = false) {piece : Bytes} (hpiece : NamesEntry piece)

include hne hslash hpiece

/-- Where the steps before the last name of a path lead, the directory before it is. -/
theorem locateDirectory_of_walk {d : Location}
    (hlen : (Path.join directory piece).length < maxPathLength)
    (hwalk : walk fs.tree maxLinks (startOf (Path.join directory piece) fs.cwd) directory.steps =
      .ok (.found d))
    (hdir : fs.tree.isDirectory d = true) : fs.locateDirectory directory = .ok d := by
  rw [locateDirectory_eq_ok_iff hslash]
  rw [startOf, Path.isAbsolute_join_name hpiece hne] at hwalk
  exact ⟨hne, Nat.lt_of_le_of_lt (Path.length_le_length_join hpiece directory) hlen, hwalk, hdir⟩

/-- A path that leads somewhere leads through the directory before its last name. -/
theorem find_join {place : Place} (h : fs.find (Path.join directory piece) = .ok place) :
    ∃ (d : Location) (name : FileName), name.bytes = piece ∧
      fs.locateDirectory directory = .ok d ∧
      (place = .vacant d name ∨ (fs.tree.entryAt (name :: d)).isSome = true) := by
  have hnil : ¬ (Path.join directory piece).isEmpty = true := by
    rw [List.isEmpty_iff]
    exact Path.join_ne_nil hpiece directory
  rw [find, if_neg hnil] at h
  by_cases hlen : maxPathLength ≤ (Path.join directory piece).length
  · rw [if_pos hlen] at h
    exact nomatch h
  rw [if_neg hlen, Path.components_eq_steps (Path.endsWithSlash_join hpiece directory),
    Path.steps_join hpiece] at h
  rcases Path.component?_eq hpiece with ⟨name, hname, hc⟩ | hc
  · rw [hc] at h
    have hnow : ∀ follow l, walkWith fs.tree follow l [.child name] = .ok place →
        fs.tree.isDirectory l = true ∧
          (place = .vacant l name ∨ (fs.tree.entryAt (name :: l)).isSome = true) :=
      fun _ _ hlast => walkWith_child hlast
    obtain ⟨d, hd, hdir, hplace⟩ := walk_append (List.cons_ne_nil _ _) hnow maxLinks _ h
    exact ⟨d, name, hname,
      locateDirectory_of_walk hne hslash hpiece (Nat.lt_of_not_le hlen) hd hdir, hplace⟩
  · rw [hc] at h
    have hnow : ∀ follow (l : Location),
        walkWith fs.tree follow l [.impossible] = .ok place → False :=
      fun _ _ hlast => walkWith_impossible hlast
    obtain ⟨d, -, hnowhere⟩ := walk_append (P := fun _ => False) (List.cons_ne_nil _ _) hnow
      maxLinks _ h
    exact hnowhere.elim

end

end FileSystem

end Testbed
