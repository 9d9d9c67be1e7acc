import Testbed.Proofs.FileSystem.Walking

/-!
# Following a path link by link

A path is followed move by move: from a place to the next one, with the components that are left
there. A move follows at most one link, and from each place with components there is at most one
move. So a path leads to one place, in one number of links; and where its moves come back to a place
with nothing done, it leads nowhere, however many links may be followed.

* `Moves` is one move and `Reaches` several; `Leads` says where components lead in the end.
* `walk_eq_ok_found_iff`: the system finds exactly the places to which components lead with no more
  links than it follows.
* `DeadEnd` lists what a path can run into (what is missing, a file, a loop of links), and
  `DeadEnd.not_leads` says that it leads to no directory then.
* `LeadsTo` says which directory a whole path leads to, and `locateDirectory_eq_ok_iff_leadsTo`
  that this is the one that the system finds.
-/

namespace Testbed.FileSystem

/-! ## Moves -/

/-- One move from a place with components to the next place, with those that are left. The number is
that of the links followed. -/
inductive Moves (t : Tree) : Nat → Location → List Component → Location → List Component → Prop
  /-- The first component leads on without a link. -/
  | advance {l l' : Location} {c : Component} {rest : List Component} (h : Advances t l c l') :
      Moves t 0 l (c :: rest) l' rest
  /-- The first component names a link, whose components come before those that are left. -/
  | follow {l : Location} {name : FileName} {target : Path} {rest : List Component}
      (h : HasLink t l name target) :
      Moves t 1 l (.child name :: rest) (startOf target l) (Path.components target ++ rest)

/-- Moves one after the other, with the number of the links followed. -/
inductive Reaches (t : Tree) : Nat → Location → List Component → Location → List Component → Prop
  | refl (l : Location) (cs : List Component) : Reaches t 0 l cs l cs
  | step {k n : Nat} {l l' m : Location} {cs cs' ds : List Component}
      (hmove : Moves t k l cs l' cs') (hrest : Reaches t n l' cs' m ds) :
      Reaches t (k + n) l cs m ds

/-- Components lead from a place to `d`: no component is left there. -/
def Leads (t : Tree) (n : Nat) (l : Location) (cs : List Component) (d : Location) : Prop :=
  Reaches t n l cs d []

section

variable {t : Tree} {k n : Nat} {l l' l'' m d : Location} {cs cs' cs'' ds more : List Component}

/-- There is no move from what is no directory. -/
theorem Moves.isDirectory (h : Moves t k l cs l' cs') : t.isDirectory l = true := by
  cases h with
  | advance h => exact h.1
  | follow h => exact h.1

theorem Moves.ne_nil (h : Moves t k l cs l' cs') : cs ≠ [] := by
  cases h <;> exact List.cons_ne_nil _ _

/-- A component leads on without a link to one place alone. -/
theorem Advances.unique {c : Component} (h : Advances t l c l') (h' : Advances t l c l'') :
    l' = l'' := by
  rcases h with ⟨-, ⟨rfl, rfl⟩ | ⟨rfl, rfl⟩ | ⟨name, e, rfl, rfl, -, -⟩⟩
  · rcases h' with ⟨-, ⟨-, rfl⟩ | ⟨hc, -⟩ | ⟨_, _, hc, -⟩⟩
    · rfl
    · exact nomatch hc
    · exact nomatch hc
  · rcases h' with ⟨-, ⟨hc, -⟩ | ⟨-, rfl⟩ | ⟨_, _, hc, -⟩⟩
    · exact nomatch hc
    · rfl
    · exact nomatch hc
  · rcases h' with ⟨-, ⟨hc, -⟩ | ⟨hc, -⟩ | ⟨_, _, hc, rfl, -, -⟩⟩
    · exact nomatch hc
    · exact nomatch hc
    · obtain rfl := Component.child.inj hc
      rfl

/-- Where a link stands, a component does not lead on without following it. -/
theorem HasLink.not_advances {name : FileName} {target : Path} (h : HasLink t l name target) :
    ¬ Advances t l (.child name) l' := by
  rintro ⟨-, ⟨hc, -⟩ | ⟨hc, -⟩ | ⟨_, e, hc, -, he, hlink⟩⟩
  · exact nomatch hc
  · exact nomatch hc
  · obtain rfl := Component.child.inj hc
    exact hlink target (Option.some.inj (he.symm.trans h.2))

/-- From a place with components there is at most one move. -/
theorem Moves.unique {k' : Nat} (h : Moves t k l cs l' cs') (h' : Moves t k' l cs l'' cs'') :
    k = k' ∧ l' = l'' ∧ cs' = cs'' := by
  cases h with
  | advance h =>
    cases h' with
    | advance h' => exact ⟨rfl, h.unique h', rfl⟩
    | follow h' => exact absurd h h'.not_advances
  | follow h =>
    cases h' with
    | advance h' => exact absurd h' h.not_advances
    | follow h' =>
      obtain rfl := Entry.link.inj (Option.some.inj (h.2.symm.trans h'.2))
      exact ⟨rfl, rfl, rfl⟩

/-- As long as components are left, a move is theirs alone. -/
theorem Moves.of_append (hne : cs ≠ []) (h : Moves t k l (cs ++ more) l' cs') :
    ∃ rest, cs' = rest ++ more ∧ Moves t k l cs l' rest := by
  obtain ⟨c, front, rfl⟩ := List.exists_cons_of_ne_nil hne
  cases h with
  | advance h => exact ⟨front, rfl, .advance h⟩
  | follow h => exact ⟨_, (List.append_assoc ..).symm, .follow h⟩

/-! ## Several moves -/

/-- Moves that go on to the end pass through every place on the way. -/
theorem Reaches.leads (h : Reaches t k l cs m ds) (hleads : Leads t n l cs d) :
    ∃ j, n = k + j ∧ Leads t j m ds d := by
  induction h generalizing n with
  | refl l cs => exact ⟨n, (Nat.zero_add n).symm, hleads⟩
  | step hmove _ ih =>
    cases hleads with
    | refl => exact absurd rfl hmove.ne_nil
    | step hmove' hrest =>
      obtain ⟨rfl, rfl, rfl⟩ := hmove.unique hmove'
      obtain ⟨j, rfl, hj⟩ := ih hrest
      exact ⟨j, (Nat.add_assoc ..).symm, hj⟩

/-- Components lead to one place, with one number of links. -/
theorem Leads.unique {k : Nat} {e : Location} (h : Leads t n l cs d) (h' : Leads t k l cs e) :
    n = k ∧ d = e := by
  obtain ⟨j, rfl, hj⟩ := Reaches.leads h h'
  cases hj with
  | refl => exact ⟨rfl, rfl⟩
  | step hmove _ => exact absurd rfl hmove.ne_nil

/-- Components lead through where the first of them lead to. -/
theorem Leads.of_append (h : Leads t n l (cs ++ more) d) :
    ∃ i j m, n = i + j ∧ Leads t i l cs m ∧ Leads t j m more d := by
  unfold Leads at h
  generalize hall : cs ++ more = all at h
  generalize hnil : ([] : List Component) = none at h
  induction h generalizing cs with
  | refl l all =>
    obtain ⟨rfl, rfl⟩ := List.append_eq_nil_iff.mp (hall.trans hnil.symm)
    exact ⟨0, 0, l, rfl, .refl l [], .refl l []⟩
  | @step k n l l' m all rest ds hmove hrest ih =>
    subst hall
    by_cases hcs : cs = []
    · subst hcs hnil
      exact ⟨0, k + n, l, (Nat.zero_add _).symm, .refl l [], .step hmove hrest⟩
    · obtain ⟨front, hfront, hmove⟩ := hmove.of_append hcs
      obtain ⟨i, j, m, rfl, hi, hj⟩ := ih hfront.symm hnil
      exact ⟨k + i, j, m, (Nat.add_assoc ..).symm, .step hmove hi, hj⟩

/-! ## What the system finds -/

theorem walk_of_moves {links : Nat} {place : Place} (h : Moves t k l cs l' cs')
    (hwalk : walk t links l' cs' = .ok place) : walk t (k + links) l cs = .ok place := by
  cases h with
  | advance h =>
    rw [Nat.zero_add]
    cases links <;> exact walkWith_cons.mpr (.inl ⟨_, h, hwalk⟩)
  | follow h =>
    rw [Nat.add_comm]
    exact walkWith_cons.mpr (.inr (.inl ⟨_, _, rfl, h, hwalk⟩))

/-- What the system finds from a place on the way, it finds from the start, if it may follow the
links in between. -/
theorem walk_of_reaches {links : Nat} {place : Place} (h : Reaches t n l cs m ds)
    (hwalk : walk t links m ds = .ok place) : walk t (n + links) l cs = .ok place := by
  induction h with
  | refl => rwa [Nat.zero_add]
  | step hmove _ ih =>
    rw [Nat.add_assoc]
    exact walk_of_moves hmove (ih hwalk)

theorem leads_of_walkWith {follow : Location → List Component → Except SystemError Place}
    {links : Nat}
    (hfollow : ∀ l cs, follow l cs = .ok (.found d) → ∃ n, n + 1 ≤ links ∧ Leads t n l cs d)
    (h : walkWith t follow l cs = .ok (.found d)) : ∃ n ≤ links, Leads t n l cs d := by
  induction cs generalizing l with
  | nil =>
    obtain rfl : l = d := Place.found.inj (Except.ok.inj h)
    exact ⟨0, Nat.zero_le links, .refl l []⟩
  | cons c cs ih =>
    rcases walkWith_cons.mp h with ⟨l', hadv, hrest⟩ | ⟨name, target, rfl, hlink, hrest⟩ |
      ⟨_, _, _, _, hplace⟩
    · obtain ⟨n, hn, hleads⟩ := ih hrest
      exact ⟨0 + n, by omega, .step (.advance hadv) hleads⟩
    · obtain ⟨n, hn, hleads⟩ := hfollow _ _ hrest
      exact ⟨1 + n, by omega, .step (.follow hlink) hleads⟩
    · exact nomatch hplace

theorem leads_of_walk {links : Nat} (h : walk t links l cs = .ok (.found d)) :
    ∃ n ≤ links, Leads t n l cs d := by
  induction links generalizing l cs with
  | zero =>
    refine leads_of_walkWith ?_ h
    exact fun _ _ hstop => nomatch hstop
  | succ links ih =>
    refine leads_of_walkWith (fun l cs hfollow => ?_) h
    obtain ⟨n, hn, hleads⟩ := ih hfollow
    exact ⟨n, Nat.succ_le_succ hn, hleads⟩

/-- The system finds exactly the places to which components lead with no more links than it
follows. -/
theorem walk_eq_ok_found_iff {links : Nat} :
    walk t links l cs = .ok (.found d) ↔ ∃ n ≤ links, Leads t n l cs d := by
  refine ⟨leads_of_walk, ?_⟩
  rintro ⟨n, hn, hleads⟩
  obtain ⟨left, rfl⟩ := Nat.exists_eq_add_of_le hn
  refine walk_of_reaches hleads ?_
  cases left <;> rfl

/-! ## Dead ends -/

/-- What keeps a path from leading to a directory. -/
inductive DeadEnd (t : Tree) (l : Location) : List Component → Prop
  /-- Nothing has the name that comes next. -/
  | missing {name : FileName} {rest : List Component} (h : IsFree t l name) :
      DeadEnd t l (.child name :: rest)
  /-- The path ends at, or goes on from, what is no directory. -/
  | noDirectory {cs : List Component} (h : t.isDirectory l = false) : DeadEnd t l cs
  /-- Links lead back to the same place, with all components still left. -/
  | loop {n : Nat} {cs more : List Component} (h : Reaches t (n + 1) l cs l (cs ++ more)) :
      DeadEnd t l cs

theorem IsFree.not_moves {name : FileName} (h : IsFree t l name) :
    ¬ Moves t k l (.child name :: cs) l' cs' := by
  intro hmove
  cases hmove with
  | advance hadv =>
    rcases hadv with ⟨-, ⟨hc, -⟩ | ⟨hc, -⟩ | ⟨_, e, hc, -, he, -⟩⟩
    · exact nomatch hc
    · exact nomatch hc
    · obtain rfl := Component.child.inj hc
      exact nomatch h.2.symm.trans he
  | follow hlink => exact nomatch h.2.symm.trans hlink.2

/-- Once around a loop, all components have yet to lead to the end, with fewer links. -/
theorem not_leads_of_loop (h : Reaches t (k + 1) l cs l (cs ++ more)) : ¬ Leads t n l cs d := by
  intro hleads
  obtain ⟨j, hj, hagain⟩ := h.leads hleads
  obtain ⟨i, i', m, hi, hfirst, -⟩ := hagain.of_append
  obtain ⟨rfl, -⟩ := hfirst.unique hleads
  omega

/-- From a dead end no directory is reached. -/
theorem DeadEnd.not_leads (h : DeadEnd t l cs) (hd : t.isDirectory d = true) :
    ¬ Leads t n l cs d := by
  intro hleads
  cases h with
  | missing hfree =>
    cases hleads with
    | step hmove _ => exact hfree.not_moves hmove
  | noDirectory hl =>
    cases hleads with
    | refl => exact nomatch hl.symm.trans hd
    | step hmove _ => exact nomatch hl.symm.trans hmove.isDirectory
  | loop hloop => exact not_leads_of_loop hloop hleads

end

/-! ## Whole paths -/

/-- A path leads to the directory `d`: the system takes the path, its components lead there, and no
more links are on the way than the system follows. -/
structure LeadsTo (fs : FileSystem) (p : Path) (d : Location) : Prop where
  ne_nil : p ≠ []
  short : p.length < maxPathLength
  leads : ∃ n ≤ maxLinks, Leads fs.tree n (startOf p fs.cwd) p.components d
  directory : fs.tree.isDirectory d = true

section

variable {fs : FileSystem} {p : Path} {d : Location}

/-- The directory that the system finds is the one that the path leads to. -/
theorem locateDirectory_eq_ok_iff_leadsTo : fs.locateDirectory p = .ok d ↔ fs.LeadsTo p d := by
  rw [locateDirectory_eq_ok_iff_components, walk_eq_ok_found_iff]
  exact ⟨fun ⟨hne, hshort, hleads, hd⟩ => ⟨hne, hshort, hleads, hd⟩,
    fun h => ⟨h.ne_nil, h.short, h.leads, h.directory⟩⟩

/-- A path that comes to a dead end leads to no directory. -/
theorem DeadEnd.not_leadsTo {n : Nat} {l : Location} {cs : List Component}
    (h : DeadEnd fs.tree l cs) (hreach : Reaches fs.tree n (startOf p fs.cwd) p.components l cs) :
    ¬ fs.LeadsTo p d := by
  intro hleadsTo
  obtain ⟨k, -, hleads⟩ := hleadsTo.leads
  obtain ⟨j, -, hrest⟩ := hreach.leads hleads
  exact h.not_leads hleadsTo.directory hrest

theorem list_of_leadsTo (h : fs.LeadsTo p d) : fs.list p = .ok (fs.tree.children d) := by
  rw [list, locateDirectory_eq_ok_iff_leadsTo.mpr h]
  rfl

/-- Nothing can be listed at a path that leads to no directory. -/
theorem list_of_not_leadsTo (h : ∀ d, ¬ fs.LeadsTo p d) : ∃ e, fs.list p = .error e := by
  unfold list
  cases hd : fs.locateDirectory p with
  | error e => exact ⟨e, rfl⟩
  | ok d => exact absurd (locateDirectory_eq_ok_iff_leadsTo.mp hd) (h d)

end

end Testbed.FileSystem
