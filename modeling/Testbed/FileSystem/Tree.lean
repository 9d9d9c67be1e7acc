import Testbed.FileSystem.Tool
import Testbed.Path

/-!
# Directory trees

A tree maps locations to what stands there. A location is the list of names on the way from the
root, the innermost name first, so that the directory above is the tail of the list. The order of
the entries is the order in which a directory is enumerated.

* `Tree.entryAt` looks a location up and `Tree.children` enumerates a directory;
* `Tree.put`, `Tree.erase` and `Tree.move` change a tree;
* `entryAt_put`, `entryAt_erase` and `mem_children_iff` say what each of them shows afterwards.
-/

namespace Testbed

/-- A place in a directory tree: the names on the way to it, innermost first. -/
abbrev Location := List FileName

/-- What stands at a location. -/
inductive Entry
  | directory
  | file (content : Bytes) (executable : Bool)
  | link (target : Path)
  | tool (program : Tool)
  deriving DecidableEq

/-- A directory tree. The root is a directory without an entry of its own. -/
structure Tree where
  entries : List (Location × Entry)
  distinct : (entries.map Prod.fst).Nodup

namespace Tree

/-- The tree that holds nothing but its root. -/
def empty : Tree := ⟨[], List.nodup_nil⟩

/-- What stands at a location other than the root. -/
def entryAt (t : Tree) (l : Location) : Option Entry := t.entries.lookup l

/-- Whether a location is a directory. -/
def isDirectory (t : Tree) (l : Location) : Bool := l.isEmpty || t.entryAt l == some .directory

/-- The name under which a place stands in the directory `l`, if it stands directly in it. -/
def nameIn (l : Location) : Location → Option FileName
  | name :: above => if above = l then some name else none
  | [] => none

/-- The names in a directory, in enumeration order. -/
def children (t : Tree) (l : Location) : List FileName :=
  t.entries.filterMap fun p => nameIn l p.1

/-- Whether a location is `top` or lies below it. -/
def below (top : Location) (l : Location) : Bool := top.isSuffixOf l

/-! ## Changes -/

/-- The entries with one replaced, or added at the end if its location was free. -/
def putEntries (entries : List (Location × Entry)) (l : Location) (e : Entry) :
    List (Location × Entry) :=
  if l ∈ entries.map Prod.fst then entries.map fun p => if p.1 = l then (l, e) else p
  else entries ++ [(l, e)]

theorem map_fst_replace (entries : List (Location × Entry)) (l : Location) (e : Entry) :
    (entries.map fun p => if p.1 = l then (l, e) else p).map Prod.fst = entries.map Prod.fst := by
  simp only [List.map_map]
  apply List.map_congr_left
  intro p _
  by_cases h : p.1 = l <;> simp [h]

/-- The tree with `e` at a location, whatever stood there. -/
def put (t : Tree) (l : Location) (e : Entry) : Tree where
  entries := putEntries t.entries l e
  distinct := by
    unfold putEntries
    split
    · rw [map_fst_replace]
      exact t.distinct
    · next h =>
      rw [List.map_append, List.nodup_append]
      refine ⟨t.distinct, by simp, ?_⟩
      intro a ha b hb
      simp only [List.map_cons, List.map_nil, List.mem_singleton] at hb
      rintro rfl
      exact h (hb ▸ ha)

/-- The tree without a location and all below it. -/
def erase (t : Tree) (l : Location) : Tree where
  entries := t.entries.filter fun p => !below l p.1
  distinct := t.distinct.sublist (List.filter_sublist.map _)

/-- The place below `target` that corresponds to a place below `source`. -/
def rebase (source target l : Location) : Location := l.take (l.length - source.length) ++ target

theorem rebase_injective {source target l m : Location} (hl : below source l = true)
    (hm : below source m = true) (h : rebase source target l = rebase source target m) : l = m := by
  simp only [below, List.isSuffixOf_iff_suffix] at hl hm
  obtain ⟨a, rfl⟩ := hl
  obtain ⟨b, rfl⟩ := hm
  simp only [rebase, List.length_append, Nat.add_sub_cancel, List.take_left] at h
  rw [List.append_cancel_right h]

theorem below_rebase (source target l : Location) :
    below target (rebase source target l) = true := by
  simp [below, rebase, List.isSuffixOf_iff_suffix]

/-- The tree with all that stands at and below `source` moved to `target`, in place of what stood
there. -/
def move (t : Tree) (source target : Location) : Tree where
  entries :=
    (t.entries.filter fun p => !below source p.1 && !below target p.1) ++
      (t.entries.filter fun p => below source p.1).map fun p => (rebase source target p.1, p.2)
  distinct := by
    rw [List.map_append, List.nodup_append]
    refine ⟨t.distinct.sublist (List.filter_sublist.map _), ?_, ?_⟩
    · rw [List.map_map, List.Nodup, List.pairwise_map]
      have h : (t.entries.filter fun p => below source p.1).Pairwise
          (fun p q => p.1 ≠ q.1) := by
        have := t.distinct.sublist
          (List.Sublist.map Prod.fst (List.filter_sublist (p := fun p => below source p.1)
            (l := t.entries)))
        rwa [List.Nodup, List.pairwise_map] at this
      refine List.Pairwise.imp_of_mem ?_ h
      intro p q hp hq hne heq
      exact hne (rebase_injective (List.mem_filter.mp hp).2 (List.mem_filter.mp hq).2 heq)
    · intro l hl m hm
      rintro rfl
      simp only [List.mem_map, List.mem_filter] at hl hm
      obtain ⟨p, ⟨_, hp⟩, rfl⟩ := hl
      obtain ⟨q, ⟨r, _, rfl⟩, hq⟩ := hm
      have := below_rebase source target r.1
      simp only at hq
      rw [hq] at this
      simp [this] at hp

/-! ## What a change shows -/

theorem lookup_replace (entries : List (Location × Entry)) (l m : Location) (e : Entry)
    (h : l ∈ entries.map Prod.fst) :
    (entries.map fun p => if p.1 = l then (l, e) else p).lookup m =
      if m = l then some e else entries.lookup m := by
  induction entries with
  | nil => simp at h
  | cons p rest ih =>
    obtain ⟨k, d⟩ := p
    by_cases hk : k = l
    · subst hk
      by_cases hm : m = k
      · simp [hm]
      · have hb : (m == k) = false := by simpa using hm
        simp only [List.map_cons, if_true, List.lookup_cons, hb, hm, if_false]
        by_cases hr : k ∈ rest.map Prod.fst
        · rw [ih hr, if_neg hm]
        · have : (rest.map fun p => if p.1 = k then (k, e) else p) = rest := by
            rw [List.map_congr_left (g := id), List.map_id]
            intro p hp
            have : p.1 ≠ k := fun e => hr (e ▸ List.mem_map_of_mem hp)
            simp [this]
          rw [this]
    · have hr : l ∈ rest.map Prod.fst := by
        simp only [List.map_cons, List.mem_cons] at h
        exact h.resolve_left fun e => hk e.symm
      simp only [List.map_cons, hk, if_false, List.lookup_cons]
      by_cases hm : (m == k) = true
      · have hml : m ≠ l := fun e => hk (e ▸ (beq_iff_eq.mp hm).symm)
        simp [hm, hml]
      · simp only [hm]
        rw [ih hr]

theorem lookup_append_free (entries : List (Location × Entry)) (l m : Location) (e : Entry)
    (h : l ∉ entries.map Prod.fst) :
    (entries ++ [(l, e)]).lookup m = if m = l then some e else entries.lookup m := by
  induction entries with
  | nil =>
    by_cases hm : m = l
    · simp [hm]
    · have hb : (m == l) = false := by simpa using hm
      simp [List.lookup_cons, hb, hm]
  | cons p rest ih =>
    obtain ⟨k, d⟩ := p
    simp only [List.map_cons, List.mem_cons, not_or] at h
    simp only [List.cons_append, List.lookup_cons]
    by_cases hm : (m == k) = true
    · have hml : m ≠ l := fun e => h.1 (e ▸ beq_iff_eq.mp hm)
      simp [hm, hml]
    · simp only [hm]
      rw [ih h.2]

/-- After a change at `l`, that entry stands there and every other location is as before. -/
theorem entryAt_put (t : Tree) (l m : Location) (e : Entry) :
    (t.put l e).entryAt m = if m = l then some e else t.entryAt m := by
  simp only [entryAt, put, putEntries]
  split
  · next h => exact lookup_replace _ _ _ _ h
  · next h => exact lookup_append_free _ _ _ _ h

/-- After removal nothing stands at or below the location, and all else is as before. -/
theorem entryAt_erase (t : Tree) (l m : Location) :
    (t.erase l).entryAt m = if below l m then none else t.entryAt m := by
  simp only [entryAt, erase]
  induction t.entries with
  | nil => simp
  | cons p rest ih =>
    obtain ⟨k, d⟩ := p
    by_cases hk : below l k = true
    · rw [List.filter_cons_of_neg (by simp [hk]), ih, List.lookup_cons]
      by_cases hm : (m == k) = true
      · rw [beq_iff_eq.mp hm]
        simp [hk]
      · simp [hm]
    · rw [List.filter_cons_of_pos (by simp [hk]), List.lookup_cons, List.lookup_cons, ih]
      by_cases hm : (m == k) = true
      · rw [beq_iff_eq.mp hm]
        simp [hk]
      · simp [hm]

theorem lookup_isSome_iff (entries : List (Location × Entry)) (l : Location) :
    (entries.lookup l).isSome = true ↔ l ∈ entries.map Prod.fst := by
  induction entries with
  | nil => simp
  | cons p rest ih =>
    obtain ⟨k, d⟩ := p
    rw [List.lookup_cons]
    by_cases hm : (l == k) = true
    · simp [beq_iff_eq.mp hm]
    · have hne : l ≠ k := by simpa using hm
      simp [hm, hne, ih]

theorem nameIn_eq_some_iff {l place : Location} {name : FileName} :
    nameIn l place = some name ↔ place = name :: l := by
  cases place with
  | nil => simp [nameIn]
  | cons n above =>
    by_cases h : above = l
    · simp [nameIn, h]
    · simp [nameIn, h]

theorem mem_filterMap_nameIn (entries : List (Location × Entry)) (name : FileName)
    (l : Location) :
    (name ∈ entries.filterMap fun p => nameIn l p.1) ↔ name :: l ∈ entries.map Prod.fst := by
  simp [nameIn_eq_some_iff]

/-- A name is listed in a directory exactly if something stands there under that name. -/
theorem mem_children_iff (t : Tree) (name : FileName) (l : Location) :
    name ∈ t.children l ↔ (t.entryAt (name :: l)).isSome = true := by
  rw [entryAt, lookup_isSome_iff]
  exact mem_filterMap_nameIn t.entries name l

/-- No name is listed twice. -/
theorem children_nodup (t : Tree) (l : Location) : (t.children l).Nodup := by
  suffices h : ∀ entries : List (Location × Entry), (entries.map Prod.fst).Nodup →
      (entries.filterMap fun p => nameIn l p.1).Nodup from h t.entries t.distinct
  intro entries h
  induction entries with
  | nil => simp
  | cons p rest ih =>
    simp only [List.map_cons, List.nodup_cons] at h
    rw [List.filterMap_cons]
    split
    · exact ih h.2
    · next name hname =>
      rw [List.nodup_cons, mem_filterMap_nameIn]
      exact ⟨nameIn_eq_some_iff.mp hname ▸ h.1, ih h.2⟩

end Tree

end Testbed
