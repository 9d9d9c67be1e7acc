import Testbed.Proofs.CommandLine.WorkerCount

/-!
# What a command line spells

The grammar of the command line leaves no choice: an argument that starts with a dash sets what can
be read off its bytes, and whether a word is a value is seen from the word alone. So arguments spell
one list of items at most. A value in it is the end of one argument, byte for byte, and where the
arguments are accepted the options hold it as it stands.

* `lettersOf` and `openingOf` read off an argument what it sets, and `Opening.openingOf_eq` says
  that the grammar agrees.
* `Onward.unique`: arguments go on in one way from where an option is open.
* `Spells` says that arguments are groups, with or without two dashes alone after them, and
  `Spells.unique` that they spell one list of items.
* `Spells.exists_suffix` finds the argument that holds a value.
* `valueIn` is the value that items give to an option, and `exists_spells_of_parse` says that the
  paths among the options are such values.
-/

namespace Testbed.CommandLine

/-! ## What one argument sets -/

/-- What the name of an option sets with what is attached to it, and the option that is left without
a value. -/
def Key.opened : Key → Option Bytes → List Item × Option Valued
  | .flag f, _ => ([.flag f], none)
  | .valued v, some value => ([.value v value], none)
  | .valued v, none => ([], some v)

/-- What letters after one dash set, and the option that they leave without a value. -/
def lettersOf : Bytes → Option (List Item × Option Valued)
  | [] => none
  | b :: rest =>
    match Word.ofLetter? b with
    | some (.key (.flag f)) =>
      if rest = [] then some ([.flag f], none)
      else (lettersOf rest).map fun more => (.flag f :: more.1, more.2)
    | some (.key (.valued v)) => some ((Key.valued v).opened (attachedValue rest))
    | _ => none

/-- What an argument that starts with a dash sets, and the option that it leaves without a value. -/
def openingOf : Bytes → Option (List Item × Option Valued)
  | _ :: second :: body =>
    if second = dash then
      match Word.ofLong? (splitValue body).1 with
      | some (.key k) => some (k.opened (splitValue body).2)
      | _ => none
    else lettersOf (second :: body)
  | _ => none

theorem Letters.lettersOf_eq {items : List Item} {left : Option Valued} {body : Bytes}
    (h : Letters items left body) : lettersOf body = some (items, left) := by
  induction h with
  | last hb => simp only [lettersOf, ofLetter?_eq_some_iff.mpr hb, if_true]
  | @more f b items left body hb h ih =>
    have hne : body ≠ [] := by
      obtain ⟨b, rest, rfl, -⟩ := h.eq_cons
      exact List.cons_ne_nil b rest
    simp only [lettersOf, ofLetter?_eq_some_iff.mpr hb, if_neg hne, ih]
    rfl
  | equals hb =>
    simp only [lettersOf, ofLetter?_eq_some_iff.mpr hb]
    rfl
  | attached hb hne heq =>
    simp only [lettersOf, ofLetter?_eq_some_iff.mpr hb, attachedValue_of_head hne heq]
    rfl
  | without hb =>
    simp only [lettersOf, ofLetter?_eq_some_iff.mpr hb]
    rfl

/-- An opening sets what is read off it. -/
theorem Opening.openingOf_eq {items : List Item} {left : Option Valued} {arg : Bytes}
    (h : Opening items left arg) : openingOf arg = some (items, left) := by
  cases h with
  | flag f =>
    simp only [longName, openingOf, if_pos, splitValue_name (equals_notMem_long _), ofLong?_long]
    rfl
  | attached v value =>
    simp only [longName, List.cons_append, openingOf, if_pos,
      splitValue_attached (equals_notMem_long _), ofLong?_long]
    rfl
  | without v =>
    simp only [longName, openingOf, if_pos, splitValue_name (equals_notMem_long _), ofLong?_long]
    rfl
  | letters h =>
    obtain ⟨b, rest, rfl, hb⟩ := h.eq_cons
    simp only [openingOf, if_neg hb]
    exact h.lettersOf_eq

example : openingOf (utf8 "-lb=x") =
    some ([.flag .listTests, .value .build (utf8 "x")], none) := by decide

theorem Opening.unique {items items' : List Item} {left left' : Option Valued} {arg : Bytes}
    (h : Opening items left arg) (h' : Opening items' left' arg) : items = items' ∧ left = left' :=
  Prod.mk.inj (Option.some.inj (h.openingOf_eq.symm.trans h'.openingOf_eq))

/-! ## What all arguments set -/

theorem Settled.unique {pending : Option (Valued × Option Bytes)} {items items' : List Item}
    (h : Settled pending items) (h' : Settled pending items') : items = items' := by
  cases h with
  | closed => cases h'; rfl
  | given v value => cases h'; rfl
  | implied hv =>
    cases h' with
    | implied hv' => rw [Option.some.inj (hv.symm.trans hv')]

/-- From where an option is open or none is, arguments go on in one way. The induction is on the
arguments: a word that can stand alone is the value of what is open, and any other one settles it
and is an opening. -/
theorem Onward.unique {pending : Option (Valued × Option Bytes)} {items items' : List Item}
    {args : List Bytes} (h : Onward pending items args) (h' : Onward pending items' args) :
    items = items' := by
  induction args generalizing pending items items' with
  | nil => exact h.settled_of_nil.unique h'.settled_of_nil
  | cons arg rest ih =>
    by_cases hvalue : Separable arg
    · obtain ⟨v, hv, h⟩ := (onward_value_iff hvalue).mp h
      obtain ⟨v', hv', h'⟩ := (onward_value_iff hvalue).mp h'
      obtain ⟨rfl, -⟩ := Prod.mk.inj (Option.some.inj (hv.symm.trans hv'))
      exact ih h h'
    · obtain ⟨front, more, rfl, hfront, hmore⟩ := h.groups hvalue
      obtain ⟨front', more', rfl, hfront', hmore'⟩ := h'.groups hvalue
      rw [hfront.unique hfront']
      obtain ⟨-, hnil⟩ | ⟨_, _, first, left, back, hcons, rfl, hfirst, hback⟩ := hmore.inv
      · exact nomatch hnil
      obtain ⟨-, hnil⟩ | ⟨_, _, first', left', back', hcons', rfl, hfirst', hback'⟩ := hmore'.inv
      · exact nomatch hnil
      obtain ⟨rfl, rfl⟩ := List.cons.inj hcons
      obtain ⟨rfl, rfl⟩ := List.cons.inj hcons'
      obtain ⟨rfl, rfl⟩ := hfirst.unique hfirst'
      rw [ih hback hback']

/-- Arguments spell items: they are groups that set these, and two dashes alone may come after
them. -/
def Spells (items : List Item) (args : List Bytes) : Prop :=
  ∃ front, Groups items front ∧ (args = front ∨ args = front ++ [[dash, dash]])

/-- **Arguments spell one list of items at most.** -/
theorem Spells.unique {items items' : List Item} {args : List Bytes} (h : Spells items args)
    (h' : Spells items' args) : items = items' := by
  obtain ⟨front, hfront, hargs⟩ := h
  obtain ⟨front', hfront', hargs'⟩ := h'
  -- Two dashes alone stand in no groups, so they are left out on both sides or on none.
  have hsame : front = front' := by
    obtain rfl | rfl := hargs <;> obtain h | h := hargs'
    · exact h
    · exact absurd (h ▸ List.mem_append_right front' List.mem_cons_self) hfront.dashes_notMem
    · exact absurd (h ▸ List.mem_append_right front List.mem_cons_self) hfront'.dashes_notMem
    · exact List.append_cancel_right h
  subst hsame
  exact (onward_none_iff.mpr hfront).unique (onward_none_iff.mpr hfront')

/-! ## Where a value comes from -/

section

variable {v : Valued} {bytes : Bytes} {items : List Item} {left : Option Valued}

theorem Letters.suffix_of_mem {body : Bytes} (h : Letters items left body)
    (hmem : .value v bytes ∈ items) : bytes <:+ body := by
  induction h with
  | last _ => exact nomatch List.mem_singleton.mp hmem
  | more _ _ ih =>
    obtain h | h := List.mem_cons.mp hmem
    · exact nomatch h
    · exact (ih h).trans (List.suffix_cons _ _)
  | equals _ =>
    cases List.mem_singleton.mp hmem
    exact ⟨[_, CommandLine.equals], rfl⟩
  | attached _ _ _ =>
    cases List.mem_singleton.mp hmem
    exact List.suffix_cons _ _
  | without _ => exact absurd hmem List.not_mem_nil

/-- A value that is attached in an argument is the end of it. -/
theorem Opening.suffix_of_mem {arg : Bytes} (h : Opening items left arg)
    (hmem : .value v bytes ∈ items) : bytes <:+ arg := by
  cases h with
  | flag f => exact nomatch List.mem_singleton.mp hmem
  | attached v' value =>
    cases List.mem_singleton.mp hmem
    exact (List.suffix_cons _ _).trans (List.suffix_append _ _)
  | without v' => exact absurd hmem List.not_mem_nil
  | letters h => exact (h.suffix_of_mem hmem).trans (List.suffix_cons _ _)

theorem Groups.exists_suffix {args : List Bytes} (h : Groups items args)
    (hmem : .value v bytes ∈ items) :
    bytes = utf8 Options.defaultBuildDir ∨ ∃ arg ∈ args, bytes <:+ arg := by
  induction h with
  | nil => exact absurd hmem List.not_mem_nil
  | @cons first items front args hgroup _ ih =>
    obtain hmem | hmem := List.mem_append.mp hmem
    · cases hgroup with
      | complete h =>
        exact .inr ⟨_, List.mem_append_left _ List.mem_cons_self, h.suffix_of_mem hmem⟩
      | separate h _ =>
        obtain hmem | hmem := List.mem_append.mp hmem
        · exact .inr ⟨_, List.mem_append_left _ List.mem_cons_self, h.suffix_of_mem hmem⟩
        · cases List.mem_singleton.mp hmem
          exact .inr ⟨bytes, List.mem_append_left _ (List.mem_cons_of_mem _ List.mem_cons_self),
            List.suffix_rfl⟩
      | implied h =>
        obtain hmem | hmem := List.mem_append.mp hmem
        · exact .inr ⟨_, List.mem_append_left _ List.mem_cons_self, h.suffix_of_mem hmem⟩
        · cases List.mem_singleton.mp hmem
          exact .inl rfl
    · obtain h | ⟨arg, harg, h⟩ := ih hmem
      · exact .inl h
      · exact .inr ⟨arg, List.mem_append_right _ harg, h⟩

/-- A value is the end of one argument, byte for byte, or the one that stands for a build directory
that is left out. -/
theorem Spells.exists_suffix {args : List Bytes} (h : Spells items args)
    (hmem : .value v bytes ∈ items) :
    bytes = utf8 Options.defaultBuildDir ∨ ∃ arg ∈ args, bytes <:+ arg := by
  obtain ⟨front, hfront, hargs⟩ := h
  obtain h | ⟨arg, harg, h⟩ := hfront.exists_suffix hmem
  · exact .inl h
  · refine .inr ⟨arg, ?_, h⟩
    obtain rfl | rfl := hargs
    · exact harg
    · exact List.mem_append_left _ harg

end

/-! ## The values of options -/

/-- The bytes that an item gives to an option. -/
def Item.value? (v : Valued) : Item → Option Bytes
  | .flag _ => none
  | .value v' bytes => if v' = v then some bytes else none

theorem Item.value?_eq_some_iff {v : Valued} {item : Item} {bytes : Bytes} :
    item.value? v = some bytes ↔ item = .value v bytes := by
  cases item with
  | flag f => simp [Item.value?]
  | value v' bytes' => simp [Item.value?]

/-- The bytes that items give to an option, or those that stand for it where none of them does. -/
def valueIn (items : List Item) (v : Valued) (fallback : Bytes) : Bytes :=
  (items.findSome? (Item.value? v)).getD fallback

section

variable {v : Valued} {items : List Item} {settings : List Setting} {bytes fallback : Bytes}

theorem mem_of_findSome? (h : items.findSome? (Item.value? v) = some bytes) :
    .value v bytes ∈ items := by
  obtain ⟨item, hitem, hvalue⟩ := List.exists_of_findSome?_eq_some h
  exact Item.value?_eq_some_iff.mp hvalue ▸ hitem

/-- The value of an option is given by an item or stands for it. -/
theorem valueIn_cases (items : List Item) (v : Valued) (fallback : Bytes) :
    .value v (valueIn items v fallback) ∈ items ∨ valueIn items v fallback = fallback := by
  unfold valueIn
  cases h : items.findSome? (Item.value? v) with
  | none => exact .inr rfl
  | some bytes => exact .inl (mem_of_findSome? h)

theorem valueIn_of_mem (hnodup : (items.map Item.key).Nodup) (h : .value v bytes ∈ items) :
    valueIn items v fallback = bytes := by
  unfold valueIn
  cases hfind : items.findSome? (Item.value? v) with
  | none =>
    have hnone := List.findSome?_eq_none_iff.mp hfind _ h
    exact nomatch hnone.symm.trans (Item.value?_eq_some_iff.mpr rfl)
  | some bytes' =>
    have hsame := List.inj_on_of_nodup_map hnodup (mem_of_findSome? hfind) h rfl
    exact (Item.value.inj hsame).2

theorem valueIn_of_notMem (h : ∀ bytes, .value v bytes ∉ items) :
    valueIn items v fallback = fallback := by
  obtain hmem | hvalue := valueIn_cases items v fallback
  · exact absurd hmem (h _)
  · exact hvalue

/-- What is in one of two lists that belong together has a partner in the other one. -/
theorem exists_partner {α β : Type} {R : α → β → Prop} {as : List α} {bs : List β}
    (h : List.Forall₂ R as bs) {a : α} (ha : a ∈ as) : ∃ b ∈ bs, R a b := by
  induction h with
  | nil => exact absurd ha List.not_mem_nil
  | @cons _ b _ rest hab _ ih =>
    obtain rfl | ha := List.mem_cons.mp ha
    · exact ⟨b, List.mem_cons_self, hab⟩
    · obtain ⟨c, hc, hac⟩ := ih ha
      exact ⟨c, List.mem_cons_of_mem b hc, hac⟩

/-- Where a setting holds the bytes of its item as they stand, so do the options. -/
theorem valueIn_eq_of_given {make : Path → Setting} {path : Path}
    (hsame : ∀ item s a, Reads item s → (item = .value v a ↔ s = make a))
    (hreads : List.Forall₂ Reads items settings) (hnodup : (items.map Item.key).Nodup)
    (h : Given settings make id fallback path) : path = valueIn items v fallback := by
  obtain ⟨_, hpath, rfl⟩ | ⟨hnone, rfl⟩ := h
  · have hback : List.Forall₂ (flip Reads) settings items := List.Forall₂.flip hreads
    obtain ⟨item, hmem, hread⟩ := exists_partner hback hpath
    have hitem : item = .value v path := (hsame item (make path) path hread).mpr rfl
    exact (valueIn_of_mem hnodup (hitem ▸ hmem)).symm
  · refine (valueIn_of_notMem fun bytes hmem => ?_).symm
    obtain ⟨s, hs, hread⟩ := exists_partner hreads hmem
    have hsetting : s = make bytes := (hsame (.value v bytes) s bytes hread).mp rfl
    exact hnone bytes (hsetting ▸ hs)

end

/-- What is accepted spells items that set no option twice, and the paths among the options are the
values that these give, with the defaults for all else. -/
theorem exists_spells_of_parse {args : List Bytes} {o : Options} (h : parse args = .ok o) :
    ∃ items, Spells items args ∧ (items.map Item.key).Nodup ∧
      o.cmake = valueIn items .cmake Toolchain.defaultCmake ∧
      o.ctest = valueIn items .ctest Toolchain.defaultCtest ∧
      o.sourceDir = valueIn items .sourceDir Toolchain.defaultSourceDir ∧
      o.build = valueIn items .build (utf8 Options.defaultBuildDir) := by
  obtain ⟨settings, hread, -, rfl⟩ := parse_eq.mp h
  obtain ⟨front, hdashes, hargs⟩ := exists_front hread
  have hfront : readArguments ⟨[], none⟩ front = .ok settings := by
    obtain rfl | rfl := hargs
    · exact hread
    · exact (readArguments_append_dashes hdashes _).symm.trans hread
  obtain ⟨items, hitems, hadd⟩ := (readArguments_eq_ok_iff hdashes).mp hfront
  obtain ⟨hreads, hnodup⟩ := addItems_nil_eq_ok_iff.mp hadd
  have hmeans := toOptions_means settings
  refine ⟨items, ⟨front, onward_none_iff.mp hitems, hargs⟩, hnodup,
    valueIn_eq_of_given ?_ hreads hnodup hmeans.cmake,
    valueIn_eq_of_given ?_ hreads hnodup hmeans.ctest,
    valueIn_eq_of_given ?_ hreads hnodup hmeans.sourceDir,
    valueIn_eq_of_given ?_ hreads hnodup hmeans.build⟩
  -- An item that reads as any other setting is of another option.
  all_goals
    intro item s a hread
    cases hread <;> simp

end Testbed.CommandLine
