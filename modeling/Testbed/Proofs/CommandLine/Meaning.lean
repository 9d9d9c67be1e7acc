import Mathlib.Data.List.Forall2
import Mathlib.Data.List.Nodup
import Testbed.Proofs.CommandLine.Reading
import Testbed.Proofs.Text.Decoding
import Testbed.Proofs.Text.Numeral

/-!
# The meaning of a command line

An item has a meaning if its value is admissible, and the options of a command line are what its
items mean, with defaults for all that is not given.

* `Reads` says which values are admissible and what they mean, and `check_eq_ok_iff` that the
  reader agrees.
* `Means` says which options settings amount to; there is one such record (`Means.unique`), and
  `toOptions` makes it (`toOptions_means`).
* `parse_eq_ok_iff`: the parser accepts exactly the grammar, with this meaning.
-/

namespace Testbed.CommandLine

/-! ## Admissible values -/

/-- An item reads as a setting: text must be well-formed, paths must not be empty, a worker count
is a numeral within bounds and a convention is called by its name. -/
inductive Reads : Item → Setting → Prop
  | flag (f : Flag) : Reads (.flag f) (.flag f)
  | testName (name : String) : Reads (.value .testName (utf8 name)) (.testName name)
  | build {path : Path} (h : path ≠ []) : Reads (.value .build path) (.build path)
  | sourceDir {path : Path} (h : path ≠ []) : Reads (.value .sourceDir path) (.sourceDir path)
  | jobs {text : String} {jobs : Jobs} (h : Text.IsNumeral text.toList jobs.count) :
      Reads (.value .jobs (utf8 text)) (.jobs jobs)
  | layout (kind : LayoutKind) : Reads (.value .layout (utf8 kind.name)) (.layout kind)
  | groupDir (name : String) : Reads (.value .groupDir (utf8 name)) (.groupDir name)
  | binarySuffix (suffix : String) :
      Reads (.value .binarySuffix (utf8 suffix)) (.binarySuffix suffix)
  | cmake {program : Path} (h : program ≠ []) : Reads (.value .cmake program) (.cmake program)
  | ctest {program : Path} (h : program ≠ []) : Reads (.value .ctest program) (.ctest program)

theorem Reads.key_eq {item : Item} {setting : Setting} (h : Reads item setting) :
    setting.key = item.key := by
  cases h <;> rfl

theorem readText_eq_ok_iff {value : Bytes} {s : String} :
    readText value = .ok s ↔ value = utf8 s := by
  rw [← Text.decode?_eq_some_iff, readText]
  cases Text.decode? value with
  | none => exact ⟨fun h => (nomatch h), fun h => (nomatch h)⟩
  | some t =>
    exact ⟨fun h => congrArg some (Except.ok.inj h), fun h => congrArg _ (Option.some.inj h)⟩

theorem readPath_eq_ok_iff {v : Valued} {value path : Bytes} :
    readPath v value = .ok path ↔ value = path ∧ path ≠ [] := by
  cases value with
  | nil =>
    refine ⟨fun h => (nomatch h), ?_⟩
    rintro ⟨rfl, hne⟩
    exact absurd rfl hne
  | cons b rest =>
    constructor
    · intro h
      obtain rfl : b :: rest = path := Except.ok.inj h
      exact ⟨rfl, List.cons_ne_nil b rest⟩
    · rintro ⟨rfl, -⟩
      rfl

theorem readJobs_eq_ok_iff {value : Bytes} {jobs : Jobs} :
    readJobs value = .ok jobs ↔
      ∃ text : String, value = utf8 text ∧ Text.IsNumeral text.toList jobs.count := by
  constructor
  · intro h
    unfold readJobs at h
    split at h
    · exact nomatch h
    · next text htext =>
      split at h
      · exact nomatch h
      · next n hread =>
        split at h
        · obtain rfl := Except.ok.inj h
          exact ⟨text, Text.decode?_eq_some_iff.mp htext, (Text.readNumber_eq_ok_iff.mp hread).1⟩
        · exact nomatch h
  · rintro ⟨text, hvalue, hnumeral⟩
    have hread := Text.readNumber_eq_ok_iff.mpr ⟨hnumeral, jobs.bounded⟩
    unfold readJobs
    split
    · next hnone => exact nomatch hnone.symm.trans (Text.decode?_eq_some_iff.mpr hvalue)
    · next text' htext =>
      obtain rfl := Option.some.inj (htext.symm.trans (Text.decode?_eq_some_iff.mpr hvalue))
      split
      · next herror => exact nomatch herror.symm.trans hread
      · next n hread' =>
        obtain rfl := Except.ok.inj (hread'.symm.trans hread)
        rw [dif_pos jobs.positive]

/-- No convention has an empty name. -/
theorem utf8_name_ne_nil (kind : LayoutKind) : utf8 kind.name ≠ [] := by
  cases kind <;> decide

theorem readLayout_eq_ok_iff {value : Bytes} {kind : LayoutKind} :
    readLayout value = .ok kind ↔ value = utf8 kind.name := by
  have hname : (Text.decode? value).bind LayoutKind.ofName? = some kind ↔
      value = utf8 kind.name := by
    rw [Option.bind_eq_some_iff, ← Text.decode?_eq_some_iff]
    constructor
    · rintro ⟨s, hs, hkind⟩
      exact LayoutKind.ofName?_eq_some_iff.mp hkind ▸ hs
    · exact fun h => ⟨kind.name, h, LayoutKind.ofName?_eq_some_iff.mpr rfl⟩
  rw [← hname]
  cases value with
  | nil =>
    constructor
    · intro h
      cases h
    · intro h
      exact absurd (hname.mp h).symm (utf8_name_ne_nil kind)
  | cons b rest =>
    cases hkind : (Text.decode? (b :: rest)).bind LayoutKind.ofName? with
    | none => simp [readLayout, hkind]
    | some k => simp [readLayout, hkind]

/-- A value that is read and then made a setting. -/
theorem map_eq_ok_iff {ε α β : Type} {read : Except ε α} {make : α → β} {b : β} :
    read.map make = .ok b ↔ ∃ a, read = .ok a ∧ make a = b := by
  cases read with
  | error e => exact ⟨fun h => (nomatch h), fun ⟨_, h, _⟩ => (nomatch h)⟩
  | ok a =>
    constructor
    · exact fun h => ⟨a, rfl, Except.ok.inj h⟩
    · rintro ⟨a', ha, rfl⟩
      obtain rfl := Except.ok.inj ha
      rfl

/-- The reader admits exactly the values that have a meaning, with that meaning. -/
theorem check_eq_ok_iff {item : Item} {setting : Setting} :
    item.check = .ok setting ↔ Reads item setting := by
  rcases item with f | ⟨v, bytes⟩
  · constructor
    · intro h
      obtain rfl := Except.ok.inj h
      exact .flag f
    · rintro ⟨⟩
      rfl
  · cases v with
    | testName | groupDir | binarySuffix =>
      refine map_eq_ok_iff.trans ⟨?_, ?_⟩
      · rintro ⟨text, htext, rfl⟩
        obtain rfl := readText_eq_ok_iff.mp htext
        constructor
      · rintro ⟨⟩
        exact ⟨_, readText_eq_ok_iff.mpr rfl, rfl⟩
    | build | sourceDir | cmake | ctest =>
      refine map_eq_ok_iff.trans ⟨?_, ?_⟩
      · rintro ⟨path, hpath, rfl⟩
        obtain ⟨rfl, hne⟩ := readPath_eq_ok_iff.mp hpath
        constructor
        exact hne
      · intro h
        cases h with
        | _ hne => exact ⟨_, readPath_eq_ok_iff.mpr ⟨rfl, hne⟩, rfl⟩
    | jobs =>
      refine map_eq_ok_iff.trans ⟨?_, ?_⟩
      · rintro ⟨jobs, hjobs, rfl⟩
        obtain ⟨text, rfl, hnumeral⟩ := readJobs_eq_ok_iff.mp hjobs
        exact .jobs hnumeral
      · intro h
        cases h with
        | jobs hnumeral => exact ⟨_, readJobs_eq_ok_iff.mpr ⟨_, rfl, hnumeral⟩, rfl⟩
    | layout =>
      refine map_eq_ok_iff.trans ⟨?_, ?_⟩
      · rintro ⟨kind, hkind, rfl⟩
        obtain rfl := readLayout_eq_ok_iff.mp hkind
        exact .layout kind
      · rintro ⟨⟩
        exact ⟨_, readLayout_eq_ok_iff.mpr rfl, rfl⟩

/-! ## Items and settings -/

theorem add_eq_ok_iff {settings all : List Setting} {k : Key}
    {setting : Except UsageError Setting} :
    add settings k setting = .ok all ↔
      k ∉ settings.map Setting.key ∧ ∃ s, setting = .ok s ∧ all = settings ++ [s] := by
  unfold add
  split
  · next hk => exact ⟨fun h => (nomatch h), fun h => absurd hk h.1⟩
  · next hk =>
    cases setting with
    | error e => exact ⟨fun h => (nomatch h), fun ⟨_, _, h, _⟩ => (nomatch h)⟩
    | ok s =>
      constructor
      · exact fun h => ⟨hk, s, rfl, (Except.ok.inj h).symm⟩
      · rintro ⟨-, s', hs, rfl⟩
        obtain rfl := Except.ok.inj hs
        rfl

theorem keys_nodup_append {settings : List Setting} {s : Setting} :
    ((settings ++ [s]).map Setting.key).Nodup ↔
      (settings.map Setting.key).Nodup ∧ s.key ∉ settings.map Setting.key := by
  rw [List.map_append, List.nodup_append]
  constructor
  · rintro ⟨hnodup, -, hcross⟩
    exact ⟨hnodup, fun hk => hcross _ hk _ List.mem_cons_self rfl⟩
  · rintro ⟨hnodup, hk⟩
    refine ⟨hnodup, List.nodup_cons.mpr ⟨List.not_mem_nil, List.nodup_nil⟩, ?_⟩
    intro a ha b hb hab
    rw [List.map_singleton, List.mem_singleton] at hb
    exact hk (hb ▸ hab ▸ ha)

/-- Items can be added exactly if each has a meaning and no option is set twice. -/
theorem addItems_eq_ok_iff {settings all : List Setting} {items : List Item}
    (hnodup : (settings.map Setting.key).Nodup) :
    addItems settings items = .ok all ↔
      ∃ added, all = settings ++ added ∧ List.Forall₂ Reads items added ∧
        (all.map Setting.key).Nodup := by
  induction items generalizing settings all with
  | nil =>
    constructor
    · intro h
      obtain rfl := Except.ok.inj h
      exact ⟨[], (List.append_nil settings).symm, .nil, hnodup⟩
    · rintro ⟨added, rfl, hadded, -⟩
      cases hadded
      rw [List.append_nil]
      rfl
  | cons item rest ih =>
    rw [addItems, bind_eq_ok_iff]
    constructor
    · rintro ⟨more, hmore, hall⟩
      obtain ⟨hk, s, hs, rfl⟩ := add_eq_ok_iff.mp hmore
      have hreads := check_eq_ok_iff.mp hs
      have hnodup' : ((settings ++ [s]).map Setting.key).Nodup :=
        keys_nodup_append.mpr ⟨hnodup, hreads.key_eq ▸ hk⟩
      obtain ⟨added, rfl, hadded, hall⟩ := (ih hnodup').mp hall
      exact ⟨s :: added, List.append_cons .. |>.symm, .cons hreads hadded, hall⟩
    · rintro ⟨added, rfl, hadded, hall⟩
      cases hadded with
      | @cons _ s _ added hreads hadded =>
        have hsplit : settings ++ s :: added = (settings ++ [s]) ++ added := List.append_cons ..
        rw [hsplit] at hall ⊢
        have hnodup' : ((settings ++ [s]).map Setting.key).Nodup := by
          rw [List.map_append] at hall
          exact (List.nodup_append.mp hall).1
        refine ⟨settings ++ [s], ?_, (ih hnodup').mpr ⟨added, rfl, hadded, hall⟩⟩
        have hk : item.key ∉ settings.map Setting.key :=
          hreads.key_eq ▸ (keys_nodup_append.mp hnodup').2
        exact add_eq_ok_iff.mpr ⟨hk, s, check_eq_ok_iff.mpr hreads, rfl⟩

theorem keys_eq {items : List Item} {settings : List Setting}
    (h : List.Forall₂ Reads items settings) :
    settings.map Setting.key = items.map Item.key := by
  induction h with
  | nil => rfl
  | cons hreads _ ih => rw [List.map_cons, List.map_cons, hreads.key_eq, ih]

theorem addItems_nil_eq_ok_iff {settings : List Setting} {items : List Item} :
    addItems [] items = .ok settings ↔
      List.Forall₂ Reads items settings ∧ (items.map Item.key).Nodup := by
  have hnil : (([] : List Setting).map Setting.key).Nodup := List.nodup_nil
  rw [addItems_eq_ok_iff hnil]
  constructor
  · rintro ⟨added, rfl, hreads, hnodup⟩
    exact ⟨hreads, keys_eq hreads ▸ hnodup⟩
  · rintro ⟨hreads, hnodup⟩
    exact ⟨settings, rfl, hreads, (keys_eq hreads).symm ▸ hnodup⟩

/-! ## Settings and options -/

/-- What settings say about one option: the value that one of them gives it, or its default if
none of them does. -/
def Given {α β : Type} (settings : List Setting) (make : α → Setting) (wrap : α → β)
    (fallback value : β) : Prop :=
  (∃ a, make a ∈ settings ∧ value = wrap a) ∨ ((∀ a, make a ∉ settings) ∧ value = fallback)

/-- The options that settings amount to: all that is given, and the default for all else. -/
structure Means (settings : List Setting) (o : Options) : Prop where
  listTests : Given settings (fun _ : Unit => .flag .listTests) (fun _ => true) false o.listTests
  runAll : Given settings (fun _ : Unit => .flag .runAll) (fun _ => true) false o.runAll
  testName : Given settings .testName some none o.testName
  build : Given settings .build id (utf8 Options.defaultBuildDir) o.build
  sourceDir : Given settings .sourceDir id Toolchain.defaultSourceDir o.sourceDir
  jobs : Given settings .jobs some none o.jobs
  layout : Given settings .layout id .testBin o.layout
  groupDir : Given settings .groupDir id Layout.defaultGroupDir o.groupDir
  binarySuffix : Given settings .binarySuffix id Layout.defaultSuffix o.binarySuffix
  strict : Given settings (fun _ : Unit => .flag .strict) (fun _ => true) false o.strict
  cmake : Given settings .cmake id Toolchain.defaultCmake o.cmake
  ctest : Given settings .ctest id Toolchain.defaultCtest o.ctest

/-- A field that one kind of setting writes, and no other, holds what the last of them gives. -/
theorem given_foldl {α β : Type} {make : α → Setting} {wrap : α → β} {get : Options → β}
    (hwrite : ∀ o a, get (Setting.applyTo o (make a)) = wrap a)
    (hkeep : ∀ o s, (∀ a, s ≠ make a) → get (Setting.applyTo o s) = get o)
    (settings : List Setting) (o : Options) :
    Given settings make wrap (get o) (get (settings.foldl Setting.applyTo o)) := by
  induction settings generalizing o with
  | nil => exact .inr ⟨fun _ => List.not_mem_nil, rfl⟩
  | cons s rest ih =>
    rw [List.foldl_cons]
    obtain ⟨a, ha, hvalue⟩ | ⟨hnone, hvalue⟩ := ih (Setting.applyTo o s)
    · exact .inl ⟨a, List.mem_cons_of_mem s ha, hvalue⟩
    · by_cases hs : ∃ a, s = make a
      · obtain ⟨a, rfl⟩ := hs
        exact .inl ⟨a, List.mem_cons_self, hvalue.trans (hwrite o a)⟩
      · have hs' : ∀ a, s ≠ make a := fun a h => hs ⟨a, h⟩
        refine .inr ⟨fun a ha => ?_, hvalue.trans (hkeep o s hs')⟩
        rcases List.mem_cons.mp ha with h | h
        · exact hs' a h.symm
        · exact hnone a h

/-- The parser takes settings for the options that they amount to. -/
theorem toOptions_means (settings : List Setting) :
    Means settings (Setting.toOptions settings) := by
  constructor <;> refine given_foldl (fun _ _ => rfl) ?_ settings Options.default
  -- Each kind of setting writes its own field alone.
  all_goals
    intro o s h
    rcases s with ⟨⟨⟩⟩ | _ <;> first | rfl | exact absurd rfl (h _) | exact absurd rfl (h ())

theorem eq_of_key_eq {settings : List Setting} (hnodup : (settings.map Setting.key).Nodup)
    {s t : Setting} (hs : s ∈ settings) (ht : t ∈ settings) (h : s.key = t.key) : s = t :=
  List.inj_on_of_nodup_map hnodup hs ht h

/-- Settings that set no option twice say one thing about each. -/
theorem Given.unique {α β : Type} {settings : List Setting} {make : α → Setting} {wrap : α → β}
    {fallback value value' : β} (hnodup : (settings.map Setting.key).Nodup)
    (hkey : ∀ a b, (make a).key = (make b).key) (hmake : ∀ a b, make a = make b → wrap a = wrap b)
    (h : Given settings make wrap fallback value) (h' : Given settings make wrap fallback value') :
    value = value' := by
  obtain ⟨a, ha, hvalue⟩ | ⟨hnone, hvalue⟩ := h
  · obtain ⟨b, hb, hvalue'⟩ | ⟨hnone', -⟩ := h'
    · rw [hvalue, hvalue']
      exact hmake a b (eq_of_key_eq hnodup ha hb (hkey a b))
    · exact absurd ha (hnone' a)
  · obtain ⟨b, hb, -⟩ | ⟨-, hvalue'⟩ := h'
    · exact absurd hb (hnone b)
    · rw [hvalue, hvalue']

/-- Settings that set no option twice amount to one record of options. -/
theorem Means.unique {settings : List Setting} {o o' : Options}
    (hnodup : (settings.map Setting.key).Nodup) (h : Means settings o) (h' : Means settings o') :
    o = o' := by
  rcases o with ⟨listTests, runAll, testName, build, sourceDir, jobs, layout, groupDir,
    binarySuffix, strict, cmake, ctest⟩
  rcases o' with ⟨listTests', runAll', testName', build', sourceDir', jobs', layout', groupDir',
    binarySuffix', strict', cmake', ctest'⟩
  congr
  · exact h.listTests.unique hnodup (fun _ _ => rfl) (fun _ _ _ => rfl) h'.listTests
  · exact h.runAll.unique hnodup (fun _ _ => rfl) (fun _ _ _ => rfl) h'.runAll
  · exact h.testName.unique hnodup (fun _ _ => rfl) (fun _ _ e => by cases e; rfl) h'.testName
  · exact h.build.unique hnodup (fun _ _ => rfl) (fun _ _ e => by cases e; rfl) h'.build
  · exact h.sourceDir.unique hnodup (fun _ _ => rfl) (fun _ _ e => by cases e; rfl) h'.sourceDir
  · exact h.jobs.unique hnodup (fun _ _ => rfl) (fun _ _ e => by cases e; rfl) h'.jobs
  · exact h.layout.unique hnodup (fun _ _ => rfl) (fun _ _ e => by cases e; rfl) h'.layout
  · exact h.groupDir.unique hnodup (fun _ _ => rfl) (fun _ _ e => by cases e; rfl) h'.groupDir
  · exact h.binarySuffix.unique hnodup (fun _ _ => rfl) (fun _ _ e => by cases e; rfl)
      h'.binarySuffix
  · exact h.strict.unique hnodup (fun _ _ => rfl) (fun _ _ _ => rfl) h'.strict
  · exact h.cmake.unique hnodup (fun _ _ => rfl) (fun _ _ e => by cases e; rfl) h'.cmake
  · exact h.ctest.unique hnodup (fun _ _ => rfl) (fun _ _ e => by cases e; rfl) h'.ctest

/-! ## Options that exclude each other -/

theorem conflict?_cons (a : Key) (rest : List Key) :
    conflict? (a :: rest) = none ↔ (∀ b ∈ rest, excludes a b = false) ∧ conflict? rest = none := by
  rw [conflict?]
  cases h : rest.find? (excludes a) with
  | some b =>
    refine ⟨fun h => (nomatch h), ?_⟩
    rintro ⟨hall, -⟩
    have hb := List.find?_some h
    exact nomatch (hall b (List.mem_of_find?_eq_some h)).symm.trans hb
  | none =>
    have hall : ∀ b ∈ rest, excludes a b = false := fun b hb =>
      Bool.eq_false_iff.mpr (List.find?_eq_none.mp h b hb)
    exact ⟨fun h => ⟨hall, h⟩, fun h => h.2⟩

theorem excludes_eq_true_iff {a b : Key} :
    excludes a b = true ↔
      (a = .flag .runAll ∧ b = .valued .testName) ∨
        (a = .valued .testName ∧ b = .flag .runAll) := by
  simp [excludes]

/-- Options exclude each other exactly if running all tests and running one are both set. -/
theorem conflict?_eq_none_iff {keys : List Key} :
    conflict? keys = none ↔ ¬ (.flag .runAll ∈ keys ∧ .valued .testName ∈ keys) := by
  induction keys with
  | nil => exact ⟨fun _ h => List.not_mem_nil h.1, fun _ => rfl⟩
  | cons a rest ih =>
    rw [conflict?_cons, ih, List.mem_cons, List.mem_cons]
    constructor
    · rintro ⟨hall, hrest⟩ ⟨hrun | hrun, htest | htest⟩
      · exact nomatch hrun.trans htest.symm
      · exact nomatch (hall _ htest).symm.trans (excludes_eq_true_iff.mpr (.inl ⟨hrun.symm, rfl⟩))
      · exact nomatch (hall _ hrun).symm.trans (excludes_eq_true_iff.mpr (.inr ⟨htest.symm, rfl⟩))
      · exact hrest ⟨hrun, htest⟩
    · intro h
      refine ⟨fun b hb => ?_, fun hrest => h ⟨.inr hrest.1, .inr hrest.2⟩⟩
      refine Bool.eq_false_iff.mpr fun hexcludes => h ?_
      obtain ⟨rfl, rfl⟩ | ⟨rfl, rfl⟩ := excludes_eq_true_iff.mp hexcludes
      · exact ⟨.inl rfl, .inr hb⟩
      · exact ⟨.inr hb, .inl rfl⟩

/-! ## The parser -/

theorem parse_eq {args : List Bytes} {o : Options} :
    parse args = .ok o ↔
      ∃ settings, readArguments ⟨[], none⟩ args = .ok settings ∧
        conflict? (settings.map Setting.key) = none ∧ Setting.toOptions settings = o := by
  unfold parse
  cases readArguments ⟨[], none⟩ args with
  | error e =>
    constructor
    · intro h
      cases h
    · rintro ⟨settings, h, -⟩
      cases h
  | ok settings =>
    cases hconflict : conflict? (settings.map Setting.key) with
    | some pair =>
      simp only [hconflict]
      constructor
      · intro h
        cases h
      · rintro ⟨settings', h, hnone, -⟩
        obtain rfl := Except.ok.inj h
        rw [hconflict] at hnone
        cases hnone
    | none =>
      simp only [hconflict]
      constructor
      · intro h
        exact ⟨settings, rfl, hconflict, Except.ok.inj h⟩
      · rintro ⟨settings', h, -, rfl⟩
        obtain rfl := Except.ok.inj h
        rfl

/-- **The parser accepts exactly its grammar, with the right meaning.** A command line without two
dashes alone is accepted with certain options if and only if it is a sequence of option groups in
which every value is admissible, no option is set twice and running all tests is not set together
with running one, and the options are what is given there and the defaults for all else. -/
theorem parse_eq_ok_iff (args : List Bytes) (hdashes : [dash, dash] ∉ args) (o : Options) :
    parse args = .ok o ↔
      ∃ items settings, Groups items args ∧ List.Forall₂ Reads items settings ∧
        (items.map Item.key).Nodup ∧
        ¬ (.flag .runAll ∈ items.map Item.key ∧ .valued .testName ∈ items.map Item.key) ∧
        Means settings o := by
  rw [parse_eq]
  constructor
  · rintro ⟨settings, hread, hconflict, rfl⟩
    obtain ⟨items, hitems, hadd⟩ := (readArguments_eq_ok_iff hdashes).mp hread
    obtain ⟨hreads, hnodup⟩ := addItems_nil_eq_ok_iff.mp hadd
    rw [keys_eq hreads] at hconflict
    exact ⟨items, settings, onward_none_iff.mp hitems, hreads, hnodup,
      conflict?_eq_none_iff.mp hconflict, toOptions_means settings⟩
  · rintro ⟨items, settings, hgroups, hreads, hnodup, hboth, hmeans⟩
    have hadd := addItems_nil_eq_ok_iff.mpr ⟨hreads, hnodup⟩
    refine ⟨settings, ?_, ?_, ?_⟩
    · exact (readArguments_eq_ok_iff hdashes).mpr ⟨items, onward_none_iff.mpr hgroups, hadd⟩
    · rw [keys_eq hreads]
      exact conflict?_eq_none_iff.mpr hboth
    · exact (toOptions_means settings).unique ((keys_eq hreads).symm ▸ hnodup) hmeans

/-- Letters with a build directory left out, a worker count with a sign, a lone dash as a value and
a program whose name is no text; then every option by its full name but for the one that the test
name excludes, that one among letters, and the letters that are left. -/
theorem parse_mixedSpellings :
    let four : Jobs := ⟨4, by decide, by decide⟩
    parse [utf8 "-lb", utf8 "--jobs=+4", utf8 "-S", [dash], utf8 "--ctest=" ++ [0xFF]] =
      .ok { Options.default with
        listTests := true, jobs := some four, sourceDir := [dash], ctest := [0xFF] } ∧
    parse (["--list-tests", "--test-name=heap", "--build", "out", "--source-dir", "lib", "--jobs",
        "4", "--layout=groups", "--group-dir", "pkg", "--binary-suffix=_t", "--strict",
        "--cmake=cm", "--ctest", "ct"].map utf8) =
      .ok {
        listTests := true, runAll := false, testName := some "heap", build := utf8 "out"
        sourceDir := utf8 "lib", jobs := some four, layout := .groups, groupDir := "pkg"
        binarySuffix := "_t", strict := true, cmake := utf8 "cm", ctest := utf8 "ct" } ∧
    parse (["--run-all", "-lbout", "-S=lib", "-j4"].map utf8) =
      .ok { Options.default with
        listTests := true, runAll := true, build := utf8 "out", sourceDir := utf8 "lib"
        jobs := some four } ∧
    parse [utf8 "-r"] = .ok { Options.default with runAll := true } ∧
    parse [utf8 "-t", utf8 "heap"] = .ok { Options.default with testName := some "heap" } := by
  intro four
  have hdigits : ∀ c ∈ ['4'], Text.isDigit c = true := fun c hc => List.mem_singleton.mp hc ▸ rfl
  have hfour : Text.IsNumeral "4".toList 4 := ⟨['4'], .inl rfl, by decide, hdigits, rfl⟩
  have hplusFour : Text.IsNumeral "+4".toList 4 := ⟨['4'], .inr rfl, by decide, hdigits, rfl⟩
  refine ⟨?_, ?_, ?_, ?_, ?_⟩
  · refine (parse_eq_ok_iff _ (by decide) _).mpr
      ⟨[.flag .listTests, .value .build (utf8 "./build"), .value .jobs (utf8 "+4"),
        .value .sourceDir [dash], .value .ctest [0xFF]],
       [.flag .listTests, .build (utf8 "./build"), .jobs four, .sourceDir [dash], .ctest [0xFF]],
       ?_, ?_, by decide, by decide, toOptions_means _⟩
    · have hletters : Letters [.flag .listTests] (some .build) (utf8 "lb") :=
        .more ⟨'l', rfl, rfl⟩ (.without ⟨'b', rfl, rfl⟩)
      have hsource : Letters [] (some .sourceDir) (utf8 "S") := .without ⟨'S', rfl, rfl⟩
      exact .cons (.implied (.letters hletters))
        (.cons (.complete (.attached .jobs (utf8 "+4")))
          (.cons (.separate (.letters hsource) (by decide))
            (.cons (.complete (.attached .ctest [0xFF])) .nil)))
    · exact .cons (.flag .listTests) (.cons (.build (by decide)) (.cons (.jobs hplusFour)
        (.cons (.sourceDir (by decide)) (.cons (.ctest (by decide)) .nil))))
  · refine (parse_eq_ok_iff _ (by decide) _).mpr
      ⟨[.flag .listTests, .value .testName (utf8 "heap"), .value .build (utf8 "out"),
        .value .sourceDir (utf8 "lib"), .value .jobs (utf8 "4"), .value .layout (utf8 "groups"),
        .value .groupDir (utf8 "pkg"), .value .binarySuffix (utf8 "_t"), .flag .strict,
        .value .cmake (utf8 "cm"), .value .ctest (utf8 "ct")],
       [.flag .listTests, .testName "heap", .build (utf8 "out"), .sourceDir (utf8 "lib"),
        .jobs four, .layout .groups, .groupDir "pkg", .binarySuffix "_t", .flag .strict,
        .cmake (utf8 "cm"), .ctest (utf8 "ct")], ?_, ?_, by decide, by decide, toOptions_means _⟩
    · exact .cons (.complete (.flag .listTests))
        (.cons (.complete (.attached .testName (utf8 "heap")))
        (.cons (.separate (.without .build) (by decide))
        (.cons (.separate (.without .sourceDir) (by decide))
        (.cons (.separate (.without .jobs) (by decide))
        (.cons (.complete (.attached .layout (utf8 "groups")))
        (.cons (.separate (.without .groupDir) (by decide))
        (.cons (.complete (.attached .binarySuffix (utf8 "_t")))
        (.cons (.complete (.flag .strict))
        (.cons (.complete (.attached .cmake (utf8 "cm")))
        (.cons (.separate (.without .ctest) (by decide)) .nil))))))))))
    · exact .cons (.flag .listTests) (.cons (.testName "heap") (.cons (.build (by decide))
        (.cons (.sourceDir (by decide)) (.cons (.jobs hfour) (.cons (.layout .groups)
        (.cons (.groupDir "pkg") (.cons (.binarySuffix "_t") (.cons (.flag .strict)
        (.cons (.cmake (by decide)) (.cons (.ctest (by decide)) .nil))))))))))
  · refine (parse_eq_ok_iff _ (by decide) _).mpr
      ⟨[.flag .runAll, .flag .listTests, .value .build (utf8 "out"),
        .value .sourceDir (utf8 "lib"), .value .jobs (utf8 "4")],
       [.flag .runAll, .flag .listTests, .build (utf8 "out"), .sourceDir (utf8 "lib"),
        .jobs four], ?_, ?_, by decide, by decide, toOptions_means _⟩
    · have hbuild : Letters [.flag .listTests, .value .build (utf8 "out")] none (utf8 "lbout") :=
        .more ⟨'l', rfl, rfl⟩ (.attached ⟨'b', rfl, rfl⟩ (by decide) (by decide))
      have hsource : Letters [.value .sourceDir (utf8 "lib")] none (utf8 "S=lib") :=
        .equals ⟨'S', rfl, rfl⟩
      have hjobs : Letters [.value .jobs (utf8 "4")] none (utf8 "j4") :=
        .attached ⟨'j', rfl, rfl⟩ (by decide) (by decide)
      exact .cons (.complete (.flag .runAll)) (.cons (.complete (.letters hbuild))
        (.cons (.complete (.letters hsource)) (.cons (.complete (.letters hjobs)) .nil)))
    · exact .cons (.flag .runAll) (.cons (.flag .listTests) (.cons (.build (by decide))
        (.cons (.sourceDir (by decide)) (.cons (.jobs hfour) .nil))))
  · refine (parse_eq_ok_iff _ (by decide) _).mpr ⟨[.flag .runAll], [.flag .runAll],
      .cons (.complete (.letters (.last ⟨'r', rfl, rfl⟩))) .nil, .cons (.flag .runAll) .nil,
      by decide, by decide, toOptions_means _⟩
  · refine (parse_eq_ok_iff _ (by decide) _).mpr
      ⟨[.value .testName (utf8 "heap")], [.testName "heap"], ?_, .cons (.testName "heap") .nil,
        by decide, by decide, toOptions_means _⟩
    exact .cons (.separate (.letters (.without ⟨'t', rfl, rfl⟩)) (by decide)) .nil

end Testbed.CommandLine
