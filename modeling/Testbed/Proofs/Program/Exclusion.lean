import Testbed.Program
import Testbed.Proofs.CommandLine.Meaning

/-!
# Options that exclude each other

A command line that asks for all tests and for one is refused, whatever else it asks for. This is
seen only when all of it has been read, and so it is said of a command line in which nothing else is
wrong, wherever the two stand in it and however they are spelled.

* `conflict?_eq_some`: the two are reported in the order in which they stand.
* `run_exclusive`: such a command line ends the program, and nothing has been done.

What stands on standard error is told up to its first empty line: the line on usage and the hint
below that are no part of `Outcome.errors`.
-/

namespace Testbed.CommandLine

/-! ## The pair that is reported -/

theorem excludes_left {a b c d : Key} (h : excludes a b = true) (h' : excludes c d = true) :
    c = a ∨ c = b := by
  obtain ⟨rfl, rfl⟩ | ⟨rfl, rfl⟩ := excludes_eq_true_iff.mp h <;>
    obtain ⟨rfl, -⟩ | ⟨rfl, -⟩ := excludes_eq_true_iff.mp h' <;> simp

theorem excludes_right {a b c : Key} (h : excludes a b = true) (h' : excludes a c = true) :
    c = b := by
  obtain ⟨rfl, rfl⟩ | ⟨rfl, rfl⟩ := excludes_eq_true_iff.mp h <;>
    obtain ⟨ha, rfl⟩ | ⟨ha, rfl⟩ := excludes_eq_true_iff.mp h' <;> first | rfl | exact nomatch ha

/-- Two options that exclude each other are reported in the order in which they stand, whatever
stands around them. -/
theorem conflict?_eq_some {front middle back : List Key} {a b : Key} (h : excludes a b = true)
    (hnodup : (front ++ a :: (middle ++ b :: back)).Nodup) :
    conflict? (front ++ a :: (middle ++ b :: back)) = some (a, b) := by
  induction front with
  | nil =>
    have hmiddle : middle.find? (excludes a) = none := by
      refine List.find?_eq_none.mpr fun c hc hexcludes => ?_
      obtain rfl := excludes_right h hexcludes
      have hdisjoint := (List.nodup_append.mp (List.nodup_cons.mp hnodup).2).2.2
      exact hdisjoint c hc c List.mem_cons_self rfl
    rw [List.nil_append, conflict?, List.find?_append, hmiddle, List.find?_cons_of_pos h]
    rfl
  | cons c front ih =>
    obtain ⟨hc, hnodup⟩ := List.nodup_cons.mp hnodup
    -- What excludes anything is one of the two, and these stand behind `c`.
    have hnone : (front ++ a :: (middle ++ b :: back)).find? (excludes c) = none := by
      refine List.find?_eq_none.mpr fun d _ hexcludes => hc ?_
      obtain rfl | rfl := excludes_left h hexcludes <;> simp
    rw [List.cons_append, conflict?, hnone]
    exact ih hnodup

/-- Of two members of a list, one stands before the other. -/
theorem exists_between {α : Type} {l : List α} {a b : α} (ha : a ∈ l) (hb : b ∈ l) (hne : a ≠ b) :
    ∃ front middle back, l = front ++ a :: (middle ++ b :: back) ∨
      l = front ++ b :: (middle ++ a :: back) := by
  obtain ⟨front, back, rfl⟩ := List.append_of_mem ha
  obtain hb | hb := List.mem_append.mp hb
  · obtain ⟨front, middle, rfl⟩ := List.append_of_mem hb
    exact ⟨front, middle, back, .inr (by rw [List.append_assoc, List.cons_append])⟩
  · obtain ⟨middle, back, rfl⟩ := List.append_of_mem ((List.mem_cons.mp hb).resolve_left hne.symm)
    exact ⟨front, middle, back, .inl rfl⟩

/-- What is reported where the grammar is kept and two options exclude each other. -/
theorem parse_eq_conflict {front middle back items : List Item} {args : List Bytes}
    {settings : List Setting} {first second : Item} (hgroups : Groups items args)
    (hreads : List.Forall₂ Reads items settings) (hnodup : (items.map Item.key).Nodup)
    (hitems : items = front ++ first :: (middle ++ second :: back))
    (hexcludes : excludes first.key second.key = true) :
    parse args = .error (.conflict first.key second.key) := by
  have hread : readArguments ⟨[], none⟩ args = .ok settings :=
    (readArguments_eq_ok_iff hgroups.dashes_notMem).mpr
      ⟨items, onward_none_iff.mpr hgroups, addItems_nil_eq_ok_iff.mpr ⟨hreads, hnodup⟩⟩
  have hconflict : conflict? (settings.map Setting.key) = some (first.key, second.key) := by
    rw [keys_eq hreads]
    subst hitems
    simp only [List.map_append, List.map_cons] at hnodup ⊢
    exact conflict?_eq_some hexcludes hnodup
  simp only [parse, hread, hconflict]

/-- What the user is told about two options that exclude each other, in the first paragraph: which
one stands first. -/
theorem messageIn_conflict {a b : Key} (h : excludes a b = true) (medium : Text.Medium) :
    (UsageError.conflict a b).messageIn medium =
      "error: the argument '" ++ a.shown ++ "' cannot be used with '" ++ b.shown ++ "'" := by
  have hmessage : (UsageError.conflict a b).messageIn medium =
      Text.firstParagraph ("error: " ++
        ("the argument '" ++ a.shown ++ "' cannot be used with '" ++ b.shown ++ "'")) := rfl
  rw [hmessage]
  obtain ⟨rfl, rfl⟩ | ⟨rfl, rfl⟩ := excludes_eq_true_iff.mp h <;> decide +kernel

end Testbed.CommandLine

namespace Testbed.Program

open CommandLine

/-- **Running all tests and running one exclude each other.** Take a command line that is a sequence
of option groups with admissible values in which no option is set twice, and in which both are set,
in whatever order and among whatever other options. Then it is refused with the two in the order in
which they stand, in the error as in what the user is told; and whatever the children would do, the
program ends with the status of a faulty command line and says so in the first paragraph of what it
prints, without any event, with the files and the children as they were. -/
theorem run_exclusive {items : List Item} {args : List Bytes} {settings : List Setting}
    (hgroups : Groups items args) (hreads : List.Forall₂ Reads items settings)
    (hnodup : (items.map Item.key).Nodup) (hrun : .flag .runAll ∈ items.map Item.key)
    (htest : .valued .testName ∈ items.map Item.key) :
    ∃ front first middle second back,
      items = front ++ first :: (middle ++ second :: back) ∧
      ((first.key = .flag .runAll ∧ second.key = .valued .testName) ∨
        (first.key = .valued .testName ∧ second.key = .flag .runAll)) ∧
      parse args = .error (.conflict first.key second.key) ∧
      (UsageError.conflict first.key second.key).exitCode = 2 ∧
      let told := "error: the argument '" ++ first.key.shown ++ "' cannot be used with '" ++
        second.key.shown ++ "'"
      (UsageError.conflict first.key second.key).message = told ∧
      ∀ {σ : Type} (children : Children σ) (hostJobs : Jobs) (setting : Option String)
        (files : FileSystem) (state : σ),
        run children hostJobs setting args files state =
          { status := 2, output := [], errors := lineOf told, files := files, children := state,
            history := [] } := by
  obtain ⟨all, hall, hallKey⟩ := List.mem_map.mp hrun
  obtain ⟨one, hone, honeKey⟩ := List.mem_map.mp htest
  have hne : all ≠ one := by
    rintro rfl
    exact nomatch hallKey.symm.trans honeKey
  obtain ⟨front, first, middle, second, back, hitems, hkeys⟩ :
      ∃ front first middle second back, items = front ++ first :: (middle ++ second :: back) ∧
        ((first.key = .flag .runAll ∧ second.key = .valued .testName) ∨
          (first.key = .valued .testName ∧ second.key = .flag .runAll)) := by
    obtain ⟨front, middle, back, hitems | hitems⟩ := exists_between hall hone hne
    · exact ⟨front, all, middle, one, back, hitems, .inl ⟨hallKey, honeKey⟩⟩
    · exact ⟨front, one, middle, all, back, hitems, .inr ⟨honeKey, hallKey⟩⟩
  have hexcludes : excludes first.key second.key = true := excludes_eq_true_iff.mpr hkeys
  have hparse := parse_eq_conflict hgroups hreads hnodup hitems hexcludes
  refine ⟨front, first, middle, second, back, hitems, hkeys, hparse, rfl, ?_, ?_⟩
  · exact messageIn_conflict hexcludes .text
  · intro σ children hostJobs setting files state
    rw [run, hparse, ← messageIn_conflict hexcludes .stream]
    rfl

/-- A list of the tests is asked for as well, and the letters of the two stand among others. -/
theorem run_exclusiveLetters :
    let args := [utf8 "-lt", utf8 "hash map", utf8 "--strict", utf8 "-rj4"]
    parse args = .error (.conflict (.valued .testName) (.flag .runAll)) ∧
    ∀ {σ : Type} (children : Children σ) (hostJobs : Jobs) (setting : Option String)
      (files : FileSystem) (state : σ),
      run children hostJobs setting args files state =
        { status := 2, output := []
          errors := lineOf
            "error: the argument '--test-name <NAME>' cannot be used with '--run-all'"
          files := files, children := state, history := [] } := by
  intro args
  have hlist : Letters [.flag .listTests] (some .testName) (utf8 "lt") :=
    .more ⟨'l', rfl, rfl⟩ (.without ⟨'t', rfl, rfl⟩)
  have hrun : Letters [.flag .runAll, .value .jobs (utf8 "4")] none (utf8 "rj4") :=
    .more ⟨'r', rfl, rfl⟩ (.attached ⟨'j', rfl, rfl⟩ (by decide) (by decide))
  have hgroups : Groups [.flag .listTests, .value .testName (utf8 "hash map"), .flag .strict,
      .flag .runAll, .value .jobs (utf8 "4")] args :=
    .cons (.separate (.letters hlist) (by decide))
      (.cons (.complete (.flag .strict)) (.cons (.complete (.letters hrun)) .nil))
  have hfour : Text.IsNumeral "4".toList 4 :=
    ⟨['4'], .inl rfl, by decide, List.all_eq_true.mp rfl, rfl⟩
  have hreads : List.Forall₂ Reads _ [.flag .listTests, .testName "hash map", .flag .strict,
      .flag .runAll, .jobs ⟨4, by decide, by decide⟩] :=
    .cons (.flag .listTests) (.cons (.testName "hash map") (.cons (.flag .strict)
      (.cons (.flag .runAll) (.cons (.jobs hfour) .nil))))
  obtain ⟨-, first, -, second, -, -, -, hparse, -, -, hrefused⟩ :=
    run_exclusive hgroups hreads (by decide) (by decide) (by decide)
  have hconflict : parse args = .error (.conflict (.valued .testName) (.flag .runAll)) := rfl
  obtain ⟨hfirst, hsecond⟩ :=
    UsageError.conflict.inj (Except.error.inj (hparse.symm.trans hconflict))
  rw [hfirst, hsecond] at hrefused
  exact ⟨hconflict, hrefused⟩

end Testbed.Program
