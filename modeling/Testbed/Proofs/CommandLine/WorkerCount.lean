import Testbed.Proofs.CommandLine.Meaning

/-!
# The worker count

The value attached to `--jobs` is read by itself. Among arguments that are accepted with one value,
every other value is accepted or refused as if it stood alone, and where it is accepted it is the
only thing that changes.

* `readArguments_append` splits the reading at an argument, and `readArguments_congr` says that what
  comes later is read in the same way after other values of the same options.
* `NoWorkerCount` says why a text is refused, and `readJobs_eq_error_iff` that the reader agrees.
* `parse_jobsArgument`: what becomes of a command line with another worker count.
* `parse_jobs` puts them together, with the decimal numeral that the children get.
-/

namespace Testbed.CommandLine

/-! ## Values that are refused -/

/-- Why a text is no worker count: it is no number that 64 bits hold, or a zero. -/
inductive NoWorkerCount (cs : List Char) : Text.NumberError → Prop
  | unreadable {why : Text.NumberError} (h : Text.Unreadable 18446744073709551615 cs why) :
      NoWorkerCount cs why
  | zero (hne : Text.unsigned cs ≠ []) (h : ∀ c ∈ Text.unsigned cs, c = '0') :
      NoWorkerCount cs .zero

theorem noWorkerCount_iff {cs : List Char} {why : Text.NumberError} :
    NoWorkerCount cs why ↔
      Text.readNumber 18446744073709551615 cs = .error why ∨
        Text.readNumber 18446744073709551615 cs = .ok 0 ∧ why = .zero := by
  rw [Text.readNumber_eq_error_iff, Text.readNumber_eq_ok_iff, Text.isNumeral_zero_iff]
  constructor
  · rintro (h | ⟨hne, h⟩)
    · exact .inl h
    · exact .inr ⟨⟨⟨hne, h⟩, Nat.zero_le _⟩, rfl⟩
  · rintro (h | ⟨⟨⟨hne, h⟩, -⟩, rfl⟩)
    · exact .unreadable h
    · exact .zero hne h

/-- A value is refused exactly if it is no text, or for the reason for which its text is no worker
count. -/
theorem readJobs_eq_error_iff {value : Bytes} {e : UsageError} :
    readJobs value = .error e ↔
      (e = .notText ∧ ∀ text, value ≠ utf8 text) ∨
        ∃ text why, value = utf8 text ∧ e = .invalidJobs text why ∧
          NoWorkerCount text.toList why := by
  simp only [Ne, ← Text.decode?_eq_some_iff, noWorkerCount_iff]
  unfold readJobs
  split
  · next hnone => simp [hnone, eq_comm]
  · next text htext =>
    simp only [htext, Option.some.injEq]
    split
    · next why hwhy => simp [hwhy, eq_comm]
    · next n hread =>
      split
      · next hn => simp [hread, Nat.ne_of_gt hn]
      · next hn =>
        obtain rfl : n = 0 := by omega
        simp [hread, eq_comm]

/-! ## Reading up to an argument -/

/-- Reads arguments of which none is two dashes alone, and goes on from there. -/
def readFront : Progress → List Bytes → Except UsageError Progress
  | p, [] => .ok p
  | p, arg :: rest => (readArgument p arg).bind fun q => readFront q rest

theorem readArguments_append {front : List Bytes} (h : [dash, dash] ∉ front) (p : Progress)
    (back : List Bytes) :
    readArguments p (front ++ back) = (readFront p front).bind fun q => readArguments q back := by
  induction front generalizing p with
  | nil => rfl
  | cons arg rest ih =>
    obtain ⟨harg, hrest⟩ := List.ne_and_not_mem_of_not_mem_cons h
    rw [List.cons_append, readArguments_cons harg.symm, readFront]
    cases readArgument p arg with
    | error e => rfl
    | ok q => exact ih hrest q

/-- Two dashes alone come last. -/
theorem eq_nil_of_dashes {p : Progress} {front back : List Bytes} {all : List Setting}
    (h : readArguments p (front ++ [dash, dash] :: back) = .ok all) : back = [] := by
  induction front generalizing p with
  | nil =>
    cases back with
    | nil => rfl
    | cons stray rest => exact nomatch h
  | cons arg rest ih =>
    by_cases harg : arg = [dash, dash]
    · subst harg
      cases rest <;> exact nomatch h
    · rw [List.cons_append, readArguments_cons harg, bind_eq_ok_iff] at h
      obtain ⟨q, -, h⟩ := h
      exact ih h

/-! ## What comes later -/

section

variable {settings settings' all : List Setting} {args : List Bytes}

/-- Items are added in the same way to all settings of the same options, and none of these options
is set again. -/
theorem addItems_congr {items : List Item}
    (hkeys : settings'.map Setting.key = settings.map Setting.key)
    (h : addItems settings items = .ok all) :
    ∃ added, all = settings ++ added ∧ (∀ s ∈ added, s.key ∉ settings.map Setting.key) ∧
      addItems settings' items = .ok (settings' ++ added) := by
  induction items generalizing settings settings' with
  | nil =>
    obtain rfl := Except.ok.inj h
    exact ⟨[], (List.append_nil _).symm, List.forall_mem_nil _,
      congrArg Except.ok (List.append_nil settings').symm⟩
  | cons item rest ih =>
    obtain ⟨more, hmore, hall⟩ := bind_eq_ok_iff.mp h
    obtain ⟨hk, s, hs, rfl⟩ := add_eq_ok_iff.mp hmore
    have hkeys' : (settings' ++ [s]).map Setting.key = (settings ++ [s]).map Setting.key := by
      simp only [List.map_append, hkeys]
    obtain ⟨added, rfl, hnew, hadded⟩ := ih hkeys' hall
    refine ⟨s :: added, (List.append_cons ..).symm, List.forall_mem_cons.mpr ⟨?_, ?_⟩, ?_⟩
    · rwa [(check_eq_ok_iff.mp hs).key_eq]
    · intro t ht hmem
      exact hnew t ht (List.map_append ▸ List.mem_append_left _ hmem)
    · rw [List.append_cons]
      exact bind_eq_ok_iff.mpr ⟨_, add_eq_ok_iff.mpr ⟨hkeys ▸ hk, s, hs, rfl⟩, hadded⟩

/-- Two dashes alone at the end change nothing. -/
theorem readArguments_append_dashes (h : [dash, dash] ∉ args) (p : Progress) :
    readArguments p (args ++ [[dash, dash]]) = readArguments p args :=
  calc readArguments p (args ++ [[dash, dash]])
    _ = (readFront p args).bind settle := readArguments_append h p _
    _ = readArguments p (args ++ []) := (readArguments_append h p []).symm
    _ = readArguments p args := by rw [List.append_nil]

/-- What is accepted is arguments without two dashes alone, which may come after them. -/
theorem exists_front {p : Progress} (h : readArguments p args = .ok all) :
    ∃ front, [dash, dash] ∉ front ∧ (args = front ∨ args = front ++ [[dash, dash]]) := by
  by_cases hdashes : [dash, dash] ∈ args
  · obtain ⟨front, back, rfl, hfront⟩ := List.eq_append_cons_of_mem hdashes
    obtain rfl := eq_nil_of_dashes h
    exact ⟨front, hfront, .inr rfl⟩
  · exact ⟨args, hdashes, .inl rfl⟩

/-- What is accepted is read as arguments without two dashes alone. -/
theorem exists_without_dashes {p : Progress} (h : readArguments p args = .ok all) :
    ∃ front, [dash, dash] ∉ front ∧ ∀ q, readArguments q args = readArguments q front := by
  obtain ⟨front, hfront, rfl | rfl⟩ := exists_front h
  · exact ⟨args, hfront, fun _ => rfl⟩
  · exact ⟨front, hfront, readArguments_append_dashes hfront⟩

/-- Arguments are read in the same way after all settings of the same options, and none of these
options is set again. -/
theorem readArguments_congr (hkeys : settings'.map Setting.key = settings.map Setting.key)
    (h : readArguments ⟨settings, none⟩ args = .ok all) :
    ∃ added, all = settings ++ added ∧ (∀ s ∈ added, s.key ∉ settings.map Setting.key) ∧
      readArguments ⟨settings', none⟩ args = .ok (settings' ++ added) := by
  obtain ⟨front, hfront, hargs⟩ := exists_without_dashes h
  rw [hargs, readArguments_eq_ok_iff hfront] at h
  obtain ⟨items, hitems, hadd⟩ := h
  obtain ⟨added, rfl, hnew, hadded⟩ := addItems_congr hkeys hadd
  refine ⟨added, rfl, hnew, ?_⟩
  rw [hargs, readArguments_eq_ok_iff hfront]
  exact ⟨items, hitems, hadded⟩

end

/-! ## Another worker count -/

/-- Settings of other options do not touch the worker count, and do not ask for it. -/
theorem applyTo_jobs {s : Setting} (h : s.key ≠ .valued .jobs) (o : Options) (jobs : Option Jobs) :
    Setting.applyTo { o with jobs := jobs } s = { Setting.applyTo o s with jobs := jobs } := by
  rcases s with ⟨⟨⟩⟩ | _ <;> first | rfl | exact absurd rfl h

theorem foldl_applyTo_jobs {settings : List Setting}
    (h : ∀ s ∈ settings, s.key ≠ .valued .jobs) (o : Options) (jobs : Option Jobs) :
    settings.foldl Setting.applyTo { o with jobs := jobs } =
      { settings.foldl Setting.applyTo o with jobs := jobs } := by
  induction settings generalizing o with
  | nil => rfl
  | cons s rest ih =>
    obtain ⟨hs, hrest⟩ := List.forall_mem_cons.mp h
    rw [List.foldl_cons, List.foldl_cons, applyTo_jobs hs, ih hrest]

/-- The options with another worker count, where it is set once. -/
theorem toOptions_jobs {settings added : List Setting} {jobs jobs' : Jobs}
    (h : ∀ s ∈ added, s.key ≠ .valued .jobs) :
    Setting.toOptions (settings ++ [.jobs jobs'] ++ added) =
      { Setting.toOptions (settings ++ [.jobs jobs] ++ added) with jobs := some jobs' } := by
  simp only [Setting.toOptions, List.foldl_append, List.foldl_cons, List.foldl_nil]
  generalize settings.foldl Setting.applyTo Options.default = o
  show added.foldl Setting.applyTo { o with jobs := some jobs' } =
    { added.foldl Setting.applyTo { o with jobs := some jobs } with jobs := some jobs' }
  rw [foldl_applyTo_jobs h o (some jobs'), foldl_applyTo_jobs h o (some jobs)]

/-- The argument that gives a worker count, whatever its bytes. -/
def jobsArgument (value : Bytes) : Bytes := utf8 "--jobs=" ++ value

theorem jobsArgument_eq (value : Bytes) :
    jobsArgument value = longName (.valued .jobs) ++ equals :: value := rfl

theorem jobsArgument_ne_dashes (value : Bytes) : jobsArgument value ≠ [dash, dash] :=
  fun h => nomatch h

/-- What the argument does: it settles what is open, and its value is read by itself. -/
theorem readArgument_jobsArgument (p : Progress) (value : Bytes) :
    readArgument p (jobsArgument value) =
      (settle p).bind fun settings =>
        (add settings (.valued .jobs) ((readJobs value).map .jobs)).bind fun more =>
          .ok ⟨more, none⟩ := by
  rw [jobsArgument_eq, readArgument_opening (.attached .jobs value), openingStep]
  simp only [addItems_singleton]
  rfl

/-- The arguments before and after a worker count are read for themselves. -/
theorem readArguments_jobsArgument {front : List Bytes} (h : [dash, dash] ∉ front)
    (back : List Bytes) (value : Bytes) :
    readArguments ⟨[], none⟩ (front ++ jobsArgument value :: back) =
      ((readFront ⟨[], none⟩ front).bind settle).bind fun settings =>
        (add settings (.valued .jobs) ((readJobs value).map .jobs)).bind fun more =>
          readArguments ⟨more, none⟩ back := by
  rw [readArguments_append h]
  cases readFront ⟨[], none⟩ front with
  | error e => rfl
  | ok p =>
    simp only [Except.bind]
    rw [readArguments_cons (jobsArgument_ne_dashes value), readArgument_jobsArgument]
    cases settle p with
    | error e => rfl
    | ok settings =>
      simp only [Except.bind]
      cases add settings (.valued .jobs) ((readJobs value).map .jobs) <;> rfl

/-- Where a command line is read with one value, it is read with another one up to the value, and
then with the worker count that this stands for. -/
theorem exists_readArguments_jobsArgument {front back : List Bytes} {known : Bytes}
    {all : List Setting}
    (h : readArguments ⟨[], none⟩ (front ++ jobsArgument known :: back) = .ok all) :
    ∃ settings jobs, Key.valued .jobs ∉ settings.map Setting.key ∧
      readArguments ⟨settings ++ [.jobs jobs], none⟩ back = .ok all ∧
      ∀ value, readArguments ⟨[], none⟩ (front ++ jobsArgument value :: back) =
        (readJobs value).bind fun jobs => readArguments ⟨settings ++ [.jobs jobs], none⟩ back := by
  have hfront : [dash, dash] ∉ front := by
    intro hmem
    obtain ⟨front', back', rfl⟩ := List.append_of_mem hmem
    rw [List.append_assoc, List.cons_append] at h
    exact List.append_ne_nil_of_right_ne_nil _ (List.cons_ne_nil _ _) (eq_nil_of_dashes h)
  rw [readArguments_jobsArgument hfront] at h
  obtain ⟨settings, hsettings, h⟩ := bind_eq_ok_iff.mp h
  obtain ⟨more, hadd, h⟩ := bind_eq_ok_iff.mp h
  obtain ⟨hk, s, hs, rfl⟩ := add_eq_ok_iff.mp hadd
  obtain ⟨jobs, -, rfl⟩ := map_eq_ok_iff.mp hs
  refine ⟨settings, jobs, hk, h, fun value => ?_⟩
  rw [readArguments_jobsArgument hfront, hsettings]
  simp only [Except.bind, add, if_neg hk]
  cases readJobs value <;> rfl

/-- Among arguments that are accepted with one value, another one is read by itself: it is refused
as it would be alone, or changes the worker count and nothing else. -/
theorem parse_jobsArgument {front back : List Bytes} {known : Bytes} {o : Options}
    (h : parse (front ++ jobsArgument known :: back) = .ok o) (value : Bytes) :
    parse (front ++ jobsArgument value :: back) =
      (readJobs value).map fun jobs => { o with jobs := some jobs } := by
  obtain ⟨all, hread, hconflict, rfl⟩ := parse_eq.mp h
  obtain ⟨settings, jobs, hk, hback, hvalue⟩ := exists_readArguments_jobsArgument hread
  cases hjobs' : readJobs value with
  | error e =>
    rw [parse, hvalue, hjobs']
    rfl
  | ok jobs' =>
    have hkeys : (settings ++ [Setting.jobs jobs']).map Setting.key =
        (settings ++ [Setting.jobs jobs]).map Setting.key := by
      simp only [List.map_append, List.map_cons, Setting.key]
    -- What comes later is read as it was, and sets no worker count again.
    obtain ⟨added, rfl, hnew, hadded⟩ := readArguments_congr hkeys hback
    refine parse_eq.mpr ⟨settings ++ [.jobs jobs'] ++ added, ?_, ?_, ?_⟩
    · rw [hvalue, hjobs']
      exact hadded
    · rwa [List.map_append, hkeys, ← List.map_append]
    · refine toOptions_jobs fun s hs hkey => hnew s hs ?_
      rw [hkey, List.map_append]
      exact List.mem_append_right _ List.mem_cons_self

/-! ## The worker count that the children get -/

/-- A worker count is written as its decimal numeral. -/
theorem isDecimal_text (jobs : Jobs) : Text.IsDecimal jobs.text.toList jobs.count :=
  Text.isDecimal_iff.mpr rfl

theorem head?_text_ne_zero (jobs : Jobs) : jobs.text.toList.head? ≠ some '0' := by
  intro hhead
  have hdecimal := isDecimal_text jobs
  have hvalue := hdecimal.value
  rw [hdecimal.head hhead] at hvalue
  exact absurd jobs.positive (hvalue ▸ by decide)

theorem readJobs_text (jobs : Jobs) : readJobs (utf8 jobs.text) = .ok jobs :=
  readJobs_eq_ok_iff.mpr ⟨jobs.text, rfl, (isDecimal_text jobs).isNumeral⟩

/-- **Worker counts.** Take arguments that are accepted with one value of the worker count. With any
other one they are accepted exactly if it is the text of a numeral, with or without a plus sign, of
a number that is at least one and that 64 bits hold, and then this is the worker count and nothing
else changes. The children get it as its decimal numeral, without a sign and without zeros before
it, which stands for the same worker count again. Otherwise they are refused: a value that is no
text for that, and a text for the reason for which it is no worker count. -/
theorem parse_jobs (front back : List Bytes) (known : Bytes) (o : Options)
    (h : parse (front ++ jobsArgument known :: back) = .ok o) (value : Bytes) :
    let answer := parse (front ++ jobsArgument value :: back)
    (∀ o', answer = .ok o' ↔
      ∃ (text : String) (n : Nat) (hpos : 1 ≤ n) (hle : n ≤ 18446744073709551615),
        value = utf8 text ∧ Text.IsNumeral text.toList n ∧
          o' = { o with jobs := some ⟨n, hpos, hle⟩ }) ∧
    (∀ e, answer = .error e ↔
      (e = .notText ∧ ∀ text, value ≠ utf8 text) ∨
        ∃ text why, value = utf8 text ∧ e = .invalidJobs text why ∧
          NoWorkerCount text.toList why) ∧
    ∀ jobs : Jobs,
      (∀ hostJobs directory,
        let t := ({ o with jobs := some jobs } : Options).toolchain hostJobs
        t.compile directory =
            ⟨o.cmake, [utf8 "--build", directory, utf8 "-j", utf8 jobs.text]⟩ ∧
          t.testAll directory =
            ⟨o.ctest, [utf8 "-j", utf8 jobs.text, utf8 "--test-dir", directory]⟩) ∧
      Text.IsDecimal jobs.text.toList jobs.count ∧ jobs.text.toList.head? ≠ some '0' ∧
      parse (front ++ jobsArgument (utf8 jobs.text) :: back) =
        .ok { o with jobs := some jobs } := by
  intro answer
  have hanswer : answer = (readJobs value).map fun jobs => { o with jobs := some jobs } :=
    parse_jobsArgument h value
  refine ⟨fun o' => ?_, fun e => ?_, fun jobs => ⟨fun _ _ => ⟨rfl, rfl⟩, ?_, ?_, ?_⟩⟩
  · rw [hanswer, map_eq_ok_iff]
    constructor
    · rintro ⟨⟨n, hpos, hle⟩, hjobs, rfl⟩
      obtain ⟨text, hvalue, hnumeral⟩ := readJobs_eq_ok_iff.mp hjobs
      exact ⟨text, n, hpos, hle, hvalue, hnumeral, rfl⟩
    · rintro ⟨text, n, hpos, hle, hvalue, hnumeral, rfl⟩
      exact ⟨⟨n, hpos, hle⟩, readJobs_eq_ok_iff.mpr ⟨text, hvalue, hnumeral⟩, rfl⟩
  · rw [hanswer, ← readJobs_eq_error_iff]
    cases readJobs value <;> simp [Except.map]
  · exact isDecimal_text jobs
  · exact head?_text_ne_zero jobs
  · rw [parse_jobsArgument h, readJobs_text]
    rfl

/-- A numeral with a sign and zeros is accepted; a text of too many digits is refused for these, and
not for the letter after them. -/
theorem parse_signedJobs :
    parse [utf8 "-r", jobsArgument (utf8 "+007"), utf8 "--strict"] =
      .ok { Options.default with
        runAll := true, strict := true, jobs := some ⟨7, by decide, by decide⟩ } ∧
    parse [utf8 "-r", jobsArgument (utf8 "18446744073709551616x"), utf8 "--strict"] =
      .error (.invalidJobs "18446744073709551616x" .tooLarge) := by
  have hknown : parse ([utf8 "-r"] ++ jobsArgument (utf8 "1") :: [utf8 "--strict"]) =
      .ok { Options.default with runAll := true, strict := true, jobs := some Jobs.one } := by
    rfl
  have hnumeral : Text.IsNumeral "+007".toList 7 :=
    ⟨['0', '0', '7'], .inr rfl, by decide, List.all_eq_true.mp rfl, rfl⟩
  constructor
  · exact ((parse_jobs _ _ _ _ hknown (utf8 "+007")).1 _).mpr
      ⟨"+007", 7, by decide, by decide, rfl, hnumeral, rfl⟩
  · refine ((parse_jobs _ _ _ _ hknown (utf8 "18446744073709551616x")).2.1 _).mpr
      (.inr ⟨_, .tooLarge, rfl, rfl, ?_⟩)
    exact noWorkerCount_iff.mpr (.inl rfl)

end Testbed.CommandLine
