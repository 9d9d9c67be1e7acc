import Testbed.Proofs.CommandLine.WorkerCount

/-!
# Words that end the reading

Some words end the reading of a command line where they stand: those that ask for information, and
those that are not understood. No value and no option does what they do, so that only the arguments
before such a word matter, and it is the first argument that fails.

* `Begun` says what arguments have set so far and which option is still open after them, and
  `readFront_eq_ok_iff` that the reader agrees.
* `UsageError.endsReading` singles out the causes that a word gives by itself. Neither what is open
  nor what an opening sets gives one of them (`settle_error`, `openingStep_error`).
* `readLong_eq_error_iff` and `readLetters_eq_error_iff` say which full names and which letters give
  them, and `readArgument_error_cases` what the argument looks like.
* `EndsAt` says that the reading ends at the first of some arguments, and
  `readArguments_eq_error_iff` that it does so right after those that can be read.
-/

namespace Testbed.CommandLine

/-! ## What arguments have set so far -/

/-- What arguments have set so far, and the option that is still open after them, with its value if
that has come. -/
inductive Begun : List Item → Option (Valued × Option Bytes) → List Bytes → Prop
  | nil : Begun [] none []
  /-- An opening settles what is open before it. -/
  | opening {items settled first : List Item} {pending : Option (Valued × Option Bytes)}
      {left : Option Valued} {args : List Bytes} {arg : Bytes} (h : Begun items pending args)
      (hsettled : Settled pending settled) (hfirst : Opening first left arg) :
      Begun (items ++ settled ++ first) (left.map fun v => (v, none)) (args ++ [arg])
  /-- A word that can stand alone is the value of what is open. -/
  | value {items : List Item} {v : Valued} {args : List Bytes} {word : Bytes}
      (h : Begun items (some (v, none)) args) (hword : Separable word) :
      Begun items (some (v, some word)) (args ++ [word])

theorem readFront_append (p : Progress) (front back : List Bytes) :
    readFront p (front ++ back) = (readFront p front).bind fun q => readFront q back := by
  induction front generalizing p with
  | nil => rfl
  | cons arg rest ih =>
    rw [List.cons_append, readFront, readFront]
    cases readArgument p arg with
    | error e => rfl
    | ok q => exact ih q

theorem readFront_singleton (p : Progress) (arg : Bytes) :
    readFront p [arg] = readArgument p arg := by
  rw [readFront]
  cases readArgument p arg <;> rfl

theorem readFront_concat_eq_ok_iff {p r : Progress} {front : List Bytes} {arg : Bytes} :
    readFront p (front ++ [arg]) = .ok r ↔
      ∃ q, readFront p front = .ok q ∧ readArgument q arg = .ok r := by
  rw [readFront_append, bind_eq_ok_iff]
  simp only [readFront_singleton]

theorem openingStep_eq_ok_iff {p r : Progress} {items : List Item} {left : Option Valued} :
    openingStep p items left = .ok r ↔
      ∃ settled all, Settled p.pending settled ∧ addItems p.settings (settled ++ items) = .ok all ∧
        leaving all left = r := by
  unfold openingStep
  simp only [addItems_append, bind_eq_ok_iff, settle_eq_ok_iff]
  constructor
  · rintro ⟨settings, ⟨settled, hsettled, hsettings⟩, all, hall, hr⟩
    exact ⟨settled, all, hsettled, ⟨settings, hsettings, hall⟩, Except.ok.inj hr⟩
  · rintro ⟨settled, all, hsettled, ⟨settings, hsettings, hall⟩, rfl⟩
    exact ⟨settings, ⟨settled, hsettled, hsettings⟩, all, hall, rfl⟩

/-- What arguments have set is what the reader knows after them. The induction is on the arguments
from their end, as each of them builds on those before it. -/
theorem readFront_eq_ok_iff {args : List Bytes} {q : Progress} :
    readFront ⟨[], none⟩ args = .ok q ↔
      ∃ items, Begun items q.pending args ∧ addItems [] items = .ok q.settings := by
  constructor
  · intro h
    induction args using List.reverseRecOn generalizing q with
    | nil =>
      obtain rfl := Except.ok.inj h
      exact ⟨[], .nil, rfl⟩
    | append_singleton front arg ih =>
      obtain ⟨p, hp, harg⟩ := readFront_concat_eq_ok_iff.mp h
      obtain ⟨items, hbegun, hadd⟩ := ih hp
      by_cases hword : Separable arg
      · rw [readArgument_separable hword] at harg
        obtain ⟨v, hv, rfl⟩ := readValue_eq_ok_iff.mp harg
        rw [hv] at hbegun
        exact ⟨items, hbegun.value hword, hadd⟩
      · obtain ⟨first, left, hfirst⟩ := opening_of_readArgument hword harg
        rw [readArgument_opening hfirst, openingStep_eq_ok_iff] at harg
        obtain ⟨settled, all, hsettled, hall, rfl⟩ := harg
        refine ⟨items ++ settled ++ first, hbegun.opening hsettled hfirst, ?_⟩
        rw [List.append_assoc, addItems_append, hadd]
        exact hall
  · rintro ⟨items, hbegun, hadd⟩
    obtain ⟨settings, pending⟩ := q
    simp only at hbegun hadd
    induction hbegun generalizing settings with
    | nil =>
      obtain rfl := Except.ok.inj hadd
      rfl
    | @opening items settled first pending left args arg _ hsettled hfirst ih =>
      rw [List.append_assoc, addItems_append, bind_eq_ok_iff] at hadd
      obtain ⟨before, hbefore, hadd⟩ := hadd
      refine readFront_concat_eq_ok_iff.mpr ⟨⟨before, pending⟩, ih before hbefore, ?_⟩
      rw [readArgument_opening hfirst]
      exact openingStep_eq_ok_iff.mpr ⟨settled, settings, hsettled, hadd, rfl⟩
    | @value items v args word _ hword ih =>
      refine readFront_concat_eq_ok_iff.mpr ⟨⟨settings, some (v, none)⟩, ih settings hadd, ?_⟩
      rw [readArgument_separable hword]
      exact readValue_eq_ok_iff.mpr ⟨v, rfl, rfl⟩

/-! ## Causes that a word gives by itself -/

/-- Whether a word gives this cause by itself, whatever the options are set to: it asks for
information or is not understood. -/
def UsageError.endsReading : UsageError → Bool
  | .help _ => true
  | .version => true
  | .unknown _ => true
  | _ => false

theorem bind_eq_error_iff {ε α β : Type} {first : Except ε α} {next : α → Except ε β} {e : ε} :
    first.bind next = .error e ↔ first = .error e ∨ ∃ a, first = .ok a ∧ next a = .error e := by
  cases first with
  | error e' => simp [Except.bind]
  | ok a => simp [Except.bind]

section

variable {e : UsageError}

theorem readText_error {value : Bytes} (h : readText value = .error e) : e = .notText := by
  unfold readText at h
  split at h
  · cases h
  · exact (Except.error.inj h).symm

theorem readPath_error {v : Valued} {value : Bytes} (h : readPath v value = .error e) :
    e = .missingValue v := by
  unfold readPath at h
  split at h
  · exact (Except.error.inj h).symm
  · cases h

theorem readLayout_error {value : Bytes} (h : readLayout value = .error e) :
    e = .missingValue .layout ∨ e = .unknownLayout (Text.lossy value) := by
  unfold readLayout at h
  split at h
  · exact .inl (Except.error.inj h).symm
  · split at h
    · cases h
    · exact .inr (Except.error.inj h).symm

theorem map_eq_error_iff {ε α β : Type} {read : Except ε α} {make : α → β} {e : ε} :
    read.map make = .error e ↔ read = .error e := by
  cases read <;> simp [Except.map]

/-- What is wrong with a value, no word gives by itself. -/
theorem checkValue_error {v : Valued} {value : Bytes} (h : checkValue v value = .error e) :
    e.endsReading = false := by
  cases v with
  | testName | groupDir | binarySuffix =>
    obtain rfl := readText_error (map_eq_error_iff.mp h)
    rfl
  | build | sourceDir | cmake | ctest =>
    obtain rfl := readPath_error (map_eq_error_iff.mp h)
    rfl
  | jobs =>
    obtain ⟨rfl, -⟩ | ⟨text, why, -, rfl, -⟩ := readJobs_eq_error_iff.mp (map_eq_error_iff.mp h)
    · rfl
    · rfl
  | layout =>
    obtain rfl | rfl := readLayout_error (map_eq_error_iff.mp h)
    · rfl
    · rfl

theorem add_error {settings : List Setting} {item : Item}
    (h : add settings item.key item.check = .error e) : e.endsReading = false := by
  unfold add at h
  split at h
  · obtain rfl := Except.error.inj h
    rfl
  · cases item with
    | flag f => cases h
    | value v bytes =>
      cases hcheck : checkValue v bytes with
      | ok s =>
        simp only [Item.check, hcheck] at h
        cases h
      | error e' =>
        simp only [Item.check, hcheck] at h
        obtain rfl := Except.error.inj h
        exact checkValue_error hcheck

theorem addItems_error {settings : List Setting} {items : List Item}
    (h : addItems settings items = .error e) : e.endsReading = false := by
  induction items generalizing settings with
  | nil => cases h
  | cons item rest ih =>
    obtain h | ⟨more, -, h⟩ := bind_eq_error_iff.mp h
    · exact add_error h
    · exact ih h

/-- An option that is open gives no such cause. -/
theorem settle_error {p : Progress} (h : settle p = .error e) : e.endsReading = false := by
  unfold settle at h
  split at h
  · cases h
  · next v value _ =>
    split at h
    · obtain rfl := Except.error.inj h
      rfl
    · next bytes _ =>
      have hadd : add p.settings (Item.value v bytes).key (Item.value v bytes).check = .error e := h
      exact add_error hadd

/-- An opening of the grammar gives no such cause. -/
theorem openingStep_error {p : Progress} {items : List Item} {left : Option Valued}
    (h : openingStep p items left = .error e) : e.endsReading = false := by
  obtain h | ⟨settings, -, h⟩ := bind_eq_error_iff.mp h
  · exact settle_error h
  · obtain h | ⟨more, -, h⟩ := bind_eq_error_iff.mp h
    · exact addItems_error h
    · cases h

theorem meet_error {p : Progress} {f : Flag} (h : meet p f = .error e) : e.endsReading = false :=
  openingStep_error (meet_eq p f ▸ h)

theorem openValued_error {p : Progress} {v : Valued} {attached : Option Bytes}
    (h : openValued p v attached = .error e) : e.endsReading = false := by
  cases attached with
  | none => exact openingStep_error (openValued_none p v ▸ h)
  | some value => exact openingStep_error (openValued_some p v value ▸ h)

/-- A word that asks for information is heeded if what is open can be settled. -/
theorem inform_eq_error_iff {p : Progress} {information : UsageError}
    (he : e.endsReading = true) :
    inform p information = .error e ↔ e = information ∧ ∃ settings, settle p = .ok settings := by
  unfold inform
  cases hs : settle p with
  | error e' =>
    constructor
    · intro h
      obtain rfl := Except.error.inj h
      exact absurd ((settle_error hs).symm.trans he) Bool.false_ne_true
    · rintro ⟨-, settings, h⟩
      cases h
  | ok settings =>
    constructor
    · exact fun h => ⟨(Except.error.inj h).symm, settings, rfl⟩
    · rintro ⟨rfl, -⟩
      rfl

end

/-! ## The word itself -/

/-- An argument asks for information by a full name. -/
inductive AsksByName : UsageError → Bytes → Prop
  | help : AsksByName (.help true) (utf8 "--help")
  | version : AsksByName .version (utf8 "--version")

/-- A letter asks for information. -/
inductive AsksByLetter : UsageError → UInt8 → Prop
  | help : AsksByLetter (.help false) 'h'.toUInt8
  | version : AsksByLetter .version 'V'.toUInt8

/-- A byte is the letter of a flag. -/
def IsFlagLetter (b : UInt8) : Prop := ∃ f, HasLetter (.flag f) b

/-- Letters of flags are read before what follows them. -/
theorem readLetters_append {body : Bytes} (hbody : ∀ b ∈ body, IsFlagLetter b) (p : Progress)
    (more : Bytes) :
    readLetters p (body ++ more) = (readLetters p body).bind fun q => readLetters q more := by
  induction body generalizing p with
  | nil => rfl
  | cons b rest ih =>
    obtain ⟨⟨f, hb⟩, hrest⟩ := List.forall_mem_cons.mp hbody
    rw [List.cons_append, readLetters_flag hb, readLetters_flag hb]
    cases meet p f with
    | error e => rfl
    | ok q => exact ih hrest q

section

variable {e : UsageError} (he : e.endsReading = true)

include he

/-- Where letters end the reading, letters of flags stand before the one that does. -/
theorem exists_letter_of_readLetters {p : Progress} {letters : Bytes}
    (h : readLetters p letters = .error e) :
    ∃ body c more q, letters = body ++ c :: more ∧ (∀ b ∈ body, IsFlagLetter b) ∧
      readLetters p body = .ok q ∧ (∀ k, Word.ofLetter? c ≠ some (.key k)) ∧
      readLetters q (c :: more) = .error e := by
  induction letters generalizing p with
  | nil => cases h
  | cons c rest ih =>
    by_cases hkey : ∃ k, Word.ofLetter? c = some (.key k)
    · obtain ⟨f | v, hk⟩ := hkey
      · have hc := ofLetter?_eq_some_iff.mp hk
        rw [readLetters_flag hc] at h
        obtain h | ⟨q, hq, h⟩ := bind_eq_error_iff.mp h
        · exact absurd ((meet_error h).symm.trans he) Bool.false_ne_true
        · obtain ⟨body, d, more, r, rfl, hbody, hr, hd, h⟩ := ih h
          refine ⟨c :: body, d, more, r, rfl, List.forall_mem_cons.mpr ⟨⟨f, hc⟩, hbody⟩, ?_, hd, h⟩
          rw [readLetters_flag hc, hq]
          exact hr
      · rw [readLetters_valued (ofLetter?_eq_some_iff.mp hk)] at h
        exact absurd ((openValued_error h).symm.trans he) Bool.false_ne_true
    · exact ⟨[], c, rest, p, rfl, List.forall_mem_nil _, rfl, not_exists.mp hkey, h⟩

/-- A letter that is none of an option asks for information or names nothing. -/
theorem readLetters_eq_error_iff {p : Progress} {c : UInt8} {more : Bytes}
    (hc : ∀ k, Word.ofLetter? c ≠ some (.key k)) :
    readLetters p (c :: more) = .error e ↔
      (AsksByLetter e c ∧ ∃ settings, settle p = .ok settings) ∨
      (Word.ofLetter? c = none ∧ e = unknownLetter (c :: more)) := by
  constructor
  · intro h
    cases hw : Word.ofLetter? c with
    | none =>
      simp only [readLetters, hw] at h
      exact .inr ⟨rfl, (Except.error.inj h).symm⟩
    | some w =>
      refine .inl ?_
      cases w with
      | key k => exact absurd hw (hc k)
      | help =>
        obtain ⟨_, ⟨⟩, hbyte⟩ := ofLetter?_eq_word_iff.mp hw
        obtain rfl : 'h'.toUInt8 = c := UInt8.toNat_inj.mp hbyte
        obtain ⟨rfl, hsettle⟩ := (inform_eq_error_iff he).mp h
        exact ⟨.help, hsettle⟩
      | version =>
        obtain ⟨_, ⟨⟩, hbyte⟩ := ofLetter?_eq_word_iff.mp hw
        obtain rfl : 'V'.toUInt8 = c := UInt8.toNat_inj.mp hbyte
        obtain ⟨rfl, hsettle⟩ := (inform_eq_error_iff he).mp h
        exact ⟨.version, hsettle⟩
  · rintro (⟨hasks, hsettle⟩ | ⟨hw, rfl⟩)
    · cases hasks <;> exact (inform_eq_error_iff he).mpr ⟨rfl, hsettle⟩
    · simp only [readLetters, hw]

/-- A full name that ends the reading asks for information, with nothing attached, or is the name of
nothing. -/
theorem readLong_eq_error_iff {p : Progress} {body : Bytes} :
    readLong p body = .error e ↔
      (AsksByName e (dash :: dash :: body) ∧ ∃ settings, settle p = .ok settings) ∨
      (Word.ofLong? (splitValue body).1 = none ∧
        e = .unknown ("--" ++ Text.lossy (splitValue body).1)) := by
  have hneedless (value : String) (w : Word) : e ≠ .needlessValue value w := by
    rintro rfl
    cases he
  constructor
  · intro h
    rcases hsplit : splitValue body with ⟨name, value⟩
    rw [readLong, hsplit] at h
    cases hw : Word.ofLong? name with
    | none =>
      simp only [hw] at h
      exact .inr ⟨rfl, (Except.error.inj h).symm⟩
    | some w =>
      refine .inl ?_
      obtain ⟨rfl, rfl⟩ | ⟨attached, rfl, -⟩ := eq_of_splitValue hsplit
      · -- Nothing is attached, so the name is all there is.
        obtain rfl := ofLong?_eq_some_iff.mp hw
        rcases w with (f | v) | _ | _ <;> simp only [hw] at h
        · exact absurd ((meet_error h).symm.trans he) Bool.false_ne_true
        · exact absurd ((openValued_error h).symm.trans he) Bool.false_ne_true
        · obtain ⟨rfl, hsettle⟩ := (inform_eq_error_iff he).mp h
          exact ⟨.help, hsettle⟩
        · obtain ⟨rfl, hsettle⟩ := (inform_eq_error_iff he).mp h
          exact ⟨.version, hsettle⟩
      · rcases w with (f | v) | _ | _ <;> simp only [hw] at h
        · exact absurd (Except.error.inj h).symm (hneedless _ _)
        · exact absurd ((openValued_error h).symm.trans he) Bool.false_ne_true
        · exact absurd (Except.error.inj h).symm (hneedless _ _)
        · exact absurd (Except.error.inj h).symm (hneedless _ _)
  · rintro (⟨hasks, hsettle⟩ | ⟨hname, rfl⟩)
    · generalize harg : dash :: dash :: body = arg at hasks
      cases hasks <;> obtain rfl := (List.cons.inj (List.cons.inj harg).2).2 <;>
        exact (inform_eq_error_iff he).mpr ⟨rfl, hsettle⟩
    · simp only [readLong, hname]

end

/-! ## Where the reading ends -/

/-- The first of these arguments ends the reading: it fails, or it is two dashes alone and something
comes after them. -/
inductive EndsAt (e : UsageError) (q : Progress) : List Bytes → Prop
  | argument {arg : Bytes} (harg : arg ≠ [dash, dash]) (h : readArgument q arg = .error e)
      (rest : List Bytes) : EndsAt e q (arg :: rest)
  | stray {word : Bytes} (h : e = .unknown (Text.lossy word)) (rest : List Bytes) :
      EndsAt e q ([dash, dash] :: word :: rest)

theorem dashes_notMem_of_readFront {front : List Bytes} {p q : Progress}
    (h : readFront p front = .ok q) : [dash, dash] ∉ front := by
  induction front generalizing p with
  | nil => exact List.not_mem_nil
  | cons arg rest ih =>
    obtain ⟨r, hr, h⟩ := bind_eq_ok_iff.mp h
    refine List.not_mem_cons_of_ne_of_not_mem ?_ (ih h)
    rintro rfl
    cases hr

/-- What ends the reading does so right after the arguments that can be read. -/
theorem readArguments_eq_error_iff {e : UsageError} (he : e.endsReading = true) {p : Progress}
    {args : List Bytes} :
    readArguments p args = .error e ↔
      ∃ front back q, args = front ++ back ∧ readFront p front = .ok q ∧ EndsAt e q back := by
  constructor
  · intro h
    induction args generalizing p with
    | nil => exact absurd ((settle_error h).symm.trans he) Bool.false_ne_true
    | cons arg rest ih =>
      by_cases harg : arg = [dash, dash]
      · subst harg
        cases rest with
        | nil => exact absurd ((settle_error h).symm.trans he) Bool.false_ne_true
        | cons word rest => exact ⟨[], _, p, rfl, rfl, .stray (Except.error.inj h).symm rest⟩
      · rw [readArguments_cons harg] at h
        obtain h | ⟨q, hq, h⟩ := bind_eq_error_iff.mp h
        · exact ⟨[], _, p, rfl, rfl, .argument harg h rest⟩
        · obtain ⟨front, back, r, rfl, hr, hend⟩ := ih h
          exact ⟨arg :: front, back, r, rfl, bind_eq_ok_iff.mpr ⟨q, hq, hr⟩, hend⟩
  · rintro ⟨front, back, q, rfl, hq, hend⟩
    rw [readArguments_append (dashes_notMem_of_readFront hq), hq]
    show readArguments q back = .error e
    cases hend with
    | argument harg h rest => rw [readArguments_cons harg, h]; rfl
    | stray h rest => rw [h]; rfl

theorem parse_eq_error_iff {e : UsageError} (he : e.endsReading = true) {args : List Bytes} :
    parse args = .error e ↔ readArguments ⟨[], none⟩ args = .error e := by
  unfold parse
  cases readArguments ⟨[], none⟩ args with
  | error e' => simp only [Except.error.injEq]
  | ok settings =>
    refine iff_of_false (fun h => ?_) (fun h => nomatch h)
    simp only at h
    split at h
    · obtain rfl := Except.error.inj h
      cases he
    · cases h

/-- Arguments with letters of flags that stand first in one more argument, and count as an argument
of their own. -/
def withFlags (front : List Bytes) (body : Bytes) : List Bytes :=
  if body = [] then front else front ++ [dash :: body]

theorem readFront_withFlags_eq_ok_iff {front : List Bytes} {body : Bytes}
    (hbody : ∀ b ∈ body, IsFlagLetter b) {p r : Progress} :
    readFront p (withFlags front body) = .ok r ↔
      ∃ q, readFront p front = .ok q ∧ readLetters q body = .ok r := by
  cases body with
  | nil =>
    constructor
    · exact fun h => ⟨r, h, rfl⟩
    · rintro ⟨q, hq, hr⟩
      exact Except.ok.inj hr ▸ hq
  | cons b rest =>
    obtain ⟨⟨f, hb⟩, -⟩ := List.forall_mem_cons.mp hbody
    rw [withFlags, if_neg (List.cons_ne_nil b rest), readFront_concat_eq_ok_iff]
    simp only [readArgument_letters _ hb.ne_dash]

/-- Letters of flags are read before the letter after them. -/
theorem readArgument_flagLetters {body : Bytes} (hbody : ∀ b ∈ body, IsFlagLetter b) {c : UInt8}
    (hc : body = [] → c ≠ dash) (q : Progress) (more : Bytes) :
    readArgument q (dash :: (body ++ c :: more)) =
      (readLetters q body).bind fun r => readLetters r (c :: more) := by
  rw [← readLetters_append hbody]
  cases body with
  | nil => exact readArgument_letters q (hc rfl) more
  | cons b rest =>
    obtain ⟨⟨f, hb⟩, -⟩ := List.forall_mem_cons.mp hbody
    exact readArgument_letters q hb.ne_dash _

/-- Arguments that can be carried out by themselves are option groups. -/
theorem exists_groups_iff {args : List Bytes} {all : List Setting} :
    (∃ q, readFront ⟨[], none⟩ args = .ok q ∧ settle q = .ok all) ↔
      ∃ items, Groups items args ∧ addItems [] items = .ok all := by
  have hread (hdashes : [dash, dash] ∉ args) :
      readArguments ⟨[], none⟩ args = (readFront ⟨[], none⟩ args).bind settle := by
    have hsplit := readArguments_append hdashes ⟨[], none⟩ []
    rwa [List.append_nil] at hsplit
  constructor
  · rintro ⟨q, hq, hall⟩
    have hdashes := dashes_notMem_of_readFront hq
    have hargs := (hread hdashes).trans (bind_eq_ok_iff.mpr ⟨q, hq, hall⟩)
    obtain ⟨items, hitems, hadd⟩ := (readArguments_eq_ok_iff hdashes).mp hargs
    exact ⟨items, onward_none_iff.mp hitems, hadd⟩
  · rintro ⟨items, hgroups, hadd⟩
    have hdashes := hgroups.dashes_notMem
    have hargs : readArguments ⟨[], none⟩ args = .ok all :=
      (readArguments_eq_ok_iff hdashes).mpr ⟨items, onward_none_iff.mpr hgroups, hadd⟩
    exact bind_eq_ok_iff.mp ((hread hdashes).symm.trans hargs)

theorem readValue_eq_error_iff {p : Progress} {word : Bytes} {e : UsageError} :
    readValue p word = .error e ↔
      e = .unknown (Text.lossy word) ∧ ∀ v, p.pending ≠ some (v, none) := by
  obtain ⟨settings, pending⟩ := p
  match pending with
  | none => simp [readValue, eq_comm]
  | some (v, some value) => simp [readValue, eq_comm]
  | some (v, none) => simp [readValue]

/-- Every argument that ends the reading is a word that can stand alone and is no value, a full name
or letters. -/
theorem readArgument_error_cases {e : UsageError} (he : e.endsReading = true) {q : Progress}
    {arg : Bytes} (h : readArgument q arg = .error e) :
    (Separable arg ∧ e = .unknown (Text.lossy arg) ∧ ∀ v, q.pending ≠ some (v, none)) ∨
    (∃ body, arg = dash :: dash :: body ∧ readLong q body = .error e) ∨
    ∃ body c more r, arg = dash :: (body ++ c :: more) ∧ (body = [] → c ≠ dash) ∧
      (∀ b ∈ body, IsFlagLetter b) ∧ readLetters q body = .ok r ∧
      (∀ k, Word.ofLetter? c ≠ some (.key k)) ∧ readLetters r (c :: more) = .error e := by
  by_cases hword : Separable arg
  · rw [readArgument_separable hword] at h
    exact .inl ⟨hword, readValue_eq_error_iff.mp h⟩
  · obtain ⟨b, rest, rfl⟩ := eq_of_not_separable hword
    by_cases hb : b = dash
    · subst hb
      exact .inr (.inl ⟨rest, rfl, h⟩)
    · rw [readArgument_letters q hb] at h
      obtain ⟨body, c, more, r, hletters, hbody, hr, hc, h⟩ := exists_letter_of_readLetters he h
      refine .inr (.inr ⟨body, c, more, r, by rw [hletters], ?_, hbody, hr, hc, h⟩)
      rintro rfl
      exact (List.cons.inj hletters).1 ▸ hb

/-- What letters give that end the reading, they give after what is before them. -/
theorem endsAt_letters {e : UsageError} {front : List Bytes} {body more : Bytes} {c : UInt8}
    {r : Progress} (hbody : ∀ b ∈ body, IsFlagLetter b) (hc : body = [] → c ≠ dash)
    (hr : readFront ⟨[], none⟩ (withFlags front body) = .ok r)
    (h : readLetters r (c :: more) = .error e) (rest : List Bytes) :
    ∃ q, readFront ⟨[], none⟩ front = .ok q ∧
      EndsAt e q ((dash :: (body ++ c :: more)) :: rest) := by
  obtain ⟨q, hq, hr⟩ := (readFront_withFlags_eq_ok_iff hbody).mp hr
  refine ⟨q, hq, .argument ?_ ?_ rest⟩
  · intro hdashes
    obtain ⟨hnil, hdash⟩ | ⟨-, hnil⟩ := List.append_eq_singleton_iff.mp (List.cons.inj hdashes).2
    · exact hc hnil (List.cons.inj hdash).1
    · cases hnil
  · rw [readArgument_flagLetters hbody hc, hr]
    exact h

end Testbed.CommandLine
