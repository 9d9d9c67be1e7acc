import Testbed.Proofs.CommandLine.Stopping
import Testbed.Proofs.Text.Substitution

/-!
# Command lines that are answered at once

A command line that comes to a word asking for information is answered with it, and one that comes
to a word that is not understood is answered with that word. A word of the first kind counts only if
all before it can be carried out; one of the second kind is reported even before the value in front
of it is looked at.

* `Asks` says that arguments come to a word that asks for information, and `Strange` that they come
  to one that is not understood.
* `ShownLetter` says how a letter that names nothing is shown.
* `parse_eq_information_iff` and `parse_eq_unknown_iff`: just these command lines are answered so.
-/

namespace Testbed.CommandLine

/-! ## Asking for information -/

/-- Arguments come to a word that asks for information, after option groups that set items. -/
inductive Asks (items : List Item) (e : UsageError) : List Bytes → Prop
  /-- It is an argument of its own. -/
  | name {front : List Bytes} {arg : Bytes} (h : Groups items front) (harg : AsksByName e arg)
      (rest : List Bytes) : Asks items e (front ++ arg :: rest)
  /-- It is a letter, the first one or after letters of flags, and nothing after it matters. -/
  | letter {front : List Bytes} {body : Bytes} {c : UInt8} (h : Groups items (withFlags front body))
      (hbody : ∀ b ∈ body, IsFlagLetter b) (hc : AsksByLetter e c) (more : Bytes)
      (rest : List Bytes) : Asks items e (front ++ (dash :: (body ++ c :: more)) :: rest)

theorem Asks.isInformation {items : List Item} {e : UsageError} {args : List Bytes}
    (h : Asks items e args) : e.isInformation = true := by
  cases h with
  | name _ harg _ => cases harg <;> rfl
  | letter _ _ hc _ _ => cases hc <;> rfl

theorem endsReading_of_isInformation {e : UsageError} (he : e.isInformation = true) :
    e.endsReading = true := by
  cases e <;> first | rfl | cases he

/-- What ends the reading to give information is a word that asks for it. -/
theorem exists_asks_of_endsAt {e : UsageError} (he : e.isInformation = true)
    {front back : List Bytes} {q : Progress} (hq : readFront ⟨[], none⟩ front = .ok q)
    (hend : EndsAt e q back) :
    ∃ items settings, Asks items e (front ++ back) ∧ addItems [] items = .ok settings := by
  have hends := endsReading_of_isInformation he
  have hne (shown : String) : e ≠ .unknown shown := by
    rintro rfl
    cases he
  cases hend with
  | stray h rest => exact absurd h (hne _)
  | argument harg h rest =>
    obtain ⟨-, hunknown, -⟩ | ⟨body, rfl, h⟩ | ⟨body, c, more, r, rfl, -, hbody, hr, hc, h⟩ :=
      readArgument_error_cases hends h
    · exact absurd hunknown (hne _)
    · obtain ⟨hasks, settings, hsettle⟩ | ⟨-, hunknown⟩ := (readLong_eq_error_iff hends).mp h
      · obtain ⟨items, hgroups, hadd⟩ := exists_groups_iff.mp ⟨q, hq, hsettle⟩
        exact ⟨items, settings, .name hgroups hasks rest, hadd⟩
      · exact absurd hunknown (hne _)
    · have hflags := (readFront_withFlags_eq_ok_iff hbody).mpr ⟨q, hq, hr⟩
      obtain ⟨hasks, settings, hsettle⟩ | ⟨-, hunknown⟩ := (readLetters_eq_error_iff hends hc).mp h
      · obtain ⟨items, hgroups, hadd⟩ := exists_groups_iff.mp ⟨r, hflags, hsettle⟩
        exact ⟨items, settings, .letter hgroups hbody hasks more rest, hadd⟩
      · exact absurd hunknown (hne _)

/-- A word that asks for information ends the reading. -/
theorem Asks.exists_endsAt {items : List Item} {e : UsageError} {args : List Bytes}
    (h : Asks items e args) {settings : List Setting} (hadd : addItems [] items = .ok settings) :
    ∃ front back q, args = front ++ back ∧ readFront ⟨[], none⟩ front = .ok q ∧
      EndsAt e q back := by
  cases h with
  | @name front arg hgroups harg rest =>
    obtain ⟨q, hq, hsettle⟩ := exists_groups_iff.mpr ⟨items, hgroups, hadd⟩
    refine ⟨front, _, q, rfl, hq, .argument ?_ ?_ rest⟩
    · cases harg <;> decide
    · cases harg
      · exact (inform_eq_error_iff rfl).mpr ⟨rfl, settings, hsettle⟩
      · exact (inform_eq_error_iff rfl).mpr ⟨rfl, settings, hsettle⟩
  | @letter front body c hgroups hbody hc more rest =>
    obtain ⟨r, hr, hsettle⟩ := exists_groups_iff.mpr ⟨items, hgroups, hadd⟩
    have hdash : c ≠ dash := by cases hc <;> decide
    have hletter : readLetters r (c :: more) = .error e := by
      cases hc
      · exact (inform_eq_error_iff rfl).mpr ⟨rfl, settings, hsettle⟩
      · exact (inform_eq_error_iff rfl).mpr ⟨rfl, settings, hsettle⟩
    obtain ⟨q, hq, hend⟩ := endsAt_letters hbody (fun _ => hdash) hr hletter rest
    exact ⟨front, _, q, rfl, hq, hend⟩

/-- **Which command lines are answered with information.** They come to a word that asks for it,
after option groups in which every value is admissible and no option is set twice. What comes after
the word makes no difference, nor that options before it exclude each other. -/
theorem parse_eq_information_iff {e : UsageError} (he : e.isInformation = true)
    {args : List Bytes} :
    parse args = .error e ↔
      ∃ items settings, Asks items e args ∧ List.Forall₂ Reads items settings ∧
        (items.map Item.key).Nodup := by
  have hends := endsReading_of_isInformation he
  simp only [← addItems_nil_eq_ok_iff]
  rw [parse_eq_error_iff hends, readArguments_eq_error_iff hends]
  constructor
  · rintro ⟨front, back, q, rfl, hq, hend⟩
    exact exists_asks_of_endsAt he hq hend
  · rintro ⟨items, settings, hasks, hadd⟩
    exact hasks.exists_endsAt hadd

/-! ## A letter that names nothing -/

/-- How the front of some bytes is shown as a letter: as the character there, or as all of the bytes
if no character is spelled there. -/
inductive ShownLetter : Bytes → String → Prop
  | char (c : Char) (rest : Bytes) :
      ShownLetter (String.utf8EncodeChar c ++ rest) (String.singleton c)
  | broken {bytes : Bytes} (h : ∀ c, ¬ String.utf8EncodeChar c <+: bytes) :
      ShownLetter bytes (Text.lossy bytes)

/-- Some bytes that are read as text begin with a character. -/
theorem exists_char_of_decode? {bytes : Bytes} {n : Nat} {s : String} (hne : bytes ≠ [])
    (h : Text.decode? (bytes.take (n + 1)) = some s) :
    ∃ c, String.utf8EncodeChar c <+: bytes.take (n + 1) := by
  have hspell := Text.decode?_eq_some_iff.mp h
  cases hs : s.toList with
  | nil =>
    rw [utf8, hs, List.flatMap_nil, List.take_eq_nil_iff] at hspell
    exact absurd (hspell.resolve_left (Nat.succ_ne_zero n)) hne
  | cons c cs =>
    rw [utf8, hs, List.flatMap_cons] at hspell
    exact ⟨c, hspell ▸ List.prefix_append _ _⟩

/-- The first number for which something is found, if it is small enough. -/
theorem findSome?_range_eq {β : Type} {f : Nat → Option β} {k m : Nat} {b : β} (hk : k < m)
    (hb : f k = some b) (hnone : ∀ n < k, f n = none) : (List.range m).findSome? f = some b := by
  obtain ⟨before, after, hrange⟩ := List.append_of_mem (List.mem_range.mpr hk)
  have hlt : ∀ n ∈ before, n < k := fun n hn =>
    (List.pairwise_append.mp (hrange ▸ List.pairwise_lt_range)).2.2 n hn k List.mem_cons_self
  exact List.findSome?_eq_some_iff.mpr
    ⟨before, k, after, hrange, hb, fun n hn => hnone n (hlt n hn)⟩

theorem unknownLetter_char (c : Char) (rest : Bytes) :
    unknownLetter (String.utf8EncodeChar c ++ rest) = .unknown ("-" ++ String.singleton c) := by
  let bytes := String.utf8EncodeChar c ++ rest
  have hlength := String.length_utf8EncodeChar c
  have hpos := c.utf8Size_pos
  have hle := c.utf8Size_le_four
  have hne : bytes ≠ [] := List.append_ne_nil_of_left_ne_nil (Text.encodeChar_ne_nil c) rest
  have hwhole : Text.decode? (bytes.take (c.utf8Size - 1 + 1)) = some (String.singleton c) := by
    rw [Nat.sub_add_cancel hpos, ← hlength, List.take_left, Text.decode?_eq_some_iff, utf8,
      String.toList_singleton, List.flatMap_singleton]
  -- Fewer bytes than the character has spell nothing, as no other character begins there.
  have hfewer : ∀ n < c.utf8Size - 1, Text.decode? (bytes.take (n + 1)) = none := by
    intro n hn
    refine Option.eq_none_iff_forall_not_mem.mpr fun s hs => ?_
    obtain ⟨d, hd⟩ := exists_char_of_decode? hne hs
    obtain rfl := Text.eq_of_encodeChar_prefix (List.prefix_append _ rest)
      (hd.trans (List.take_prefix _ bytes))
    have hshort := hd.length_le
    rw [List.length_take] at hshort
    omega
  have hfound := findSome?_range_eq (m := 4) (by omega) hwhole hfewer
  rw [unknownLetter, hfound]

theorem unknownLetter_broken {bytes : Bytes} (hne : bytes ≠ [])
    (h : ∀ c, ¬ String.utf8EncodeChar c <+: bytes) :
    unknownLetter bytes = .unknown ("-" ++ Text.lossy bytes) := by
  have hnone : (List.range 4).findSome? (fun n => Text.decode? (bytes.take (n + 1))) = none := by
    refine List.findSome?_eq_none_iff.mpr fun n _ => ?_
    refine Option.eq_none_iff_forall_not_mem.mpr fun s hs => ?_
    obtain ⟨c, hc⟩ := exists_char_of_decode? hne hs
    exact h c (hc.trans (List.take_prefix _ bytes))
  rw [unknownLetter, hnone]

/-- What is shown of letters that name nothing. -/
theorem unknownLetter_eq_iff {bytes : Bytes} (hne : bytes ≠ []) {shown : String} :
    unknownLetter bytes = .unknown shown ↔ ∃ letter, shown = "-" ++ letter ∧
      ShownLetter bytes letter := by
  constructor
  · intro h
    by_cases hchar : ∃ c, String.utf8EncodeChar c <+: bytes
    · obtain ⟨c, rest, rfl⟩ := hchar
      rw [unknownLetter_char] at h
      exact ⟨String.singleton c, (UsageError.unknown.inj h).symm, .char c rest⟩
    · have hnone := not_exists.mp hchar
      rw [unknownLetter_broken hne hnone] at h
      exact ⟨Text.lossy bytes, (UsageError.unknown.inj h).symm, .broken hnone⟩
  · rintro ⟨letter, rfl, hletter⟩
    cases hletter with
    | char c rest => exact unknownLetter_char c rest
    | broken h => exact unknownLetter_broken hne h

/-! ## Words that are not understood -/

/-- The argument of a full name, with the value attached to it if there is one. -/
def named (name : Bytes) : Option Bytes → Bytes
  | none => dash :: dash :: name
  | some value => dash :: dash :: (name ++ equals :: value)

/-- Arguments come to a word that is not understood, when they have set items. What is shown of the
word is told. -/
inductive Strange (items : List Item) : String → List Bytes → Prop
  /-- It could be a value, but none is wanted. -/
  | word {pending : Option (Valued × Option Bytes)} {front : List Bytes} {word : Bytes}
      (h : Begun items pending front) (hclosed : ∀ v, pending ≠ some (v, none))
      (hword : Separable word) (rest : List Bytes) :
      Strange items (Text.lossy word) (front ++ word :: rest)
  /-- It is the full name of nothing. -/
  | name {pending : Option (Valued × Option Bytes)} {front : List Bytes} {name : Bytes}
      {attached : Option Bytes} (h : Begun items pending front) (hequals : equals ∉ name)
      (hname : ∀ w : Word, name ≠ utf8 w.long) (hne : named name attached ≠ [dash, dash])
      (rest : List Bytes) :
      Strange items ("--" ++ Text.lossy name) (front ++ named name attached :: rest)
  /-- It is the letter of nothing, the first one or after letters of flags. -/
  | letter {pending : Option (Valued × Option Bytes)} {front : List Bytes} {body more : Bytes}
      {c : UInt8} {letter : String} (h : Begun items pending (withFlags front body))
      (hbody : ∀ b ∈ body, IsFlagLetter b)
      (hc : ∀ (w : Word) l, w.letter? = some l → l.toNat ≠ c.toNat)
      (hdash : body = [] → c ≠ dash) (hshown : ShownLetter (c :: more) letter)
      (rest : List Bytes) :
      Strange items ("-" ++ letter) (front ++ (dash :: (body ++ c :: more)) :: rest)
  /-- It comes after two dashes alone. -/
  | stray {pending : Option (Valued × Option Bytes)} {front : List Bytes}
      (h : Begun items pending front) (word : Bytes) (rest : List Bytes) :
      Strange items (Text.lossy word) (front ++ [dash, dash] :: word :: rest)

theorem ofLong?_eq_none_iff {name : Bytes} :
    Word.ofLong? name = none ↔ ∀ w : Word, name ≠ utf8 w.long := by
  simp only [Option.eq_none_iff_forall_ne_some, ne_eq, ofLong?_eq_some_iff]

theorem ofLetter?_eq_none_iff {c : UInt8} :
    Word.ofLetter? c = none ↔ ∀ (w : Word) l, w.letter? = some l → l.toNat ≠ c.toNat := by
  simp only [Option.eq_none_iff_forall_ne_some, ne_eq, ofLetter?_eq_word_iff, not_exists, not_and]

/-- What stands after two dashes is a full name and what is attached to it. -/
theorem exists_named (body : Bytes) :
    equals ∉ (splitValue body).1 ∧
      ∃ attached, dash :: dash :: body = named (splitValue body).1 attached := by
  constructor
  · intro h
    have hkept := List.all_eq_true.mp List.all_takeWhile equals h
    cases hkept
  · rcases hsplit : splitValue body with ⟨name, attached⟩
    obtain ⟨-, rfl⟩ | ⟨value, -, rfl⟩ := eq_of_splitValue hsplit
    · exact ⟨none, rfl⟩
    · exact ⟨some value, rfl⟩

theorem readArgument_named {name : Bytes} (hequals : equals ∉ name)
    (hname : ∀ w : Word, name ≠ utf8 w.long) (attached : Option Bytes) (q : Progress) :
    readArgument q (named name attached) = .error (.unknown ("--" ++ Text.lossy name)) := by
  have hw := ofLong?_eq_none_iff.mpr hname
  cases attached with
  | none =>
    show readLong q name = _
    simp only [readLong, splitValue_name hequals, hw]
  | some value =>
    show readLong q (name ++ equals :: value) = _
    simp only [readLong, splitValue_attached hequals, hw]

/-- What is not understood where the reading ends is a word after what has been set. -/
theorem exists_strange_of_endsAt {shown : String} {front back : List Bytes} {q : Progress}
    (hq : readFront ⟨[], none⟩ front = .ok q) (hend : EndsAt (.unknown shown) q back) :
    ∃ items settings, Strange items shown (front ++ back) ∧ addItems [] items = .ok settings := by
  obtain ⟨items, hbegun, hadd⟩ := readFront_eq_ok_iff.mp hq
  cases hend with
  | @stray word h rest =>
    obtain rfl := UsageError.unknown.inj h
    exact ⟨items, _, .stray hbegun word rest, hadd⟩
  | argument harg h rest =>
    obtain ⟨hword, hunknown, hclosed⟩ | ⟨body, rfl, h⟩ |
      ⟨body, c, more, r, rfl, hdash, hbody, hr, hc, h⟩ := readArgument_error_cases rfl h
    · obtain rfl := UsageError.unknown.inj hunknown
      exact ⟨items, _, .word hbegun hclosed hword rest, hadd⟩
    · obtain ⟨hasks, -⟩ | ⟨hname, hunknown⟩ := (readLong_eq_error_iff rfl).mp h
      · cases hasks
      · obtain rfl := UsageError.unknown.inj hunknown
        obtain ⟨hequals, attached, hnamed⟩ := exists_named body
        rw [hnamed] at harg ⊢
        exact ⟨items, _, .name hbegun hequals (ofLong?_eq_none_iff.mp hname) harg rest, hadd⟩
    · obtain ⟨hasks, -⟩ | ⟨hw, hunknown⟩ := (readLetters_eq_error_iff rfl hc).mp h
      · cases hasks
      · obtain ⟨letter, rfl, hshown⟩ :=
          (unknownLetter_eq_iff (List.cons_ne_nil c more)).mp hunknown.symm
        have hflags := (readFront_withFlags_eq_ok_iff hbody).mpr ⟨q, hq, hr⟩
        obtain ⟨items, hbegun, hadd⟩ := readFront_eq_ok_iff.mp hflags
        exact ⟨items, _,
          .letter hbegun hbody (ofLetter?_eq_none_iff.mp hw) hdash hshown rest, hadd⟩

/-- A word that is not understood ends the reading. -/
theorem Strange.exists_endsAt {items : List Item} {shown : String} {args : List Bytes}
    (h : Strange items shown args) {settings : List Setting}
    (hadd : addItems [] items = .ok settings) :
    ∃ front back q, args = front ++ back ∧ readFront ⟨[], none⟩ front = .ok q ∧
      EndsAt (.unknown shown) q back := by
  have hread {pending : Option (Valued × Option Bytes)} {front : List Bytes}
      (hbegun : Begun items pending front) :
      readFront ⟨[], none⟩ front = .ok ⟨settings, pending⟩ :=
    readFront_eq_ok_iff.mpr ⟨items, hbegun, hadd⟩
  cases h with
  | @word pending front word hbegun hclosed hword rest =>
    refine ⟨front, _, _, rfl, hread hbegun, .argument ?_ ?_ rest⟩
    · rintro rfl
      exact CommandLine.not_separable dash [] hword
    · rw [readArgument_separable hword]
      exact readValue_eq_error_iff.mpr ⟨rfl, hclosed⟩
  | @name pending front name attached hbegun hequals hname hne rest =>
    exact ⟨front, _, _, rfl, hread hbegun,
      .argument hne (readArgument_named hequals hname attached _) rest⟩
  | @letter pending front body more c letter hbegun hbody hc hdash hshown rest =>
    have hw := ofLetter?_eq_none_iff.mpr hc
    have hletter : readLetters ⟨settings, pending⟩ (c :: more) =
        .error (.unknown ("-" ++ letter)) := by
      rw [← (unknownLetter_eq_iff (List.cons_ne_nil c more)).mpr ⟨letter, rfl, hshown⟩]
      simp only [readLetters, hw]
    obtain ⟨q, hq, hend⟩ := endsAt_letters hbody hdash (hread hbegun) hletter rest
    exact ⟨front, _, q, rfl, hq, hend⟩
  | @stray pending front hbegun word rest =>
    exact ⟨front, _, _, rfl, hread hbegun, .stray rfl rest⟩

/-- **Which command lines are not understood.** They come to a word that means nothing where it
stands, and what they have set up to there has admissible values, with no option set twice. A value
that is not attached to its option does not count before something follows it that is understood. -/
theorem parse_eq_unknown_iff {shown : String} {args : List Bytes} :
    parse args = .error (.unknown shown) ↔
      ∃ items settings, Strange items shown args ∧ List.Forall₂ Reads items settings ∧
        (items.map Item.key).Nodup := by
  simp only [← addItems_nil_eq_ok_iff]
  rw [parse_eq_error_iff rfl, readArguments_eq_error_iff rfl]
  constructor
  · rintro ⟨front, back, q, rfl, hq, hend⟩
    exact exists_strange_of_endsAt hq hend
  · rintro ⟨items, settings, hstrange, hadd⟩
    exact hstrange.exists_endsAt hadd

/-- The value in front of the letter is no worker count, but it has not been looked at. -/
example : parse [utf8 "-j", utf8 "many", utf8 "-é"] = .error (.unknown "-é") := by decide

end Testbed.CommandLine
