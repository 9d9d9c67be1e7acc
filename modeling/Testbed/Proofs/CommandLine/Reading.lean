import Testbed.Proofs.CommandLine.Grammar

/-!
# Reading by the grammar

The reader goes through the arguments from left to right and keeps an option open until it is
settled. What it accepts is what the grammar spells, as far as the items can be added.

* `addItems` adds items to settings, one after the other.
* `readArgument_opening` and `opening_of_readArgument`: an argument that cannot stand alone as a
  value is accepted only if it is an opening, which is then read as what it sets.
* `readArguments_eq_ok_iff`: from any state, the reader accepts exactly the arguments that go on
  from there by the grammar, if their items can be added.
-/

namespace Testbed.CommandLine

/-! ## Adding items -/

/-- Two steps succeed together if both of them do. -/
theorem bind_eq_ok_iff {ε α β : Type} {first : Except ε α} {next : α → Except ε β} {b : β} :
    first.bind next = .ok b ↔ ∃ a, first = .ok a ∧ next a = .ok b := by
  cases first with
  | error e => exact ⟨fun h => (nomatch h), fun ⟨_, h, _⟩ => (nomatch h)⟩
  | ok a =>
    constructor
    · exact fun h => ⟨a, rfl, h⟩
    · rintro ⟨a', ha, h⟩
      obtain rfl := Except.ok.inj ha
      exact h

/-- The setting of an item, if its value is admissible. -/
def Item.check : Item → Except UsageError Setting
  | .flag f => .ok (.flag f)
  | .value v bytes => checkValue v bytes

/-- Adds items to settings, one after the other. -/
def addItems : List Setting → List Item → Except UsageError (List Setting)
  | settings, [] => .ok settings
  | settings, item :: rest =>
    (add settings item.key item.check).bind fun more => addItems more rest

theorem addItems_singleton (settings : List Setting) (item : Item) :
    addItems settings [item] = add settings item.key item.check := by
  rw [addItems]
  cases add settings item.key item.check <;> rfl

theorem addItems_append (settings : List Setting) (front back : List Item) :
    addItems settings (front ++ back) =
      (addItems settings front).bind fun more => addItems more back := by
  induction front generalizing settings with
  | nil => rfl
  | cons item rest ih =>
    rw [List.cons_append, addItems, addItems]
    cases add settings item.key item.check with
    | error e => rfl
    | ok more => exact ih more

/-! ## Reading an opening -/

/-- The state in which an option is left open, or none. -/
def leaving (settings : List Setting) (left : Option Valued) : Progress :=
  ⟨settings, left.map fun v => (v, none)⟩

/-- What an opening does in any state: it settles what is open, adds its items and leaves its last
option open if that has no value. -/
def openingStep (p : Progress) (items : List Item) (left : Option Valued) :
    Except UsageError Progress :=
  (settle p).bind fun settings => (addItems settings items).bind fun more => .ok (leaving more left)

theorem meet_eq (p : Progress) (f : Flag) : meet p f = openingStep p [.flag f] none := by
  unfold meet openingStep
  cases settle p with
  | error e => rfl
  | ok settings =>
    simp only [Except.bind, addItems_singleton, Item.key, Item.check]
    cases add settings (.flag f) (.ok (.flag f)) <;> rfl

theorem openValued_some (p : Progress) (v : Valued) (value : Bytes) :
    openValued p v (some value) = openingStep p [.value v value] none := by
  unfold openValued openingStep
  cases settle p with
  | error e => rfl
  | ok settings =>
    simp only [Except.bind, addItems_singleton, Item.key, Item.check]
    cases add settings (.valued v) (checkValue v value) <;> rfl

theorem openValued_none (p : Progress) (v : Valued) :
    openValued p v none = openingStep p [] (some v) := by
  unfold openValued openingStep
  cases settle p <;> rfl

/-- Asking for information ends the reading, whatever is open. -/
theorem inform_ne_ok (p : Progress) (information : UsageError) (q : Progress) :
    inform p information ≠ .ok q := by
  unfold inform
  cases settle p <;> exact fun h => nomatch h

/-! ## Reading letters -/

theorem readLetters_flag {f : Flag} {b : UInt8} (hb : HasLetter (.flag f) b) (p : Progress)
    (rest : Bytes) :
    readLetters p (b :: rest) = (meet p f).bind fun p => readLetters p rest := by
  simp only [readLetters, ofLetter?_eq_some_iff.mpr hb]
  cases meet p f <;> rfl

/-- What is attached to the letter of a valued option: all after the letter is the value, but for
an equals sign before it. -/
def attachedValue : Bytes → Option Bytes
  | [] => none
  | c :: value => if c = equals then some value else some (c :: value)

theorem attachedValue_of_head {value : Bytes} (hne : value ≠ []) (heq : value.head? ≠ some equals) :
    attachedValue value = some value := by
  cases value with
  | nil => exact absurd rfl hne
  | cons c value =>
    have hc : c ≠ equals := fun hc => heq (congrArg some hc)
    exact if_neg hc

theorem readLetters_valued {v : Valued} {b : UInt8} (hb : HasLetter (.valued v) b) (p : Progress)
    (rest : Bytes) : readLetters p (b :: rest) = openValued p v (attachedValue rest) := by
  simp only [readLetters, ofLetter?_eq_some_iff.mpr hb]
  cases rest <;> rfl

/-- Letters of the grammar are read as what they set. -/
theorem readLetters_letters {items : List Item} {left : Option Valued} {body : Bytes}
    (h : Letters items left body) (p : Progress) :
    readLetters p body = openingStep p items left := by
  induction h generalizing p with
  | @last f b hb =>
    rw [readLetters_flag hb, meet_eq]
    cases openingStep p [.flag f] none <;> rfl
  | @more f b items left body hb _ ih =>
    rw [readLetters_flag hb, meet_eq]
    unfold openingStep
    cases settle p with
    | error e => rfl
    | ok settings =>
      show ((addItems settings [.flag f]).bind _).bind _ =
        (addItems settings ([.flag f] ++ items)).bind _
      rw [addItems_append]
      cases addItems settings [.flag f] with
      | error e => rfl
      | ok more => exact ih (leaving more none)
  | @equals v b value hb =>
    rw [readLetters_valued hb, ← openValued_some]
    rfl
  | @attached v b value hb hne heq =>
    rw [readLetters_valued hb, attachedValue_of_head hne heq, openValued_some]
  | @without v b hb =>
    rw [readLetters_valued hb, ← openValued_none]
    rfl

/-- Only letters of the grammar are read. -/
theorem letters_of_readLetters {p q : Progress} {body : Bytes} (hne : body ≠ [])
    (h : readLetters p body = .ok q) : ∃ items left, Letters items left body := by
  induction body generalizing p with
  | nil => exact absurd rfl hne
  | cons b rest ih =>
    cases hw : Word.ofLetter? b with
    | none =>
      simp only [readLetters, hw] at h
      exact nomatch h
    | some w =>
      cases w with
      | help =>
        simp only [readLetters, hw] at h
        exact absurd h (inform_ne_ok p (.help false) q)
      | version =>
        simp only [readLetters, hw] at h
        exact absurd h (inform_ne_ok p .version q)
      | key k =>
        have hb := ofLetter?_eq_some_iff.mp hw
        cases k with
        | flag f =>
          by_cases hrest : rest = []
          · subst hrest
            exact ⟨_, _, .last hb⟩
          · rw [readLetters_flag hb, bind_eq_ok_iff] at h
            obtain ⟨p', -, h⟩ := h
            obtain ⟨items, left, hitems⟩ := ih hrest h
            exact ⟨_, _, .more hb hitems⟩
        | valued v =>
          cases rest with
          | nil => exact ⟨_, _, .without hb⟩
          | cons c value =>
            by_cases hc : c = equals
            · subst hc
              exact ⟨_, _, .equals hb⟩
            · exact ⟨_, _, .attached hb (List.cons_ne_nil c value)
                fun h => hc (Option.some.inj h)⟩

/-! ## Reading one argument -/

theorem splitValue_name {name : Bytes} (h : equals ∉ name) : splitValue name = (name, none) := by
  have hall : ∀ b ∈ name, (b != equals) = true := fun b hb => bne_iff_ne.mpr fun e => h (e ▸ hb)
  have htake : (name ++ []).takeWhile (· != equals) = name ++ [] :=
    List.takeWhile_append_of_pos hall
  have hdrop : (name ++ []).dropWhile (· != equals) = [] := List.dropWhile_append_of_pos hall
  rw [List.append_nil] at htake hdrop
  rw [splitValue, htake, hdrop]

theorem splitValue_attached {name : Bytes} (h : equals ∉ name) (value : Bytes) :
    splitValue (name ++ equals :: value) = (name, some value) := by
  have hall : ∀ b ∈ name, (b != equals) = true := fun b hb => bne_iff_ne.mpr fun e => h (e ▸ hb)
  have htake : (name ++ equals :: value).takeWhile (· != equals) = name ++ [] :=
    List.takeWhile_append_of_pos hall
  have hdrop : (name ++ equals :: value).dropWhile (· != equals) = equals :: value :=
    List.dropWhile_append_of_pos hall
  rw [splitValue, htake, hdrop, List.append_nil]

/-- The body of a long option is its name, with an equals sign and the value if it has one. -/
theorem eq_of_splitValue {body name : Bytes} {value : Option Bytes}
    (h : splitValue body = (name, value)) :
    (value = none ∧ body = name) ∨ ∃ v, value = some v ∧ body = name ++ equals :: v := by
  have hbody := List.takeWhile_append_dropWhile (p := (· != equals)) (l := body)
  have hhead := List.head?_dropWhile_not (· != equals) body
  obtain ⟨rfl, hvalue⟩ := Prod.mk.inj h
  cases hdrop : body.dropWhile (· != equals) with
  | nil =>
    rw [hdrop] at hvalue hbody
    refine .inl ⟨hvalue.symm, ?_⟩
    rw [List.append_nil] at hbody
    exact hbody.symm
  | cons b v =>
    rw [hdrop] at hvalue hbody hhead
    have hb : b = equals := by simpa using hhead
    exact .inr ⟨v, hvalue.symm, hb ▸ hbody.symm⟩

theorem readArgument_letters (p : Progress) {b : UInt8} (hb : b ≠ dash) (rest : Bytes) :
    readArgument p (dash :: b :: rest) = readLetters p (b :: rest) := by
  simp only [readArgument, if_pos, if_neg hb]

/-- Openings of the grammar are read as what they set. -/
theorem readArgument_opening {items : List Item} {left : Option Valued} {arg : Bytes}
    (h : Opening items left arg) (p : Progress) :
    readArgument p arg = openingStep p items left := by
  cases h with
  | flag f =>
    show readLong p (utf8 (Key.flag f).long) = _
    rw [readLong, splitValue_name (equals_notMem_long _)]
    simp only [ofLong?_long]
    exact meet_eq p f
  | attached v value =>
    show readLong p (utf8 (Key.valued v).long ++ equals :: value) = _
    rw [readLong, splitValue_attached (equals_notMem_long _)]
    simp only [ofLong?_long]
    exact openValued_some p v value
  | without v =>
    show readLong p (utf8 (Key.valued v).long) = _
    rw [readLong, splitValue_name (equals_notMem_long _)]
    simp only [ofLong?_long]
    exact openValued_none p v
  | letters h =>
    obtain ⟨b, rest, rfl, hb⟩ := h.eq_cons
    rw [readArgument_letters p hb, readLetters_letters h]

/-- Only openings of the grammar are read after two dashes. -/
theorem opening_of_readLong {p q : Progress} {body : Bytes} (h : readLong p body = .ok q) :
    ∃ items left, Opening items left (dash :: dash :: body) := by
  rcases hsplit : splitValue body with ⟨name, value⟩
  rw [readLong, hsplit] at h
  have hbody := eq_of_splitValue hsplit
  cases hw : Word.ofLong? name with
  | none =>
    simp only [hw] at h
    exact nomatch h
  | some w =>
    obtain ⟨rfl, rfl⟩ | ⟨v, rfl, rfl⟩ := hbody
    · cases w with
      | help =>
        simp only [hw] at h
        exact absurd h (inform_ne_ok p (.help true) q)
      | version =>
        simp only [hw] at h
        exact absurd h (inform_ne_ok p .version q)
      | key k =>
        rw [ofLong?_eq_some_iff.mp hw]
        cases k with
        | flag f => exact ⟨_, _, .flag f⟩
        | valued v => exact ⟨_, _, .without v⟩
    · cases w with
      | help =>
        simp only [hw] at h
        exact nomatch h
      | version =>
        simp only [hw] at h
        exact nomatch h
      | key k =>
        rw [ofLong?_eq_some_iff.mp hw]
        cases k with
        | flag f =>
          simp only [hw] at h
          exact nomatch h
        | valued v' => exact ⟨_, _, .attached v' v⟩

/-- Only openings of the grammar are read, apart from words that can stand alone. -/
theorem opening_of_readArgument {p q : Progress} {arg : Bytes} (harg : ¬ Separable arg)
    (h : readArgument p arg = .ok q) : ∃ items left, Opening items left arg := by
  obtain ⟨b, rest, rfl⟩ := eq_of_not_separable harg
  by_cases hb : b = dash
  · subst hb
    exact opening_of_readLong (p := p) (q := q) h
  · rw [readArgument_letters p hb] at h
    obtain ⟨items, left, hitems⟩ := letters_of_readLetters (List.cons_ne_nil b rest) h
    exact ⟨items, left, .letters hitems⟩

/-- A word that can stand alone is read as a value. -/
theorem readArgument_separable {arg : Bytes} (h : Separable arg) (p : Progress) :
    readArgument p arg = readValue p arg := by
  match arg with
  | [] => rfl
  | [b] =>
    simp only [readArgument]
    split <;> rfl
  | a :: b :: rest =>
    by_cases ha : a = dash
    · subst ha
      exact absurd h (not_separable b rest)
    · simp only [readArgument, if_neg ha]

/-! ## Reading all arguments -/

theorem settle_eq_ok_iff {p : Progress} {all : List Setting} :
    settle p = .ok all ↔
      ∃ items, Settled p.pending items ∧ addItems p.settings items = .ok all := by
  rcases p with ⟨settings, pending⟩
  match pending with
  | none =>
    constructor
    · exact fun h => ⟨[], .closed, h⟩
    · rintro ⟨items, hitems, h⟩
      cases hitems
      exact h
  | some (v, some value) =>
    constructor
    · exact fun h => ⟨[.value v value], .given v value, (addItems_singleton _ _).trans h⟩
    · rintro ⟨items, hitems, h⟩
      cases hitems
      exact (addItems_singleton _ _).symm.trans h
  | some (v, none) =>
    cases hv : implied? v with
    | none =>
      constructor
      · intro h
        simp only [settle, hv, Option.or_none] at h
        exact nomatch h
      · rintro ⟨items, hitems, h⟩
        cases hitems with
        | implied hv' => exact nomatch hv.symm.trans hv'
    | some value =>
      have hsettle : settle ⟨settings, some (v, none)⟩ =
          add settings (.valued v) (checkValue v value) := by
        simp only [settle, hv, Option.none_or]
      rw [hsettle]
      constructor
      · exact fun h => ⟨[.value v value], .implied hv, (addItems_singleton _ _).trans h⟩
      · rintro ⟨items, hitems, h⟩
        cases hitems with
        | implied hv' =>
          obtain rfl := Option.some.inj (hv.symm.trans hv')
          exact (addItems_singleton _ _).symm.trans h

theorem readValue_eq_ok_iff {p q : Progress} {word : Bytes} :
    readValue p word = .ok q ↔
      ∃ v, p.pending = some (v, none) ∧ q = ⟨p.settings, some (v, some word)⟩ := by
  rcases p with ⟨settings, pending⟩
  match pending with
  | none => exact ⟨fun h => (nomatch h), fun ⟨_, h, _⟩ => (nomatch h)⟩
  | some (v, some value) => exact ⟨fun h => (nomatch h), fun ⟨_, h, _⟩ => (nomatch h)⟩
  | some (v, none) =>
    constructor
    · exact fun h => ⟨v, rfl, (Except.ok.inj h).symm⟩
    · rintro ⟨v', hv, rfl⟩
      obtain ⟨rfl, -⟩ := Prod.mk.inj (Option.some.inj hv)
      rfl

theorem readArguments_cons {arg : Bytes} (h : arg ≠ [dash, dash]) (p : Progress)
    (rest : List Bytes) :
    readArguments p (arg :: rest) = (readArgument p arg).bind fun q => readArguments q rest := by
  simp only [readArguments, if_neg h]
  cases readArgument p arg <;> rfl

/-- From any state, what the reader accepts are the arguments that go on from there by the
grammar, with items that can be added one after the other. The induction is on the arguments, and
a state holds all that is known about those before them. -/
theorem readArguments_eq_ok_iff {args : List Bytes} (hdashes : [dash, dash] ∉ args) {p : Progress}
    {all : List Setting} :
    readArguments p args = .ok all ↔
      ∃ items, Onward p.pending items args ∧ addItems p.settings items = .ok all := by
  induction args generalizing p with
  | nil =>
    rw [readArguments, settle_eq_ok_iff]
    constructor
    · rintro ⟨items, hitems, h⟩
      exact ⟨items ++ [], .settled hitems .nil, (List.append_nil items).symm ▸ h⟩
    · rintro ⟨items, hitems, h⟩
      exact ⟨items, hitems.settled_of_nil, h⟩
  | cons arg rest ih =>
    rw [List.mem_cons, not_or] at hdashes
    obtain ⟨harg, hrest⟩ := hdashes
    rw [readArguments_cons (Ne.symm harg), bind_eq_ok_iff]
    by_cases hvalue : Separable arg
    · rw [readArgument_separable hvalue]
      constructor
      · rintro ⟨q, hq, hall⟩
        obtain ⟨v, hp, rfl⟩ := readValue_eq_ok_iff.mp hq
        obtain ⟨items, hitems, hall⟩ := (ih hrest).mp hall
        exact ⟨items, (onward_value_iff hvalue).mpr ⟨v, hp, hitems⟩, hall⟩
      · rintro ⟨items, hitems, hall⟩
        obtain ⟨v, hp, hitems⟩ := (onward_value_iff hvalue).mp hitems
        exact ⟨_, readValue_eq_ok_iff.mpr ⟨v, hp, rfl⟩, (ih hrest).mpr ⟨items, hitems, hall⟩⟩
    · constructor
      · rintro ⟨q, hq, hall⟩
        obtain ⟨items, left, hopening⟩ := opening_of_readArgument hvalue hq
        rw [readArgument_opening hopening, openingStep, bind_eq_ok_iff] at hq
        obtain ⟨settings, hsettle, hq⟩ := hq
        obtain ⟨more, hmore, hq⟩ := bind_eq_ok_iff.mp hq
        obtain rfl := Except.ok.inj hq
        obtain ⟨front, hfront, hsettings⟩ := settle_eq_ok_iff.mp hsettle
        obtain ⟨back, hback, hall⟩ := (ih hrest).mp hall
        refine ⟨front ++ (items ++ back), .settled hfront (groups_cons hopening hback), ?_⟩
        rw [addItems_append, hsettings]
        show addItems settings (items ++ back) = .ok all
        rw [addItems_append, hmore]
        exact hall
      · rintro ⟨items, hitems, hall⟩
        obtain ⟨front, more, rfl, hfront, hgroups⟩ := hitems.groups hvalue
        obtain ⟨-, h⟩ | ⟨arg', rest', first, left, back, h, rfl, hopening, hback⟩ := hgroups.inv
        · exact nomatch h
        · obtain ⟨rfl, rfl⟩ := List.cons.inj h
          rw [addItems_append, bind_eq_ok_iff] at hall
          obtain ⟨settings, hsettings, hall⟩ := hall
          rw [addItems_append, bind_eq_ok_iff] at hall
          obtain ⟨more, hmore, hall⟩ := hall
          have hsettle : settle p = .ok settings := settle_eq_ok_iff.mpr ⟨front, hfront, hsettings⟩
          refine ⟨leaving more left, ?_, (ih hrest).mpr ⟨back, hback, hall⟩⟩
          rw [readArgument_opening hopening, openingStep, hsettle]
          show (addItems settings first).bind _ = _
          rw [hmore]
          rfl

end Testbed.CommandLine
