import Testbed.CommandLine.Reader

/-!
# The grammar of the command line

A command line is a sequence of option groups. A group is an argument that starts with a dash, and
it may leave its last option without a value: then the next argument is the value, unless the
option may stand without one.

* `Opening` says what one argument that starts with a dash sets, and `Group` and `Groups` build
  the grammar on it.
* `Onward` says how arguments go on where an option is still open, and `Groups.inv` and
  `groups_cons` that groups are openings with what goes on from them.
* `Groups.dashes_notMem`: no argument of the grammar is two dashes alone.
-/

namespace Testbed.CommandLine

/-! ## The grammar -/

/-- What a command line sets: a flag, or an option with the bytes of its value. -/
inductive Item
  | flag (f : Flag)
  | value (v : Valued) (bytes : Bytes)
  deriving DecidableEq

/-- The option that an item sets. -/
def Item.key : Item → Key
  | .flag f => .flag f
  | .value v _ => .valued v

/-- A byte is the letter of an option. -/
def HasLetter (k : Key) (b : UInt8) : Prop := ∃ c, k.letter? = some c ∧ c.toNat = b.toNat

/-- A word can stand alone as a value: it does not start with a dash, or is nothing but one. -/
def Separable (word : Bytes) : Prop := word.head? = some dash → word = [dash]

instance (word : Bytes) : Decidable (Separable word) := inferInstanceAs (Decidable (_ → _))

/-- The argument that names an option in full. -/
def longName (k : Key) : Bytes := dash :: dash :: utf8 k.long

/-- Letters after one dash, with the items they set. The last one may be the letter of a valued
option, with its value attached or without it; then it is told which option lacks its value. -/
inductive Letters : List Item → Option Valued → Bytes → Prop
  /-- A flag is the last letter. -/
  | last {f : Flag} {b : UInt8} (hb : HasLetter (.flag f) b) : Letters [.flag f] none [b]
  /-- More letters follow a flag. -/
  | more {f : Flag} {b : UInt8} {items : List Item} {left : Option Valued} {body : Bytes}
      (hb : HasLetter (.flag f) b) (h : Letters items left body) :
      Letters (.flag f :: items) left (b :: body)
  /-- An equals sign and the value follow a valued option. -/
  | equals {v : Valued} {b : UInt8} {value : Bytes} (hb : HasLetter (.valued v) b) :
      Letters [.value v value] none (b :: equals :: value)
  /-- The value follows a valued option at once; it is not empty, and does not start with an
  equals sign. -/
  | attached {v : Valued} {b : UInt8} {value : Bytes} (hb : HasLetter (.valued v) b)
      (hne : value ≠ []) (heq : value.head? ≠ some equals) :
      Letters [.value v value] none (b :: value)
  /-- Nothing follows a valued option. -/
  | without {v : Valued} {b : UInt8} (hb : HasLetter (.valued v) b) : Letters [] (some v) [b]

/-- An argument that starts with a dash, with the items it sets and the option that it leaves
without a value. -/
inductive Opening : List Item → Option Valued → Bytes → Prop
  | flag (f : Flag) : Opening [.flag f] none (longName (.flag f))
  | attached (v : Valued) (value : Bytes) :
      Opening [.value v value] none (longName (.valued v) ++ equals :: value)
  | without (v : Valued) : Opening [] (some v) (longName (.valued v))
  | letters {items : List Item} {left : Option Valued} {body : Bytes}
      (h : Letters items left body) : Opening items left (dash :: body)

/-- An option group: the arguments of an opening and of the value that it lacks. Only the build
directory may go without, and has its default then. -/
inductive Group : List Item → List Bytes → Prop
  | complete {items : List Item} {arg : Bytes} (h : Opening items none arg) : Group items [arg]
  | separate {items : List Item} {v : Valued} {arg value : Bytes}
      (h : Opening items (some v) arg) (hvalue : Separable value) :
      Group (items ++ [.value v value]) [arg, value]
  | implied {items : List Item} {arg : Bytes} (h : Opening items (some .build) arg) :
      Group (items ++ [.value .build (utf8 Options.defaultBuildDir)]) [arg]

/-- Option groups one after the other. -/
inductive Groups : List Item → List Bytes → Prop
  | nil : Groups [] []
  | cons {first items : List Item} {front args : List Bytes} (h : Group first front)
      (hrest : Groups items args) : Groups (first ++ items) (front ++ args)

/-! ## Names of options -/

/-- The word of a full name is the one that has it. -/
theorem ofLong?_eq_some_iff {w : Word} {name : Bytes} :
    Word.ofLong? name = some w ↔ name = utf8 w.long := by
  constructor
  · intro h
    have hname := List.find?_some h
    exact (beq_iff_eq.mp hname).symm
  · rintro rfl
    rcases w with (f | v) | _ | _
    · cases f <;> decide
    · cases v <;> decide
    · decide
    · decide

@[simp]
theorem ofLong?_long (k : Key) : Word.ofLong? (utf8 k.long) = some (.key k) :=
  ofLong?_eq_some_iff.mpr rfl

/-- No long name has an equals sign in it. -/
theorem equals_notMem_long (k : Key) : equals ∉ utf8 k.long := by
  rcases k with f | v
  · cases f <;> decide
  · cases v <;> decide

/-- The word of a letter is the one that has it. -/
theorem ofLetter?_eq_word_iff {w : Word} {b : UInt8} :
    Word.ofLetter? b = some w ↔ ∃ c, w.letter? = some c ∧ c.toNat = b.toNat := by
  constructor
  · intro h
    have hb := List.find?_some h
    cases hc : w.letter? with
    | none => simp [hc] at hb
    | some c => exact ⟨c, rfl, by simpa [hc] using hb⟩
  · rintro ⟨c, hc, hb⟩
    have hb' : b = UInt8.ofNat c.toNat := by rw [hb, UInt8.ofNat_toNat]
    subst hb'
    rcases w with (f | v) | _ | _
    · cases f <;> cases hc <;> decide
    · cases v <;> cases hc <;> decide
    · cases hc
      decide
    · cases hc
      decide

theorem ofLetter?_eq_some_iff {k : Key} {b : UInt8} :
    Word.ofLetter? b = some (.key k) ↔ HasLetter k b := ofLetter?_eq_word_iff

/-! ## Words that can stand alone -/

theorem not_separable (b : UInt8) (rest : Bytes) : ¬ Separable (dash :: b :: rest) :=
  fun h => nomatch h rfl

/-- Words that cannot stand alone have something after a dash. -/
theorem eq_of_not_separable {arg : Bytes} (h : ¬ Separable arg) :
    ∃ b rest, arg = dash :: b :: rest := by
  match arg with
  | [] => exact absurd (fun h => nomatch h) h
  | [b] => exact absurd (fun hb => congrArg (· :: []) (Option.some.inj hb)) h
  | a :: b :: rest =>
    by_cases ha : a = dash
    · exact ⟨b, rest, ha ▸ rfl⟩
    · exact absurd (fun hb => absurd (Option.some.inj hb) ha) h

theorem HasLetter.ne_dash {k : Key} {b : UInt8} (h : HasLetter k b) : b ≠ dash := by
  rintro rfl
  have hnone : Word.ofLetter? dash = none := by decide
  exact nomatch hnone.symm.trans (ofLetter?_eq_some_iff.mpr h)

theorem Letters.eq_cons {items : List Item} {left : Option Valued} {body : Bytes}
    (h : Letters items left body) : ∃ b rest, body = b :: rest ∧ b ≠ dash := by
  cases h with
  | last hb => exact ⟨_, _, rfl, hb.ne_dash⟩
  | more hb _ => exact ⟨_, _, rfl, hb.ne_dash⟩
  | equals hb => exact ⟨_, _, rfl, hb.ne_dash⟩
  | attached hb _ _ => exact ⟨_, _, rfl, hb.ne_dash⟩
  | without hb => exact ⟨_, _, rfl, hb.ne_dash⟩

/-- No opening can stand alone as a value. -/
theorem Opening.not_separable {items : List Item} {left : Option Valued} {arg : Bytes}
    (h : Opening items left arg) : ¬ Separable arg := by
  cases h with
  | flag f => exact CommandLine.not_separable _ _
  | attached v value => exact CommandLine.not_separable _ _
  | without v => exact CommandLine.not_separable _ _
  | letters h =>
    obtain ⟨b, rest, rfl, -⟩ := h.eq_cons
    exact CommandLine.not_separable b rest

/-! ## Options that are still open -/

/-- What an option that is still open sets when nothing can follow it any more. -/
inductive Settled : Option (Valued × Option Bytes) → List Item → Prop
  | closed : Settled none []
  | given (v : Valued) (value : Bytes) : Settled (some (v, some value)) [.value v value]
  | implied {v : Valued} {value : Bytes} (h : implied? v = some value) :
      Settled (some (v, none)) [.value v value]

/-- How arguments go on where an option is still open: its value comes next, or they are groups
and what is open is settled. -/
inductive Onward : Option (Valued × Option Bytes) → List Item → List Bytes → Prop
  | settled {pending : Option (Valued × Option Bytes)} {front items : List Item}
      {args : List Bytes} (hfront : Settled pending front) (h : Groups items args) :
      Onward pending (front ++ items) args
  | next {v : Valued} {value : Bytes} {items : List Item} {args : List Bytes}
      (hvalue : Separable value) (h : Groups items args) :
      Onward (some (v, none)) (.value v value :: items) (value :: args)

theorem implied?_eq_some_iff {v : Valued} {value : Bytes} :
    implied? v = some value ↔ v = .build ∧ value = utf8 Options.defaultBuildDir := by
  constructor
  · intro h
    cases v with
    | build => exact ⟨rfl, (Option.some.inj h).symm⟩
    | _ => exact nomatch h
  · rintro ⟨rfl, rfl⟩
    rfl

/-- An opening and what goes on from it are groups. -/
theorem groups_cons {items more : List Item} {left : Option Valued} {arg : Bytes}
    {args : List Bytes} (h : Opening items left arg)
    (hmore : Onward (left.map fun v => (v, none)) more args) :
    Groups (items ++ more) (arg :: args) := by
  cases left with
  | none =>
    cases hmore with
    | settled hfront hrest =>
      cases hfront
      exact .cons (.complete h) hrest
  | some v =>
    cases hmore with
    | settled hfront hrest =>
      cases hfront with
      | implied hv =>
        obtain ⟨rfl, rfl⟩ := implied?_eq_some_iff.mp hv
        rw [← List.append_assoc]
        exact .cons (.implied h) hrest
    | @next _ value items' args hvalue hrest =>
      rw [List.append_cons]
      exact .cons (.separate h hvalue) hrest

/-- Groups are nothing, or an opening and what goes on from it. -/
theorem Groups.inv {items : List Item} {args : List Bytes} (h : Groups items args) :
    (items = [] ∧ args = []) ∨ ∃ arg rest first left more, args = arg :: rest ∧
      items = first ++ more ∧ Opening first left arg ∧
        Onward (left.map fun v => (v, none)) more rest := by
  cases h with
  | nil => exact .inl ⟨rfl, rfl⟩
  | cons hgroup hrest =>
    refine .inr ?_
    cases hgroup with
    | complete h => exact ⟨_, _, _, _, _, rfl, rfl, h, .settled .closed hrest⟩
    | separate h hvalue =>
      exact ⟨_, _, _, _, _, rfl, List.append_assoc .., h, .next hvalue hrest⟩
    | implied h =>
      exact ⟨_, _, _, _, _, rfl, List.append_assoc .., h, .settled (.implied rfl) hrest⟩

theorem Groups.not_separable {items : List Item} {arg : Bytes} {args : List Bytes}
    (h : Groups items (arg :: args)) : ¬ Separable arg := by
  obtain ⟨-, harg⟩ | ⟨arg', rest, first, left, more, harg, -, hfirst, -⟩ := h.inv
  · exact nomatch harg
  · exact (List.cons.inj harg).1 ▸ hfirst.not_separable

/-- Where arguments do not start with a value, what is open is settled before them. -/
theorem Onward.groups {pending : Option (Valued × Option Bytes)} {items : List Item} {arg : Bytes}
    {args : List Bytes} (h : Onward pending items (arg :: args)) (harg : ¬ Separable arg) :
    ∃ front more, items = front ++ more ∧ Settled pending front ∧ Groups more (arg :: args) := by
  cases h with
  | settled hfront h => exact ⟨_, _, rfl, hfront, h⟩
  | next hvalue _ => exact absurd hvalue harg

/-- At the end of the arguments, what is open is settled. -/
theorem Onward.settled_of_nil {pending : Option (Valued × Option Bytes)} {items : List Item}
    (h : Onward pending items []) : Settled pending items := by
  generalize hargs : ([] : List Bytes) = args at h
  cases h with
  | settled hfront h =>
    obtain ⟨rfl, -⟩ | ⟨_, _, _, _, _, hcons, -⟩ := h.inv
    · exact (List.append_nil _).symm ▸ hfront
    · exact nomatch hargs.trans hcons
  | next _ _ => exact nomatch hargs

/-- A word that can stand alone goes on only from an option that is open, as its value. -/
theorem onward_value_iff {pending : Option (Valued × Option Bytes)} {items : List Item}
    {word : Bytes} {args : List Bytes} (hword : Separable word) :
    Onward pending items (word :: args) ↔
      ∃ v, pending = some (v, none) ∧ Onward (some (v, some word)) items args := by
  constructor
  · intro h
    cases h with
    | settled _ h => exact absurd hword h.not_separable
    | @next v _ items _ _ h => exact ⟨v, rfl, .settled (.given v word) h⟩
  · rintro ⟨v, rfl, h⟩
    generalize hpending : some (v, some word) = pending at h
    cases h with
    | settled hfront h =>
      cases hfront with
      | closed => exact nomatch hpending
      | given v' value =>
        obtain ⟨rfl, hvalue⟩ := Prod.mk.inj (Option.some.inj hpending)
        exact Option.some.inj hvalue ▸ .next hword h
      | implied _ => exact nomatch (Prod.mk.inj (Option.some.inj hpending)).2
    | next _ _ => exact nomatch (Prod.mk.inj (Option.some.inj hpending)).2

/-- Where nothing is open, arguments go on as groups. -/
theorem onward_none_iff {items : List Item} {args : List Bytes} :
    Onward none items args ↔ Groups items args := by
  constructor
  · intro h
    cases h with
    | settled hfront h =>
      cases hfront
      exact h
  · exact fun h => .settled .closed h

/-! ## Two dashes alone -/

theorem utf8_long_ne_nil (k : Key) : utf8 k.long ≠ [] := by
  rcases k with f | v
  · cases f <;> decide
  · cases v <;> decide

/-- Neither a long name nor letters leave two dashes alone. -/
theorem Opening.ne_dashes {items : List Item} {left : Option Valued} {arg : Bytes}
    (h : Opening items left arg) : arg ≠ [dash, dash] := by
  have hlong (k : Key) : longName k ≠ [dash, dash] := fun h =>
    utf8_long_ne_nil k (List.cons.inj (List.cons.inj h).2).2
  cases h with
  | flag f => exact hlong (.flag f)
  | attached v value =>
    intro h
    have hnil : utf8 (Key.valued v).long ++ equals :: value = [] :=
      (List.cons.inj (List.cons.inj h).2).2
    exact List.append_ne_nil_of_right_ne_nil _ (List.cons_ne_nil _ _) hnil
  | without v => exact hlong (.valued v)
  | letters h =>
    obtain ⟨b, rest, rfl, hb⟩ := h.eq_cons
    exact fun h => hb (List.cons.inj (List.cons.inj h).2).1

/-- No argument of the grammar is two dashes alone. -/
theorem Groups.dashes_notMem {items : List Item} {args : List Bytes} (h : Groups items args) :
    [dash, dash] ∉ args := by
  induction h with
  | nil => exact List.not_mem_nil
  | cons hgroup _ ih =>
    rw [List.mem_append, not_or]
    refine ⟨?_, ih⟩
    cases hgroup with
    | complete h | implied h => exact fun hmem => h.ne_dashes (List.mem_singleton.mp hmem).symm
    | separate h hvalue =>
      intro hmem
      obtain harg | hmem := List.mem_cons.mp hmem
      · exact h.ne_dashes harg.symm
      · exact CommandLine.not_separable dash [] (List.mem_singleton.mp hmem ▸ hvalue)

end Testbed.CommandLine
