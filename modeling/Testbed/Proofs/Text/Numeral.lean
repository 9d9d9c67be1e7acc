import Mathlib.Data.List.Induction
import Testbed.Text.CharSet
import Testbed.Text.Number

/-!
# Numerals

Numbers are read one digit at a time and given up once they exceed the bound. Values only grow
with each digit, so a text is read exactly if it is a numeral whose value is within the bound, and
what stops the reading of any other text is the first character at which it goes wrong.

* `accumulate_eq_ok_iff`: digits are read onto a value exactly if the sum is within the bound.
* `readNumber_eq_ok_iff`: a text is read exactly if it is a numeral within the bound.
* `Unreadable` says why a text is refused, and `readNumber_eq_error_iff` that these are the reasons
  that are given.
* `IsDecimal` is the numeral that a number is written as, and `isDecimal_iff` says that there is one
  for each.
-/

namespace Testbed.Text

/-- The value of decimal digits that follow those of a value. -/
def valueOnto (value : Nat) (digits : List Char) : Nat :=
  digits.foldl (fun n c => n * 10 + (c.toNat - '0'.toNat)) value

theorem valueOnto_cons (value : Nat) (c : Char) (rest : List Char) :
    valueOnto value (c :: rest) = valueOnto (value * 10 + (c.toNat - '0'.toNat)) rest := by
  rw [valueOnto, valueOnto, List.foldl_cons]

/-- Further digits do not make a value smaller. -/
theorem le_valueOnto (value : Nat) (digits : List Char) : value ≤ valueOnto value digits := by
  induction digits generalizing value with
  | nil => exact Nat.le_refl value
  | cons c rest ih =>
    rw [valueOnto_cons]
    have h := ih (value * 10 + (c.toNat - '0'.toNat))
    omega

theorem digit?_of_isDigit {c : Char} (h : isDigit c = true) :
    digit? c = some (c.toNat - '0'.toNat) := by
  have h' : '0' ≤ c ∧ c ≤ '9' := by simpa [isDigit] using h
  rw [digit?, if_pos h']

theorem digit?_of_not_isDigit {c : Char} (h : isDigit c = false) : digit? c = none := by
  have h' : ¬ ('0' ≤ c ∧ c ≤ '9') := by
    rintro ⟨hlow, hhigh⟩
    simp [isDigit, hlow, hhigh] at h
  rw [digit?, if_neg h']

/-- Digits are read onto a value exactly if what they amount to is within the bound. -/
theorem accumulate_eq_ok_iff {bound value n : Nat} {cs : List Char} (hvalue : value ≤ bound) :
    accumulate bound value cs = .ok n ↔
      (∀ c ∈ cs, isDigit c = true) ∧ valueOnto value cs = n ∧ n ≤ bound := by
  induction cs generalizing value with
  | nil =>
    constructor
    · intro h
      obtain rfl : value = n := Except.ok.inj h
      exact ⟨List.forall_mem_nil _, rfl, hvalue⟩
    · rintro ⟨-, rfl, -⟩
      rfl
  | cons c rest ih =>
    cases hc : isDigit c with
    | false =>
      rw [accumulate, digit?_of_not_isDigit hc]
      constructor
      · intro h
        cases h
      · rintro ⟨hall, -, -⟩
        exact absurd (hall c List.mem_cons_self) (by rw [hc]; exact Bool.false_ne_true)
    | true =>
      rw [accumulate, digit?_of_isDigit hc, valueOnto_cons]
      have hle := le_valueOnto (value * 10 + (c.toNat - '0'.toNat)) rest
      show (if value * 10 + (c.toNat - '0'.toNat) ≤ bound then _ else _) = _ ↔ _
      by_cases hb : value * 10 + (c.toNat - '0'.toNat) ≤ bound
      · rw [if_pos hb, ih hb, List.forall_mem_cons]
        exact ⟨fun h => ⟨⟨hc, h.1⟩, h.2⟩, fun h => ⟨h.1.2, h.2⟩⟩
      · rw [if_neg hb]
        constructor
        · intro h
          cases h
        · rintro ⟨-, hn, hn'⟩
          omega

/-- A text is a numeral for `n`: decimal digits, at least one, with or without a plus sign before
them. -/
def IsNumeral (cs : List Char) (n : Nat) : Prop :=
  ∃ digits, (cs = digits ∨ cs = '+' :: digits) ∧ digits ≠ [] ∧
    (∀ c ∈ digits, isDigit c = true) ∧ valueOnto 0 digits = n

/-- What is left of a text without one plus sign before it. -/
def unsigned : List Char → List Char
  | '+' :: digits => digits
  | cs => cs

theorem unsigned_of_plain {cs : List Char} (h : ∀ digits, cs ≠ '+' :: digits) :
    unsigned cs = cs := by
  unfold unsigned
  split
  · next digits => exact absurd rfl (h digits)
  · rfl

/-- A numeral is what is left of it without a plus sign: digits, at least one. -/
theorem isNumeral_iff_unsigned {cs : List Char} {n : Nat} :
    IsNumeral cs n ↔
      unsigned cs ≠ [] ∧ (∀ c ∈ unsigned cs, isDigit c = true) ∧ valueOnto 0 (unsigned cs) = n := by
  constructor
  · rintro ⟨digits, hcs, hne, hall, hn⟩
    have hunsigned : unsigned cs = digits := by
      obtain rfl | rfl := hcs
      · exact unsigned_of_plain fun rest h => nomatch hall '+' (h ▸ List.mem_cons_self)
      · rfl
    exact hunsigned ▸ ⟨hne, hall, hn⟩
  · rintro ⟨hne, hall, hn⟩
    refine ⟨unsigned cs, ?_, hne, hall, hn⟩
    unfold unsigned
    split
    · exact .inr rfl
    · exact .inl rfl

theorem unsigned_eq_nil_iff {cs : List Char} : unsigned cs = [] ↔ cs = [] ∨ cs = ['+'] := by
  unfold unsigned
  split
  · simp
  · next hplain => exact ⟨.inl, fun h => h.resolve_right fun hsign => hplain [] hsign⟩

/-- Where something is left without a plus sign, this is what is read. -/
theorem readNumber_of_unsigned {bound : Nat} {cs : List Char} (h : unsigned cs ≠ []) :
    readNumber bound cs = accumulate bound 0 (unsigned cs) := by
  unfold readNumber
  split
  · exact absurd rfl h
  · exact absurd rfl h
  · rfl
  · next hplain => rw [unsigned_of_plain hplain]

/-- A text is read exactly if it is a numeral within the bound. -/
theorem readNumber_eq_ok_iff {bound n : Nat} {cs : List Char} :
    readNumber bound cs = .ok n ↔ IsNumeral cs n ∧ n ≤ bound := by
  rw [isNumeral_iff_unsigned]
  by_cases h : unsigned cs = []
  · obtain rfl | rfl := unsigned_eq_nil_iff.mp h <;>
      exact ⟨fun h => (nomatch h), fun ⟨⟨hne, _⟩, _⟩ => absurd rfl hne⟩
  · rw [readNumber_of_unsigned h, accumulate_eq_ok_iff (Nat.zero_le bound)]
    constructor
    · exact fun ⟨hall, hn, hle⟩ => ⟨⟨h, hall, hn⟩, hle⟩
    · exact fun ⟨⟨_, hall, hn⟩, hle⟩ => ⟨hall, hn, hle⟩

/-! ## Texts that are refused -/

theorem valueOnto_append (value : Nat) (front back : List Char) :
    valueOnto value (front ++ back) = valueOnto (valueOnto value front) back :=
  List.foldl_append

/-- A character with digits before it that are read onto a value, within the bound. -/
structure Comes (bound value : Nat) (cs before : List Char) (c : Char) : Prop where
  split : ∃ after, cs = before ++ c :: after
  digits : ∀ d ∈ before, isDigit d = true
  within : valueOnto value before ≤ bound

/-- Where reading onto a value stops, and why: the first character that is no digit, or the first
digit that takes the value beyond the bound, whichever comes first. -/
inductive Stops (bound value : Nat) (cs : List Char) : NumberError → Prop
  | invalidDigit {before : List Char} {c : Char} (h : Comes bound value cs before c)
      (hc : isDigit c = false) : Stops bound value cs .invalidDigit
  | tooLarge {before : List Char} {c : Char} (h : Comes bound value cs before c)
      (hc : isDigit c = true) (hvalue : bound < valueOnto value (before ++ [c])) :
      Stops bound value cs .tooLarge

section

variable {bound value : Nat} {cs rest before : List Char} {c d : Char} {why : NumberError}

/-- The first character is the one that comes, or a digit within the bound comes before. -/
theorem comes_cons_iff (hvalue : value ≤ bound) :
    Comes bound value (c :: rest) before d ↔
      (before = [] ∧ d = c) ∨
        ∃ more, before = c :: more ∧ isDigit c = true ∧
          Comes bound (value * 10 + (c.toNat - '0'.toNat)) rest more d := by
  constructor
  · rintro ⟨⟨after, hsplit⟩, hdigits, hwithin⟩
    cases before with
    | nil => exact .inl ⟨rfl, (List.cons.inj hsplit).1.symm⟩
    | cons b more =>
      obtain ⟨rfl, hrest⟩ := List.cons.inj hsplit
      rw [valueOnto_cons] at hwithin
      exact .inr ⟨more, rfl, hdigits c List.mem_cons_self,
        ⟨after, hrest⟩, fun e he => hdigits e (List.mem_cons_of_mem c he), hwithin⟩
  · rintro (⟨rfl, rfl⟩ | ⟨more, rfl, hc, ⟨after, rfl⟩, hdigits, hwithin⟩)
    · exact ⟨⟨rest, rfl⟩, List.forall_mem_nil _, hvalue⟩
    · exact ⟨⟨after, rfl⟩, List.forall_mem_cons.mpr ⟨hc, hdigits⟩, valueOnto_cons .. ▸ hwithin⟩

theorem not_comes_nil : ¬ Comes bound value [] before c := by
  rintro ⟨⟨after, hsplit⟩, -, -⟩
  exact List.append_ne_nil_of_right_ne_nil before (List.cons_ne_nil c after) hsplit.symm

theorem not_stops_nil : ¬ Stops bound value [] why := by
  rintro (⟨h, -⟩ | ⟨h, -, -⟩) <;> exact absurd h not_comes_nil

/-- Reading stops at the first character, or it goes on with the digit and stops later. -/
theorem stops_cons_iff (hvalue : value ≤ bound) :
    Stops bound value (c :: rest) why ↔
      (isDigit c = false ∧ why = .invalidDigit) ∨
      (isDigit c = true ∧ bound < value * 10 + (c.toNat - '0'.toNat) ∧ why = .tooLarge) ∨
      (isDigit c = true ∧ value * 10 + (c.toNat - '0'.toNat) ≤ bound ∧
        Stops bound (value * 10 + (c.toNat - '0'.toNat)) rest why) := by
  have hwithin {more : List Char} {e : Char}
      (h : Comes bound (value * 10 + (c.toNat - '0'.toNat)) rest more e) :
      value * 10 + (c.toNat - '0'.toNat) ≤ bound := Nat.le_trans (le_valueOnto _ _) h.within
  constructor
  · rintro (⟨h, hd⟩ | ⟨h, hd, hlarge⟩)
    · obtain ⟨rfl, rfl⟩ | ⟨more, rfl, hc, h⟩ := (comes_cons_iff hvalue).mp h
      · exact .inl ⟨hd, rfl⟩
      · exact .inr (.inr ⟨hc, hwithin h, .invalidDigit h hd⟩)
    · obtain ⟨rfl, rfl⟩ | ⟨more, rfl, hc, h⟩ := (comes_cons_iff hvalue).mp h
      · exact .inr (.inl ⟨hd, hlarge, rfl⟩)
      · rw [List.cons_append, valueOnto_cons] at hlarge
        exact .inr (.inr ⟨hc, hwithin h, .tooLarge h hd hlarge⟩)
  · have hfirst : Comes bound value (c :: rest) [] c :=
      (comes_cons_iff hvalue).mpr (.inl ⟨rfl, rfl⟩)
    rintro (⟨hc, rfl⟩ | ⟨hc, hlarge, rfl⟩ | ⟨hc, -, ⟨h, hd⟩ | ⟨h, hd, hlarge⟩⟩)
    · exact .invalidDigit hfirst hc
    · exact .tooLarge hfirst hc hlarge
    · exact .invalidDigit ((comes_cons_iff hvalue).mpr (.inr ⟨_, rfl, hc, h⟩)) hd
    · refine .tooLarge ((comes_cons_iff hvalue).mpr (.inr ⟨_, rfl, hc, h⟩)) hd ?_
      rwa [List.cons_append, valueOnto_cons]

theorem accumulate_eq_error_iff (hvalue : value ≤ bound) :
    accumulate bound value cs = .error why ↔ Stops bound value cs why := by
  induction cs generalizing value with
  | nil => exact ⟨fun h => (nomatch h), fun h => absurd h not_stops_nil⟩
  | cons c rest ih =>
    rw [stops_cons_iff hvalue]
    cases hc : isDigit c with
    | false =>
      rw [accumulate, digit?_of_not_isDigit hc]
      simp [eq_comm]
    | true =>
      rw [accumulate, digit?_of_isDigit hc]
      show (if value * 10 + (c.toNat - '0'.toNat) ≤ bound then _ else _) = _ ↔ _
      generalize value * 10 + (c.toNat - '0'.toNat) = next
      by_cases hb : next ≤ bound
      · rw [if_pos hb, ih hb]
        simp [hb, Nat.not_lt.mpr hb]
      · rw [if_neg hb]
        simp [hb, Nat.not_le.mp hb, eq_comm]

end

/-- Why a text is not read as a number within a bound: there is nothing to read, or nothing but a
plus sign, or reading stops. -/
inductive Unreadable (bound : Nat) : List Char → NumberError → Prop
  | empty : Unreadable bound [] .empty
  | sign : Unreadable bound ['+'] .invalidDigit
  | stops {cs : List Char} {why : NumberError} (h : Stops bound 0 (unsigned cs) why) :
      Unreadable bound cs why

/-- A text is refused exactly for the reason for which it is unreadable. -/
theorem readNumber_eq_error_iff {bound : Nat} {cs : List Char} {why : NumberError} :
    readNumber bound cs = .error why ↔ Unreadable bound cs why := by
  by_cases h : unsigned cs = []
  · obtain rfl | rfl := unsigned_eq_nil_iff.mp h
    · constructor
      · rintro ⟨⟩
        exact .empty
      · rintro (_ | _ | hstops)
        · rfl
        · exact absurd hstops not_stops_nil
    · constructor
      · rintro ⟨⟩
        exact .sign
      · rintro (_ | _ | hstops)
        · rfl
        · exact absurd hstops not_stops_nil
  · rw [readNumber_of_unsigned h, accumulate_eq_error_iff (Nat.zero_le bound)]
    refine ⟨.stops, ?_⟩
    rintro (_ | _ | hstops)
    · exact absurd rfl h
    · exact absurd rfl h
    · exact hstops

/-! ## Decimal numerals -/

/-- A text is the decimal numeral of `n`: digits alone, at least one, and no zero before others. -/
structure IsDecimal (cs : List Char) (n : Nat) : Prop where
  ne_nil : cs ≠ []
  digits : ∀ c ∈ cs, isDigit c = true
  head : cs.head? = some '0' → cs = ['0']
  value : valueOnto 0 cs = n

theorem IsDecimal.isNumeral {cs : List Char} {n : Nat} (h : IsDecimal cs n) : IsNumeral cs n :=
  ⟨cs, .inl rfl, h.ne_nil, h.digits, h.value⟩

theorem valueOnto_eq_ofDigitChars (value : Nat) (digits : List Char) :
    valueOnto value digits = Nat.ofDigitChars 10 digits value := by
  rw [valueOnto, Nat.ofDigitChars_eq_foldl]
  simp only [Nat.mul_comm]

theorem toNat_sub_lt_of_isDigit {c : Char} (h : isDigit c = true) :
    c.toNat - '0'.toNat < 10 ∧ (c.toNat - '0'.toNat).digitChar = c := by
  have h' : '0' ≤ c ∧ c ≤ '9' := by simpa [isDigit] using h
  have hlow : 48 ≤ c.toNat := h'.1
  have hhigh : c.toNat ≤ 57 := h'.2
  have hlt : c.toNat - '0'.toNat < 10 := by
    show c.toNat - 48 < 10
    omega
  refine ⟨hlt, Char.toNat_inj.mp ?_⟩
  rw [Nat.toNat_digitChar_of_lt_ten hlt]
  show 48 + (c.toNat - 48) = c.toNat
  omega

theorem eq_zero_of_isDigit {c : Char} (h : isDigit c = true) (hc : c.toNat - '0'.toNat = 0) :
    c = '0' := by
  rw [← (toNat_sub_lt_of_isDigit h).2, hc]
  rfl

/-- The value of digits is zero exactly if all of them are zeros. -/
theorem valueOnto_zero_iff {digits : List Char} :
    (∀ c ∈ digits, isDigit c = true) ∧ valueOnto 0 digits = 0 ↔ ∀ c ∈ digits, c = '0' := by
  induction digits with
  | nil => exact ⟨fun _ => List.forall_mem_nil _, fun _ => ⟨List.forall_mem_nil _, rfl⟩⟩
  | cons c rest ih =>
    rw [valueOnto_cons, List.forall_mem_cons, List.forall_mem_cons, ← ih]
    constructor
    · rintro ⟨⟨hc, hrest⟩, hvalue⟩
      have hle := le_valueOnto (0 * 10 + (c.toNat - '0'.toNat)) rest
      have hzero : c.toNat - '0'.toNat = 0 := by omega
      rw [hzero] at hvalue
      exact ⟨eq_zero_of_isDigit hc hzero, hrest, hvalue⟩
    · rintro ⟨rfl, hrest, hvalue⟩
      exact ⟨⟨rfl, hrest⟩, hvalue⟩

/-- The numerals of zero are zeros, at least one, with or without a plus sign before them. -/
theorem isNumeral_zero_iff {cs : List Char} :
    IsNumeral cs 0 ↔ unsigned cs ≠ [] ∧ ∀ c ∈ unsigned cs, c = '0' := by
  rw [isNumeral_iff_unsigned, valueOnto_zero_iff]

/-- Only zero has a numeral that starts with a zero. -/
theorem eq_of_head?_toDigits {n : Nat} (h : (Nat.toDigits 10 n).head? = some '0') : n = 0 := by
  induction n using Nat.strongRecOn with
  | ind n ih =>
    by_cases hn : n < 10
    · rw [Nat.toDigits_of_lt_base hn] at h
      exact Nat.digitChar_eq_zero.mp (Option.some.inj h)
    · have hne : Nat.toDigits 10 (n / 10) ≠ [] := Nat.toDigits_ne_nil
      obtain ⟨d, rest, hdigits⟩ := List.exists_cons_of_ne_nil hne
      rw [Nat.toDigits_of_base_le (by decide) (Nat.not_lt.mp hn), hdigits] at h
      have hzero := ih (n / 10) (by omega) (hdigits ▸ h)
      omega

theorem isDecimal_toDigits (n : Nat) : IsDecimal (Nat.toDigits 10 n) n where
  ne_nil := Nat.toDigits_ne_nil
  digits _ hc := Nat.isDigit_of_mem_toDigits (by decide) (by decide) hc
  head h := by
    rw [eq_of_head?_toDigits h, Nat.toDigits_zero]
  value := by
    rw [valueOnto_eq_ofDigitChars, Nat.ofDigitChars_ten_toDigits]

/-- A number has one decimal numeral. The induction is on the digits from the right, as they are
split off from the number. -/
theorem IsDecimal.eq_toDigits {cs : List Char} {n : Nat} (h : IsDecimal cs n) :
    cs = Nat.toDigits 10 n := by
  induction cs using List.reverseRecOn generalizing n with
  | nil => exact absurd rfl h.ne_nil
  | append_singleton front c ih =>
    have hc : c ∈ front ++ [c] := List.mem_append_right front List.mem_cons_self
    obtain ⟨hlt, hdigit⟩ := toNat_sub_lt_of_isDigit (h.digits c hc)
    have hvalue : valueOnto 0 front * 10 + (c.toNat - '0'.toNat) = n := by
      rw [← h.value, valueOnto_append, valueOnto_cons]
      rfl
    by_cases hfront : front = []
    · subst hfront
      have hn : c.toNat - '0'.toNat = n := (Nat.zero_add _).symm.trans hvalue
      rw [← hn, Nat.toDigits_of_lt_base hlt, hdigit]
      rfl
    · -- A zero before others would be the first digit of the whole.
      have hhead : front.head? ≠ some '0' := by
        intro hzero
        obtain ⟨a, rest, rfl⟩ := List.exists_cons_of_ne_nil hfront
        exact List.append_ne_nil_of_right_ne_nil rest (List.cons_ne_nil c [])
          (List.cons.inj (h.head hzero)).2
      have hdecimal : IsDecimal front (valueOnto 0 front) :=
        ⟨hfront, fun d hd => h.digits d (List.mem_append_left [c] hd),
          fun hzero => absurd hzero hhead, rfl⟩
      have hdigits := ih hdecimal
      have hpos : 0 < valueOnto 0 front := by
        refine Nat.pos_of_ne_zero fun hzero => hhead ?_
        rw [hdigits, hzero, Nat.toDigits_zero]
        rfl
      rw [← hvalue, Nat.mul_comm, ← Nat.toDigits_append_toDigits (by decide) hpos hlt,
        Nat.toDigits_of_lt_base hlt, hdigit, ← hdigits]

/-- A number is written as its decimal numeral. -/
theorem isDecimal_iff {cs : List Char} {n : Nat} : IsDecimal cs n ↔ cs = (toString n).toList := by
  rw [Nat.toString_eq_repr, Nat.toList_repr]
  exact ⟨IsDecimal.eq_toDigits, fun h => h ▸ isDecimal_toDigits n⟩

end Testbed.Text
