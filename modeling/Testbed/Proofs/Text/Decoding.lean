import Testbed.Text.Utf8

/-!
# Text and its bytes

Reading well-formed bytes and writing a text are inverse to each other, so a text has one
spelling. The lossy reader agrees with the strict one wherever it puts no replacement character,
which is why bytes whose text holds none are determined by that text.

* `decodeFrom_encodeChar`: the reader takes the bytes of a character for that character.
* `bytes_of_decodeFrom`: what the reader accepts is spelled by the bytes of its characters.
* `decode?_eq_some_iff` and `lossy_utf8` put the two together for whole texts.
* `eq_utf8_of_lossy`: a lossy text without replacement characters stands for one byte string only.
* `toList_of_utf8_eq` and `mem_utf8_iff`: a character of one byte is never a part of another one.
-/

namespace Testbed.Text

namespace Utf8

/-! ## One byte inside a character -/

theorem decodeFrom_last (next : Continuation) (value : Nat) (b : UInt8) (rest : Bytes) :
    decodeFrom (.inside next 0 value) (b :: rest) =
      if next.least ≤ b.toNat ∧ b.toNat ≤ next.greatest then
        (decodeFrom .start rest).map (Char.ofNat (value * 64 + (b.toNat - 0x80)) :: ·)
      else none := by
  by_cases h : next.least ≤ b.toNat ∧ b.toNat ≤ next.greatest
  · simp only [decodeFrom, accept, if_pos h]
    rfl
  · simp only [decodeFrom, accept, if_neg h]

theorem decodeFrom_more (next : Continuation) (owed value : Nat) (b : UInt8) (rest : Bytes) :
    decodeFrom (.inside next (owed + 1) value) (b :: rest) =
      if next.least ≤ b.toNat ∧ b.toNat ≤ next.greatest then
        decodeFrom (.inside .any owed (value * 64 + (b.toNat - 0x80))) rest
      else none := by
  by_cases h : next.least ≤ b.toNat ∧ b.toNat ≤ next.greatest
  · simp only [decodeFrom, accept, if_pos h]
    exact Option.map_id'
  · simp only [decodeFrom, accept, if_neg h]

/-- A first byte that opens a character. -/
theorem decodeFrom_open {b : UInt8} {s : State} (h : lead b.toNat = some ([], s)) (rest : Bytes) :
    decodeFrom .start (b :: rest) = decodeFrom s rest := by
  simp only [decodeFrom, accept, h]
  exact Option.map_id'

/-- A first byte that stands for itself. -/
theorem decodeFrom_ascii {b : UInt8} (h : b.toNat < 0x80) (rest : Bytes) :
    decodeFrom .start (b :: rest) = (decodeFrom .start rest).map (Char.ofNat b.toNat :: ·) := by
  simp only [decodeFrom, accept, lead, if_pos h]
  rfl

/-! ## The first byte of a character -/

theorem lead_two {b : Nat} (h : 0xC2 ≤ b) (h' : b < 0xE0) :
    lead b = some ([], .inside .any 0 (b - 0xC0)) := by
  rw [lead, if_neg (by omega), if_neg (by omega), if_pos h']

/-- The first of three bytes: two of them narrow the range of the second. -/
theorem lead_three {b : Nat} (h : 0xE0 ≤ b) (h' : b < 0xF0) :
    ∃ next : Continuation, lead b = some ([], .inside next 1 (b - 0xE0)) ∧
      ∀ n, (next.least ≤ n ∧ n ≤ next.greatest) ↔
        (b = 0xE0 → 0xA0 ≤ n) ∧ (b = 0xED → n ≤ 0x9F) ∧ 0x80 ≤ n ∧ n ≤ 0xBF := by
  rw [lead, if_neg (by omega), if_neg (by omega), if_neg (by omega)]
  by_cases h₀ : b = 0xE0
  · subst h₀
    refine ⟨.afterE0, rfl, fun n => ?_⟩
    show (0xA0 ≤ n ∧ n ≤ 0xBF) ↔ _
    omega
  · rw [if_neg h₀]
    by_cases h₁ : b = 0xED
    · subst h₁
      refine ⟨.afterED, rfl, fun n => ?_⟩
      show (0x80 ≤ n ∧ n ≤ 0x9F) ↔ _
      omega
    · rw [if_neg h₁, if_pos h']
      refine ⟨.any, rfl, fun n => ?_⟩
      show (0x80 ≤ n ∧ n ≤ 0xBF) ↔ _
      omega

/-- The first of four bytes: two of them narrow the range of the second. -/
theorem lead_four {b : Nat} (h : 0xF0 ≤ b) (h' : b < 0xF5) :
    ∃ next : Continuation, lead b = some ([], .inside next 2 (b - 0xF0)) ∧
      ∀ n, (next.least ≤ n ∧ n ≤ next.greatest) ↔
        (b = 0xF0 → 0x90 ≤ n) ∧ (b = 0xF4 → n ≤ 0x8F) ∧ 0x80 ≤ n ∧ n ≤ 0xBF := by
  rw [lead, if_neg (by omega), if_neg (by omega), if_neg (by omega), if_neg (by omega),
    if_neg (by omega), if_neg (by omega)]
  by_cases h₀ : b = 0xF0
  · subst h₀
    refine ⟨.afterF0, rfl, fun n => ?_⟩
    show (0x90 ≤ n ∧ n ≤ 0xBF) ↔ _
    omega
  · rw [if_neg h₀]
    by_cases h₁ : b = 0xF4
    · subst h₁
      refine ⟨.afterF4, rfl, fun n => ?_⟩
      show (0x80 ≤ n ∧ n ≤ 0x8F) ↔ _
      omega
    · rw [if_pos (by omega)]
      refine ⟨.any, rfl, fun n => ?_⟩
      show (0x80 ≤ n ∧ n ≤ 0xBF) ↔ _
      omega

/-- No other byte starts a character. -/
theorem lead_eq_none {b : Nat} (h : 0x80 ≤ b) (h' : b < 0xC2 ∨ 0xF5 ≤ b) : lead b = none := by
  unfold lead
  split
  · omega
  · split
    · rfl
    · rw [if_neg (by omega), if_neg (by omega), if_neg (by omega), if_neg (by omega),
        if_neg (by omega), if_neg (by omega), if_neg (by omega)]

/-! ## Well-formed sequences of bytes -/

/-- A byte that continues a character, in whatever state it is not narrowed further. -/
def IsTail (b : UInt8) : Prop := 0x80 ≤ b.toNat ∧ b.toNat ≤ 0xBF

theorem IsTail.of_any {b : UInt8} (h : IsTail b) :
    Continuation.any.least ≤ b.toNat ∧ b.toNat ≤ Continuation.any.greatest := h

/-- Two bytes that spell a character. -/
def IsPair (a b : UInt8) : Prop := 0xC2 ≤ a.toNat ∧ a.toNat < 0xE0 ∧ IsTail b

/-- Three bytes that spell a character: no shorter spelling of it exists, and it is no
surrogate. -/
def IsTriple (a b c : UInt8) : Prop :=
  0xE0 ≤ a.toNat ∧ a.toNat < 0xF0 ∧ (a.toNat = 0xE0 → 0xA0 ≤ b.toNat) ∧
    (a.toNat = 0xED → b.toNat ≤ 0x9F) ∧ IsTail b ∧ IsTail c

/-- Four bytes that spell a character: no shorter spelling of it exists, and it is not beyond the
last one. -/
def IsQuadruple (a b c d : UInt8) : Prop :=
  0xF0 ≤ a.toNat ∧ a.toNat < 0xF5 ∧ (a.toNat = 0xF0 → 0x90 ≤ b.toNat) ∧
    (a.toNat = 0xF4 → b.toNat ≤ 0x8F) ∧ IsTail b ∧ IsTail c ∧ IsTail d

/-- The number of the character that two bytes spell. -/
def pairValue (a b : UInt8) : Nat := (a.toNat - 0xC0) * 64 + (b.toNat - 0x80)

/-- The number of the character that three bytes spell. -/
def tripleValue (a b c : UInt8) : Nat :=
  ((a.toNat - 0xE0) * 64 + (b.toNat - 0x80)) * 64 + (c.toNat - 0x80)

/-- The number of the character that four bytes spell. -/
def quadrupleValue (a b c d : UInt8) : Nat :=
  (((a.toNat - 0xF0) * 64 + (b.toNat - 0x80)) * 64 + (c.toNat - 0x80)) * 64 + (d.toNat - 0x80)

theorem decodeFrom_pair {a b : UInt8} (h : IsPair a b) (rest : Bytes) :
    decodeFrom .start (a :: b :: rest) =
      (decodeFrom .start rest).map (Char.ofNat (pairValue a b) :: ·) := by
  obtain ⟨ha, ha', hb⟩ := h
  rw [decodeFrom_open (lead_two ha ha'), decodeFrom_last, if_pos hb.of_any]
  rfl

theorem decodeFrom_triple {a b c : UInt8} (h : IsTriple a b c) (rest : Bytes) :
    decodeFrom .start (a :: b :: c :: rest) =
      (decodeFrom .start rest).map (Char.ofNat (tripleValue a b c) :: ·) := by
  obtain ⟨ha, ha', hlow, hhigh, hb, hc⟩ := h
  obtain ⟨next, hlead, hrange⟩ := lead_three ha ha'
  have hb' : next.least ≤ b.toNat ∧ b.toNat ≤ next.greatest :=
    (hrange b.toNat).mpr ⟨hlow, hhigh, hb⟩
  rw [decodeFrom_open hlead, decodeFrom_more, if_pos hb', decodeFrom_last, if_pos hc.of_any]
  rfl

theorem decodeFrom_quadruple {a b c d : UInt8} (h : IsQuadruple a b c d) (rest : Bytes) :
    decodeFrom .start (a :: b :: c :: d :: rest) =
      (decodeFrom .start rest).map (Char.ofNat (quadrupleValue a b c d) :: ·) := by
  obtain ⟨ha, ha', hlow, hhigh, hb, hc, hd⟩ := h
  obtain ⟨next, hlead, hrange⟩ := lead_four ha ha'
  have hb' : next.least ≤ b.toNat ∧ b.toNat ≤ next.greatest :=
    (hrange b.toNat).mpr ⟨hlow, hhigh, hb⟩
  rw [decodeFrom_open hlead, decodeFrom_more, if_pos hb', decodeFrom_more, if_pos hc.of_any,
    decodeFrom_last, if_pos hd.of_any]
  rfl

/-! ## The bytes of a character -/

theorem toNat_byte {n : Nat} (h : n < 256) : (UInt8.ofNat n).toNat = n :=
  UInt8.toNat_ofNat_of_lt' h

/-- The bytes of a character are read as that character. -/
theorem decodeFrom_encodeChar (c : Char) (rest : Bytes) :
    decodeFrom .start (String.utf8EncodeChar c ++ rest) =
      (decodeFrom .start rest).map (c :: ·) := by
  have hvalid : c.val.toNat < 0xD800 ∨ (0xDFFF < c.val.toNat ∧ c.val.toNat < 0x110000) := c.valid
  have hc : Char.ofNat c.val.toNat = c := Char.ofNat_toNat c
  unfold String.utf8EncodeChar
  generalize c.val.toNat = v at hvalid hc
  simp only
  split
  · next h =>
    have h₁ := toNat_byte (n := v) (by omega)
    rw [List.cons_append, List.nil_append, decodeFrom_ascii (by omega), h₁, hc]
  split
  · next h₀ h =>
    have h₁ := toNat_byte (n := v / 64 % 0x20 + 0xc0) (by omega)
    have h₂ := toNat_byte (n := v % 0x40 + 0x80) (by omega)
    generalize UInt8.ofNat (v / 64 % 0x20 + 0xc0) = b₁ at h₁
    generalize UInt8.ofNat (v % 0x40 + 0x80) = b₂ at h₂
    have hv : pairValue b₁ b₂ = v := by unfold pairValue; omega
    have hpair : IsPair b₁ b₂ := by unfold IsPair IsTail; omega
    rw [← hc, ← hv]
    exact decodeFrom_pair hpair rest
  split
  · next h₂ h₁ h =>
    have h₃ := toNat_byte (n := v / 4096 % 0x10 + 0xe0) (by omega)
    have h₄ := toNat_byte (n := v / 64 % 0x40 + 0x80) (by omega)
    have h₅ := toNat_byte (n := v % 0x40 + 0x80) (by omega)
    generalize UInt8.ofNat (v / 4096 % 0x10 + 0xe0) = b₁ at h₃
    generalize UInt8.ofNat (v / 64 % 0x40 + 0x80) = b₂ at h₄
    generalize UInt8.ofNat (v % 0x40 + 0x80) = b₃ at h₅
    have hv : tripleValue b₁ b₂ b₃ = v := by unfold tripleValue; omega
    have htriple : IsTriple b₁ b₂ b₃ := by unfold IsTriple IsTail; omega
    rw [← hc, ← hv]
    exact decodeFrom_triple htriple rest
  · next h₂ h₁ h =>
    have h₃ := toNat_byte (n := v / 262144 % 0x08 + 0xf0) (by omega)
    have h₄ := toNat_byte (n := v / 4096 % 0x40 + 0x80) (by omega)
    have h₅ := toNat_byte (n := v / 64 % 0x40 + 0x80) (by omega)
    have h₆ := toNat_byte (n := v % 0x40 + 0x80) (by omega)
    generalize UInt8.ofNat (v / 262144 % 0x08 + 0xf0) = b₁ at h₃
    generalize UInt8.ofNat (v / 4096 % 0x40 + 0x80) = b₂ at h₄
    generalize UInt8.ofNat (v / 64 % 0x40 + 0x80) = b₃ at h₅
    generalize UInt8.ofNat (v % 0x40 + 0x80) = b₄ at h₆
    have hv : quadrupleValue b₁ b₂ b₃ b₄ = v := by unfold quadrupleValue; omega
    have hquadruple : IsQuadruple b₁ b₂ b₃ b₄ := by unfold IsQuadruple IsTail; omega
    rw [← hc, ← hv]
    exact decodeFrom_quadruple hquadruple rest

/-! ## The characters of bytes -/

/-- The character of a number that belongs to one. -/
theorem toNat_ofNat {n : Nat} (h : n.isValidChar) : (Char.ofNat n).val.toNat = n := by
  rw [Char.ofNat, dif_pos h]
  rfl

theorem byte_eq {n : Nat} {b : UInt8} (h : n = b.toNat) : UInt8.ofNat n = b := by
  rw [h, UInt8.ofNat_toNat]

theorem encodeChar_ascii {b : UInt8} (h : b.toNat < 0x80) :
    String.utf8EncodeChar (Char.ofNat b.toNat) = [b] := by
  have hn : (Char.ofNat b.toNat).val.toNat = b.toNat := toNat_ofNat (.inl (by omega))
  unfold String.utf8EncodeChar
  simp only [hn]
  rw [if_pos (by omega), UInt8.ofNat_toNat]

theorem encodeChar_pair {a b : UInt8} (h : IsPair a b) :
    String.utf8EncodeChar (Char.ofNat (pairValue a b)) = [a, b] := by
  obtain ⟨ha, ha', hb, hb'⟩ := h
  have hv : pairValue a b = (a.toNat - 0xC0) * 64 + (b.toNat - 0x80) := rfl
  generalize pairValue a b = v at hv
  have hn : (Char.ofNat v).val.toNat = v := toNat_ofNat (.inl (by omega))
  unfold String.utf8EncodeChar
  simp only [hn]
  rw [if_neg (by omega), if_pos (by omega), byte_eq (b := a) (by omega),
    byte_eq (b := b) (by omega)]

theorem encodeChar_triple {a b c : UInt8} (h : IsTriple a b c) :
    String.utf8EncodeChar (Char.ofNat (tripleValue a b c)) = [a, b, c] := by
  obtain ⟨ha, ha', hlow, hhigh, ⟨hb, hb'⟩, hc, hc'⟩ := h
  have hv : tripleValue a b c =
    ((a.toNat - 0xE0) * 64 + (b.toNat - 0x80)) * 64 + (c.toNat - 0x80) := rfl
  generalize tripleValue a b c = v at hv
  have hvalid : v < 0xD800 ∨ (0xDFFF < v ∧ v < 0x110000) := by omega
  have hn : (Char.ofNat v).val.toNat = v := toNat_ofNat hvalid
  unfold String.utf8EncodeChar
  simp only [hn]
  rw [if_neg (by omega), if_neg (by omega), if_pos (by omega), byte_eq (b := a) (by omega),
    byte_eq (b := b) (by omega), byte_eq (b := c) (by omega)]

theorem encodeChar_quadruple {a b c d : UInt8} (h : IsQuadruple a b c d) :
    String.utf8EncodeChar (Char.ofNat (quadrupleValue a b c d)) = [a, b, c, d] := by
  obtain ⟨ha, ha', hlow, hhigh, ⟨hb, hb'⟩, ⟨hc, hc'⟩, hd, hd'⟩ := h
  have hv : quadrupleValue a b c d =
    (((a.toNat - 0xF0) * 64 + (b.toNat - 0x80)) * 64 + (c.toNat - 0x80)) * 64 +
      (d.toNat - 0x80) := rfl
  generalize quadrupleValue a b c d = v at hv
  have hvalid : v < 0xD800 ∨ (0xDFFF < v ∧ v < 0x110000) := by omega
  have hn : (Char.ofNat v).val.toNat = v := toNat_ofNat hvalid
  unfold String.utf8EncodeChar
  simp only [hn]
  rw [if_neg (by omega), if_neg (by omega), if_neg (by omega), byte_eq (b := a) (by omega),
    byte_eq (b := b) (by omega), byte_eq (b := c) (by omega), byte_eq (b := d) (by omega)]

/-! ## What the strict reader accepts -/

/-- Inside a character the reader accepts a byte in its range only. -/
theorem decodeFrom_inside {next : Continuation} {owed value : Nat} {bytes : Bytes}
    {cs : List Char} (h : decodeFrom (.inside next owed value) bytes = some cs) :
    ∃ b rest, bytes = b :: rest ∧ next.least ≤ b.toNat ∧ b.toNat ≤ next.greatest := by
  cases bytes with
  | nil => simp [decodeFrom] at h
  | cons b rest =>
    refine ⟨b, rest, rfl, ?_⟩
    refine Decidable.byContradiction fun hnot => ?_
    simp only [decodeFrom, accept, if_neg hnot] at h
    cases h

/-- Text that the strict reader accepts starts with the bytes of its first character. -/
theorem decodeFrom_start {bytes : Bytes} {cs : List Char}
    (h : decodeFrom .start bytes = some cs) :
    (bytes = [] ∧ cs = []) ∨ ∃ c front rest more, bytes = front ++ rest ∧ front ≠ [] ∧
      String.utf8EncodeChar c = front ∧ decodeFrom .start rest = some more ∧ cs = c :: more := by
  cases bytes with
  | nil =>
    have hcs : some [] = some cs := h
    exact .inl ⟨rfl, (Option.some.inj hcs).symm⟩
  | cons a rest =>
    refine .inr ?_
    by_cases hascii : a.toNat < 0x80
    · rw [decodeFrom_ascii hascii] at h
      obtain ⟨more, hmore, hcs⟩ := Option.map_eq_some_iff.mp h
      exact ⟨_, [a], rest, more, rfl, by simp, encodeChar_ascii hascii, hmore, hcs.symm⟩
    by_cases hpair : 0xC2 ≤ a.toNat ∧ a.toNat < 0xE0
    · obtain ⟨ha, ha'⟩ := hpair
      rw [decodeFrom_open (lead_two ha ha')] at h
      obtain ⟨b, rest, rfl, hb⟩ := decodeFrom_inside h
      have hspell : IsPair a b := ⟨ha, ha', hb⟩
      rw [decodeFrom_last, if_pos hb] at h
      obtain ⟨more, hmore, hcs⟩ := Option.map_eq_some_iff.mp h
      exact ⟨_, [a, b], rest, more, rfl, by simp, encodeChar_pair hspell, hmore, hcs.symm⟩
    by_cases htriple : 0xE0 ≤ a.toNat ∧ a.toNat < 0xF0
    · obtain ⟨ha, ha'⟩ := htriple
      obtain ⟨next, hlead, hrange⟩ := lead_three ha ha'
      rw [decodeFrom_open hlead] at h
      obtain ⟨b, rest, rfl, hb⟩ := decodeFrom_inside h
      rw [decodeFrom_more, if_pos hb] at h
      obtain ⟨c, rest, rfl, hc⟩ := decodeFrom_inside h
      rw [decodeFrom_last, if_pos hc] at h
      obtain ⟨hlow, hhigh, hb⟩ := (hrange b.toNat).mp hb
      have hspell : IsTriple a b c := ⟨ha, ha', hlow, hhigh, hb, hc⟩
      obtain ⟨more, hmore, hcs⟩ := Option.map_eq_some_iff.mp h
      exact ⟨_, [a, b, c], rest, more, rfl, by simp, encodeChar_triple hspell, hmore, hcs.symm⟩
    by_cases hquadruple : 0xF0 ≤ a.toNat ∧ a.toNat < 0xF5
    · obtain ⟨ha, ha'⟩ := hquadruple
      obtain ⟨next, hlead, hrange⟩ := lead_four ha ha'
      rw [decodeFrom_open hlead] at h
      obtain ⟨b, rest, rfl, hb⟩ := decodeFrom_inside h
      rw [decodeFrom_more, if_pos hb] at h
      obtain ⟨c, rest, rfl, hc⟩ := decodeFrom_inside h
      rw [decodeFrom_more, if_pos hc] at h
      obtain ⟨d, rest, rfl, hd⟩ := decodeFrom_inside h
      rw [decodeFrom_last, if_pos hd] at h
      obtain ⟨hlow, hhigh, hb⟩ := (hrange b.toNat).mp hb
      have hspell : IsQuadruple a b c d := ⟨ha, ha', hlow, hhigh, hb, hc, hd⟩
      obtain ⟨more, hmore, hcs⟩ := Option.map_eq_some_iff.mp h
      exact ⟨_, [a, b, c, d], rest, more, rfl, by simp, encodeChar_quadruple hspell, hmore,
        hcs.symm⟩
    have hnone : lead a.toNat = none := lead_eq_none (by omega) (by omega)
    simp only [decodeFrom, accept, hnone] at h
    cases h

/-- What the strict reader accepts is spelled by the bytes of its characters. -/
theorem bytes_of_decodeFrom {bytes : Bytes} {cs : List Char}
    (h : decodeFrom .start bytes = some cs) : bytes = cs.flatMap String.utf8EncodeChar := by
  induction cs generalizing bytes with
  | nil =>
    obtain ⟨rfl, -⟩ | ⟨c, front, rest, more, -, -, -, -, hcs⟩ := decodeFrom_start h
    · rfl
    · exact nomatch hcs
  | cons c cs ih =>
    obtain ⟨-, hcs⟩ | ⟨c', front, rest, more, rfl, -, hfront, hrest, hcs⟩ := decodeFrom_start h
    · exact nomatch hcs
    · obtain ⟨rfl, rfl⟩ := List.cons.inj hcs
      rw [List.flatMap_cons, hfront, ih hrest]

theorem decodeFrom_utf8 (cs : List Char) :
    decodeFrom .start (cs.flatMap String.utf8EncodeChar) = some cs := by
  induction cs with
  | nil => rfl
  | cons c cs ih =>
    rw [List.flatMap_cons, decodeFrom_encodeChar, ih]
    rfl

/-- The strict reader accepts just the spelling of the characters that it reads. -/
theorem decodeFrom_eq_some_iff {bytes : Bytes} {cs : List Char} :
    decodeFrom .start bytes = some cs ↔ bytes = cs.flatMap String.utf8EncodeChar :=
  ⟨bytes_of_decodeFrom, fun h => h ▸ decodeFrom_utf8 cs⟩

/-- The strict reader reads on after a byte that it accepts. -/
theorem decodeFrom_cons_of_accept {s : State} {b : UInt8} {r : List Char × State}
    (h : accept s b = some r) (rest : Bytes) :
    decodeFrom s (b :: rest) = (decodeFrom r.2 rest).map (r.1 ++ ·) := by
  cases s <;> simp only [decodeFrom, h]

/-- The strict reader refuses all that follows a byte which it does not accept. -/
theorem decodeFrom_cons_of_refuse {s : State} {b : UInt8} (h : accept s b = none)
    (rest : Bytes) : decodeFrom s (b :: rest) = none := by
  cases s <;> simp only [decodeFrom, h]

/-! ## The lossy reader -/

/-- The lossy reader takes a byte that the strict one accepts as that one does. -/
theorem feed_of_accept {s : State} {b : UInt8} {r : List Char × State}
    (h : accept s b = some r) : feed s b = r := by
  simp only [feed, h]

/-- Where the lossy reader puts no replacement character, it reads as the strict one does. -/
theorem decodeFrom_of_clean {s : State} {bytes : Bytes} (h : replacement ∉ lossyFrom s bytes) :
    decodeFrom s bytes = some (lossyFrom s bytes) := by
  induction bytes generalizing s with
  | nil =>
    cases s with
    | start => rfl
    | inside next owed value => exact absurd (List.mem_singleton.mpr rfl) h
  | cons b rest ih =>
    rw [lossyFrom, List.mem_append, not_or] at h
    obtain ⟨hb, hrest⟩ := h
    rw [lossyFrom]
    cases haccept : accept s b with
    | some r =>
      rw [feed_of_accept haccept] at hrest ⊢
      rw [decodeFrom_cons_of_accept haccept, ih hrest]
      rfl
    | none =>
      refine absurd ?_ hb
      cases s with
      | start => simp only [feed, haccept, List.mem_singleton]
      | inside next owed value =>
        simp only [feed, haccept]
        split
        · exact List.mem_cons_self
        · exact List.mem_cons_self

/-- What the strict reader accepts is read alike by the lossy one, whatever comes after it. -/
theorem lossyFrom_append_of_decodeFrom {s : State} {front : Bytes} {cs : List Char}
    (h : decodeFrom s front = some cs) (rest : Bytes) :
    lossyFrom s (front ++ rest) = cs ++ lossyFrom .start rest := by
  induction front generalizing s cs with
  | nil =>
    cases s with
    | start =>
      obtain rfl : [] = cs := Option.some.inj h
      rfl
    | inside next owed value => exact nomatch h
  | cons b front ih =>
    cases haccept : accept s b with
    | none =>
      rw [decodeFrom_cons_of_refuse haccept] at h
      cases h
    | some r =>
      rw [decodeFrom_cons_of_accept haccept] at h
      obtain ⟨more, hmore, rfl⟩ := Option.map_eq_some_iff.mp h
      rw [List.cons_append, lossyFrom, feed_of_accept haccept, ih hmore, List.append_assoc]

/-- What the strict reader accepts is read alike by the lossy one. -/
theorem lossyFrom_of_decodeFrom {s : State} {bytes : Bytes} {cs : List Char}
    (h : decodeFrom s bytes = some cs) : lossyFrom s bytes = cs := by
  have happend := lossyFrom_append_of_decodeFrom h []
  rwa [List.append_nil, lossyFrom, finish, List.append_nil] at happend

end Utf8

/-- Bytes are well-formed exactly if they spell a text, and then they are read as that text. -/
theorem decode?_eq_some_iff {bytes : Bytes} {s : String} :
    decode? bytes = some s ↔ bytes = utf8 s := by
  constructor
  · intro h
    obtain ⟨cs, hcs, hs⟩ := Option.map_eq_some_iff.mp h
    rw [Utf8.bytes_of_decodeFrom hcs, utf8, ← hs, String.toList_ofList]
  · rintro rfl
    rw [decode?, utf8, Utf8.decodeFrom_utf8, Option.map_some, String.ofList_toList]

/-- The lossy reader gives back a text from its bytes. -/
@[simp]
theorem lossy_utf8 (s : String) : lossy (utf8 s) = s := by
  rw [lossy, lossyChars, utf8, Utf8.lossyFrom_of_decodeFrom (Utf8.decodeFrom_utf8 s.toList),
    String.ofList_toList]

/-- Bytes whose text holds no replacement character are the bytes of that text. -/
theorem eq_utf8_of_lossy {bytes : Bytes} {s : String} (h : lossy bytes = s)
    (hclean : replacement ∉ s.toList) : bytes = utf8 s := by
  have hs : s.toList = Utf8.lossyFrom .start bytes := by
    rw [← h, lossy, String.toList_ofList, lossyChars]
  rw [hs] at hclean
  rw [utf8, hs]
  exact Utf8.bytes_of_decodeFrom (Utf8.decodeFrom_of_clean hclean)

/-- Different texts have different bytes. -/
theorem utf8_injective {s t : String} (h : utf8 s = utf8 t) : s = t := by
  rw [← lossy_utf8 s, h, lossy_utf8]

/-- A byte below 80 in the bytes of a text stands for its character there. -/
theorem toList_of_utf8_eq {s : String} {front rest : Bytes} {b : UInt8} (hb : b.toNat < 0x80)
    (h : utf8 s = front ++ b :: rest) :
    s.toList = lossyChars front ++ Char.ofNat b.toNat :: lossyChars rest := by
  have hs : (lossy (utf8 s)).toList = s.toList := by rw [lossy_utf8]
  rw [lossy, String.toList_ofList, lossyChars, h, Utf8.lossyFrom_append_ascii _ _ hb] at hs
  exact hs.symm

/-- A byte below 80 stands in the bytes of a text exactly if its character stands in the text. -/
theorem mem_utf8_iff {b : UInt8} (h : b.toNat < 0x80) (s : String) :
    b ∈ utf8 s ↔ Char.ofNat b.toNat ∈ s.toList := by
  constructor
  · intro hb
    obtain ⟨front, rest, hsplit⟩ := List.append_of_mem hb
    rw [toList_of_utf8_eq h hsplit]
    exact List.mem_append_right _ List.mem_cons_self
  · intro hc
    refine List.mem_flatMap.mpr ⟨_, hc, ?_⟩
    rw [Utf8.encodeChar_ascii h]
    exact List.mem_singleton_self b

end Testbed.Text
