import Testbed.Proofs.Text.Decoding

/-!
# What replacement characters stand for

Bytes that are no text are read all the same, and a replacement character stands for each part that
spells nothing. Which parts these are is said here without the reader: where no character is spelled
at the front of some bytes, the part there is the longest one that begins the spelling of a
character, or a single byte if no character begins so.

* `BeginsChar` is said of bytes that begin a character, and `IsBroken` of a part that is ill-formed
  and as long as it can be.
* `ReadsAs` reads bytes by characters and ill-formed parts. Any bytes have a reading
  (`exists_readsAs`), and `readsAs_iff` says that it is the one which the lossy reader finds.
* `Pends` follows the reader inside a character; from it comes what the reader does with an
  ill-formed part (`IsBroken.lossyFrom_append`).
* `IsBroken.ge`: no byte below 80 is in an ill-formed part; `isText_append_iff`: bytes may be cut at
  one to see whether they are text.
-/

namespace Testbed.Text

/-! ## Ill-formed parts -/

/-- Bytes that begin the spelling of some character. -/
def BeginsChar (part : Bytes) : Prop := ∃ c, part <+: String.utf8EncodeChar c

/-- An ill-formed part in front of the rest of some bytes, as long as it can be. -/
structure IsBroken (part rest : Bytes) : Prop where
  /-- No character is spelled there. -/
  noChar : ∀ c, ¬ String.utf8EncodeChar c <+: part ++ rest
  /-- The part begins a character, unless it is a single byte. -/
  begins : part.length = 1 ∨ part ≠ [] ∧ BeginsChar part
  /-- Nothing longer begins a character there. -/
  longest : ∀ more, more <+: part ++ rest → BeginsChar more → more.length ≤ part.length

/-- The readings of bytes: a character for its spelling, a replacement character for each ill-formed
part. -/
inductive ReadsAs : Bytes → List Char → Prop
  | nil : ReadsAs [] []
  | char (c : Char) {rest : Bytes} {cs : List Char} (h : ReadsAs rest cs) :
    ReadsAs (String.utf8EncodeChar c ++ rest) (c :: cs)
  | broken {part rest : Bytes} {cs : List Char} (hpart : IsBroken part rest)
    (h : ReadsAs rest cs) : ReadsAs (part ++ rest) (replacement :: cs)

theorem IsBroken.ne_nil {part rest : Bytes} (h : IsBroken part rest) : part ≠ [] := by
  obtain hone | ⟨hne, -⟩ := h.begins
  · rintro rfl
    cases hone
  · exact hne

theorem encodeChar_ne_nil (c : Char) : String.utf8EncodeChar c ≠ [] := by
  intro h
  have hread := Utf8.decodeFrom_encodeChar c []
  rw [h] at hread
  cases hread

/-- If some prefix has a property, then there is a longest one that has it. -/
theorem exists_longest_prefix {α : Type} {Q : List α → Prop} {l part : List α}
    (hpart : part <+: l) (h : Q part) :
    ∃ longest, longest <+: l ∧ Q longest ∧
      ∀ more, more <+: l → Q more → more.length ≤ longest.length := by
  by_cases hlonger : ∃ more, more <+: l ∧ Q more ∧ part.length < more.length
  · obtain ⟨more, hmore, hq, hlt⟩ := hlonger
    have hle := hmore.length_le
    exact exists_longest_prefix hmore hq
  · refine ⟨part, hpart, h, fun more hmore hq => Nat.le_of_not_lt fun hlt => ?_⟩
    exact hlonger ⟨more, hmore, hq, hlt⟩
termination_by l.length - part.length

/-- Where no character is spelled there is an ill-formed part. -/
theorem exists_isBroken {bytes : Bytes} (hne : bytes ≠ [])
    (hnone : ∀ c, ¬ String.utf8EncodeChar c <+: bytes) :
    ∃ part rest, bytes = part ++ rest ∧ IsBroken part rest := by
  have hfirst : (bytes.take 1).length = 1 :=
    List.length_take_of_le (List.length_pos_iff.mpr hne)
  obtain ⟨part, ⟨rest, rfl⟩, hbegins, hlongest⟩ :=
    exists_longest_prefix (Q := fun part => part.length = 1 ∨ part ≠ [] ∧ BeginsChar part)
      (List.take_prefix 1 bytes) (.inl hfirst)
  refine ⟨part, rest, rfl, hnone, hbegins, fun more hmore hchar => ?_⟩
  by_cases hnil : more = []
  · subst hnil
    exact Nat.zero_le _
  · exact hlongest more hmore (.inr ⟨hnil, hchar⟩)

/-- Any bytes have a reading. -/
theorem exists_readsAs (bytes : Bytes) : ∃ cs, ReadsAs bytes cs := by
  induction hn : bytes.length using Nat.strongRecOn generalizing bytes with
  | ind n ih =>
    by_cases hne : bytes = []
    · exact ⟨[], hne ▸ .nil⟩
    by_cases hchar : ∃ c, String.utf8EncodeChar c <+: bytes
    · obtain ⟨c, rest, rfl⟩ := hchar
      have hpos := List.length_pos_iff.mpr (encodeChar_ne_nil c)
      rw [List.length_append] at hn
      obtain ⟨cs, hcs⟩ := ih rest.length (by omega) rest rfl
      exact ⟨c :: cs, .char c hcs⟩
    · obtain ⟨part, rest, rfl, hpart⟩ := exists_isBroken hne (not_exists.mp hchar)
      have hpos := List.length_pos_iff.mpr hpart.ne_nil
      rw [List.length_append] at hn
      obtain ⟨cs, hcs⟩ := ih rest.length (by omega) rest rfl
      exact ⟨replacement :: cs, .broken hpart hcs⟩

/-! ## The machine inside a character -/

namespace Utf8

/-- A first byte completes a character or leaves the reader inside one. -/
theorem lead_cases {b : Nat} {r : List Char × State} (h : lead b = some r) :
    (∃ c, r = ([c], .start)) ∨ ∃ next owed value, r = ([], .inside next owed value) := by
  by_cases hone : b < 0x80
  · rw [lead, if_pos hone] at h
    exact .inl ⟨_, (Option.some.inj h).symm⟩
  refine .inr ?_
  by_cases htwo : 0xC2 ≤ b ∧ b < 0xE0
  · rw [lead_two htwo.1 htwo.2] at h
    exact ⟨_, _, _, (Option.some.inj h).symm⟩
  by_cases hthree : 0xE0 ≤ b ∧ b < 0xF0
  · obtain ⟨next, hlead, -⟩ := lead_three hthree.1 hthree.2
    rw [hlead] at h
    exact ⟨_, _, _, (Option.some.inj h).symm⟩
  by_cases hfour : 0xF0 ≤ b ∧ b < 0xF5
  · obtain ⟨next, hlead, -⟩ := lead_four hfour.1 hfour.2
    rw [hlead] at h
    exact ⟨_, _, _, (Option.some.inj h).symm⟩
  · rw [lead_eq_none (by omega) (by omega)] at h
    cases h

/-- A byte that is accepted completes a character or leaves the reader inside one. -/
theorem accept_cases {s : State} {b : UInt8} {r : List Char × State} (h : accept s b = some r) :
    (∃ c, r = ([c], .start)) ∨ ∃ next owed value, r = ([], .inside next owed value) := by
  cases s with
  | start => exact lead_cases h
  | inside next owed value =>
    simp only [accept] at h
    split at h
    · cases owed with
      | zero => exact .inl ⟨_, (Option.some.inj h).symm⟩
      | succ owed => exact .inr ⟨_, _, _, (Option.some.inj h).symm⟩
    · cases h

/-- Some byte may always come next inside a character. -/
theorem Continuation.exists_byte (next : Continuation) :
    ∃ b : UInt8, next.least ≤ b.toNat ∧ b.toNat ≤ next.greatest := by
  refine ⟨UInt8.ofNat next.least, ?_⟩
  cases next <;> decide

/-- A character that is begun can be completed. -/
theorem exists_completion (next : Continuation) (owed value : Nat) :
    ∃ tail c, decodeFrom (.inside next owed value) tail = some [c] := by
  obtain ⟨b, hb⟩ := next.exists_byte
  induction owed generalizing next value b with
  | zero =>
    refine ⟨[b], Char.ofNat (value * 64 + (b.toNat - 0x80)), ?_⟩
    rw [decodeFrom_last, if_pos hb]
    rfl
  | succ owed ih =>
    obtain ⟨b', hb'⟩ := Continuation.any.exists_byte
    obtain ⟨tail, c, h⟩ := ih .any (value * 64 + (b.toNat - 0x80)) b' hb'
    refine ⟨b :: tail, c, ?_⟩
    rw [decodeFrom_more, if_pos hb, h]

/-- A byte that is accepted is the first of some bytes that complete a character. -/
theorem exists_decodeFrom_of_accept {s : State} {b : UInt8} {r : List Char × State}
    (h : accept s b = some r) : ∃ tail c, decodeFrom s (b :: tail) = some [c] := by
  obtain ⟨c, rfl⟩ | ⟨next, owed, value, rfl⟩ := accept_cases h
  · exact ⟨[], c, decodeFrom_cons_of_accept h []⟩
  · obtain ⟨tail, c, htail⟩ := exists_completion next owed value
    refine ⟨tail, c, ?_⟩
    rw [decodeFrom_cons_of_accept h, htail]
    rfl

/-- Reading `part` from one state leads to the other and completes no character on the way. -/
inductive Pends : State → Bytes → State → Prop
  | nil (s : State) : Pends s [] s
  | cons {s t u : State} {b : UInt8} {part : Bytes} (h : accept s b = some ([], t))
    (hpart : Pends t part u) : Pends s (b :: part) u

namespace Pends

variable {s u : State} {part : Bytes}

theorem lossyFrom_append (h : Pends s part u) (rest : Bytes) :
    lossyFrom s (part ++ rest) = lossyFrom u rest := by
  induction h with
  | nil s => rfl
  | cons h _ ih =>
    rw [List.cons_append, lossyFrom, feed_of_accept h, ih]
    rfl

theorem decodeFrom_append (h : Pends s part u) (rest : Bytes) :
    decodeFrom s (part ++ rest) = decodeFrom u rest := by
  induction h with
  | nil s => rfl
  | cons h _ ih =>
    rw [List.cons_append, decodeFrom_cons_of_accept h, ih]
    exact Option.map_id'

theorem eq_inside (h : Pends s part u) (hne : part ≠ []) :
    ∃ next owed value, u = .inside next owed value := by
  induction h with
  | nil s => exact absurd rfl hne
  | cons h hpart ih =>
    cases hpart with
    | nil s =>
      obtain ⟨c, hc⟩ | ⟨next, owed, value, hinside⟩ := accept_cases h
      · cases hc
      · exact ⟨next, owed, value, congrArg Prod.snd hinside⟩
    | cons h' hpart' => exact ih (List.cons_ne_nil _ _)

end Pends

/-- Reading the first bytes of one character stays inside it, unless they are all of it. -/
theorem pends_or_exists_prefix {s : State} {part tail : Bytes} {c : Char}
    (h : decodeFrom s (part ++ tail) = some [c]) :
    (∃ u, Pends s part u) ∨ ∃ front, front <+: part ∧ decodeFrom s front = some [c] := by
  induction part generalizing s with
  | nil => exact .inl ⟨s, .nil s⟩
  | cons b part ih =>
    cases haccept : accept s b with
    | none =>
      rw [List.cons_append, decodeFrom_cons_of_refuse haccept] at h
      cases h
    | some r =>
      rw [List.cons_append, decodeFrom_cons_of_accept haccept] at h
      obtain ⟨more, hmore, hc⟩ := Option.map_eq_some_iff.mp h
      obtain ⟨x, rfl⟩ | ⟨next, owed, value, rfl⟩ := accept_cases haccept
      · obtain ⟨rfl, -⟩ := List.cons.inj hc
        exact .inr ⟨[b], List.prefix_append [b] part, decodeFrom_cons_of_accept haccept []⟩
      · obtain rfl : more = [c] := hc
        obtain ⟨u, hu⟩ | ⟨front, hfront, hread⟩ := ih hmore
        · exact .inl ⟨u, .cons haccept hu⟩
        · refine .inr ⟨b :: front, List.cons_prefix_cons.mpr ⟨rfl, hfront⟩, ?_⟩
          rw [decodeFrom_cons_of_accept haccept, hread]
          rfl

/-- The bytes that are read as one character are its spelling. -/
theorem decodeFrom_eq_singleton_iff {bytes : Bytes} {c : Char} :
    decodeFrom .start bytes = some [c] ↔ bytes = String.utf8EncodeChar c := by
  rw [decodeFrom_eq_some_iff, List.flatMap_singleton]

theorem beginsChar_iff {part : Bytes} :
    BeginsChar part ↔ ∃ tail c, decodeFrom .start (part ++ tail) = some [c] := by
  simp only [BeginsChar, List.IsPrefix, decodeFrom_eq_singleton_iff]
  exact exists_comm

/-- Where a byte is refused inside a character, it is read again as the first byte of one. -/
theorem lossyFrom_cons_of_refuse {next : Continuation} {owed value : Nat} {b : UInt8}
    (h : accept (.inside next owed value) b = none) (rest : Bytes) :
    lossyFrom (.inside next owed value) (b :: rest) =
      replacement :: lossyFrom .start (b :: rest) := by
  have hstart : accept .start b = lead b.toNat := rfl
  simp only [lossyFrom, feed, h, hstart]
  cases lead b.toNat <;> rfl

end Utf8

/-! ## The lossy reader finds the reading -/

section

variable {part rest : Bytes}

open Utf8

/-- After a part that stays inside a character nothing is accepted if the part is as long as it
can be. -/
theorem IsBroken.accept_eq_none (h : IsBroken part rest) {u : State} (hu : Pends .start part u)
    {b : UInt8} {more : Bytes} (hrest : rest = b :: more) : accept u b = none := by
  refine Option.eq_none_iff_forall_ne_some.mpr fun r hr => ?_
  obtain ⟨tail, c, hread⟩ := exists_decodeFrom_of_accept hr
  rw [← hu.decodeFrom_append] at hread
  have hbegins : BeginsChar (part ++ [b]) :=
    beginsChar_iff.mpr ⟨tail, c, by rwa [List.append_assoc]⟩
  have hprefix : part ++ [b] <+: part ++ rest := ⟨more, by rw [hrest, List.append_assoc]; rfl⟩
  have hlength := h.longest _ hprefix hbegins
  rw [List.length_append, List.length_singleton] at hlength
  omega

/-- The lossy reader puts one replacement character for an ill-formed part. -/
theorem IsBroken.lossyFrom_append (h : IsBroken part rest) :
    lossyFrom .start (part ++ rest) = replacement :: lossyFrom .start rest := by
  by_cases hbegins : BeginsChar part
  · -- The reader is inside a character when the part ends, and what comes next does not fit.
    obtain ⟨tail, c, hread⟩ := beginsChar_iff.mp hbegins
    obtain ⟨u, hu⟩ | ⟨front, hfront, hc⟩ := pends_or_exists_prefix hread
    · rw [hu.lossyFrom_append]
      obtain ⟨next, owed, value, rfl⟩ := hu.eq_inside h.ne_nil
      cases hrest : rest with
      | nil => rfl
      | cons b more => exact lossyFrom_cons_of_refuse (h.accept_eq_none hu hrest) more
    · rw [decodeFrom_eq_singleton_iff.mp hc] at hfront
      exact absurd (hfront.trans (List.prefix_append part rest)) (h.noChar c)
  · -- The part is a byte with which no character begins.
    have hone : part.length = 1 := h.begins.resolve_right fun hpart => hbegins hpart.2
    obtain ⟨b, rfl⟩ := List.length_eq_one_iff.mp hone
    have haccept : accept .start b = none := by
      refine Option.eq_none_iff_forall_ne_some.mpr fun r hr => ?_
      exact hbegins (beginsChar_iff.mpr (exists_decodeFrom_of_accept hr))
    have hfeed : feed .start b = ([replacement], .start) := by simp only [feed, haccept]
    rw [List.singleton_append, lossyFrom, hfeed]
    rfl

end

/-- **The lossy reader is exact.** It finds the one reading of any bytes in which each maximal
ill-formed part becomes one replacement character. -/
theorem readsAs_iff {bytes : Bytes} {cs : List Char} :
    ReadsAs bytes cs ↔ cs = lossyChars bytes := by
  have hsound {bytes : Bytes} {cs : List Char} (h : ReadsAs bytes cs) : cs = lossyChars bytes := by
    induction h with
    | nil => rfl
    | char c _ ih =>
      have hchar := Utf8.decodeFrom_eq_singleton_iff.mpr (rfl : _ = String.utf8EncodeChar c)
      rw [lossyChars, Utf8.lossyFrom_append_of_decodeFrom hchar, ih]
      rfl
    | broken hpart _ ih => rw [lossyChars, hpart.lossyFrom_append, ih, lossyChars]
  refine ⟨hsound, fun h => ?_⟩
  obtain ⟨cs', hcs'⟩ := exists_readsAs bytes
  rw [h, ← hsound hcs']
  exact hcs'

/-- At most one character is spelled at the front of some bytes. -/
theorem eq_of_encodeChar_prefix {c d : Char} {bytes : Bytes}
    (hc : String.utf8EncodeChar c <+: bytes) (hd : String.utf8EncodeChar d <+: bytes) : c = d := by
  obtain ⟨rest, rfl⟩ := hc
  obtain ⟨rest', hbytes⟩ := hd
  obtain ⟨cs, hcs⟩ := exists_readsAs rest
  obtain ⟨ds, hds⟩ := exists_readsAs rest'
  have hcread := readsAs_iff.mp (ReadsAs.char c hcs)
  have hdread := readsAs_iff.mp (ReadsAs.char d hds)
  rw [hbytes] at hdread
  exact (List.cons.inj (hcread.trans hdread.symm)).1

/-! ## Bytes below 80 -/

/-- A byte below 80 is in the spelling of a character only if it is all of it. -/
theorem encodeChar_eq_of_mem {b : UInt8} (hb : b.toNat < 0x80) {c : Char}
    (h : b ∈ String.utf8EncodeChar c) : String.utf8EncodeChar c = [b] := by
  have hmem : b ∈ utf8 (String.singleton c) := by
    rwa [utf8, String.toList_singleton, List.flatMap_singleton]
  rw [mem_utf8_iff hb, String.toList_singleton, List.mem_singleton] at hmem
  rw [← hmem, Utf8.encodeChar_ascii hb]

/-- No byte below 80 is in an ill-formed part. -/
theorem IsBroken.ge {part rest : Bytes} (h : IsBroken part rest) {b : UInt8} (hb : b ∈ part) :
    0x80 ≤ b.toNat := by
  refine Nat.le_of_not_lt fun hlt => ?_
  have hspell := Utf8.encodeChar_ascii hlt
  -- The part would be that byte alone, which spells a character.
  have hpart : part = [b] := by
    obtain hone | ⟨hne, c, hc⟩ := h.begins
    · obtain ⟨a, rfl⟩ := List.length_eq_one_iff.mp hone
      rw [List.mem_singleton.mp hb]
    · rw [encodeChar_eq_of_mem hlt (hc.subset hb)] at hc
      exact hc.eq_of_length_le (List.length_pos_iff.mpr hne)
  refine h.noChar (Char.ofNat b.toNat) ?_
  rw [hspell, hpart]
  exact List.prefix_append [b] rest

namespace Utf8

/-- What the strict reader accepts may be cut before and after a byte below 80. -/
theorem exists_decodeFrom_of_append {s : State} {front rest : Bytes} {b : UInt8}
    (hb : b.toNat < 0x80) {cs : List Char} (h : decodeFrom s (front ++ b :: rest) = some cs) :
    (∃ as, decodeFrom s front = some as) ∧ ∃ bs, decodeFrom .start rest = some bs := by
  induction front generalizing s cs with
  | nil =>
    cases s with
    | start =>
      rw [List.nil_append, decodeFrom_ascii hb] at h
      obtain ⟨bs, hbs, -⟩ := Option.map_eq_some_iff.mp h
      exact ⟨⟨[], rfl⟩, bs, hbs⟩
    | inside next owed value =>
      obtain ⟨a, more, hmore, hleast, -⟩ := decodeFrom_inside h
      obtain ⟨rfl, -⟩ := List.cons.inj hmore
      have hge := next.least_ge
      omega
  | cons a front ih =>
    cases haccept : accept s a with
    | none =>
      rw [List.cons_append, decodeFrom_cons_of_refuse haccept] at h
      cases h
    | some r =>
      rw [List.cons_append, decodeFrom_cons_of_accept haccept] at h
      obtain ⟨more, hmore, -⟩ := Option.map_eq_some_iff.mp h
      obtain ⟨⟨as, has⟩, hrest⟩ := ih hmore
      refine ⟨⟨r.1 ++ as, ?_⟩, hrest⟩
      rw [decodeFrom_cons_of_accept haccept, has]
      rfl

end Utf8

/-- Bytes that are the bytes of some text. -/
def IsText (bytes : Bytes) : Prop := ∃ s, bytes = utf8 s

/-- Bytes are text exactly if what stands before and after a byte below 80 is. -/
theorem isText_append_iff {front rest : Bytes} {b : UInt8} (hb : b.toNat < 0x80) :
    IsText (front ++ b :: rest) ↔ IsText front ∧ IsText rest := by
  constructor
  · rintro ⟨s, hs⟩
    have hread : Utf8.decodeFrom .start (front ++ b :: rest) = some s.toList :=
      Utf8.decodeFrom_eq_some_iff.mpr hs
    obtain ⟨⟨as, has⟩, bs, hbs⟩ := Utf8.exists_decodeFrom_of_append hb hread
    refine ⟨⟨String.ofList as, ?_⟩, String.ofList bs, ?_⟩
    · rw [utf8, String.toList_ofList]
      exact Utf8.decodeFrom_eq_some_iff.mp has
    · rw [utf8, String.toList_ofList]
      exact Utf8.decodeFrom_eq_some_iff.mp hbs
  · rintro ⟨⟨s, rfl⟩, t, rfl⟩
    refine ⟨s ++ String.singleton (Char.ofNat b.toNat) ++ t, ?_⟩
    have hbyte : utf8 (String.singleton (Char.ofNat b.toNat)) = [b] := by
      rw [utf8, String.toList_singleton, List.flatMap_singleton, Utf8.encodeChar_ascii hb]
    rw [utf8_append, utf8_append, hbyte, List.append_assoc]
    rfl

end Testbed.Text
