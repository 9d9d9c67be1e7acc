import Testbed.Bytes

/-!
# Paths

A path is a byte string in which slashes separate components. Joining works on the bytes as they
stand: nothing is normalised, an absolute right side replaces the left one, and an empty right
side leaves a slash at the end.

* `Path.join` joins two paths, and `Path.join_assoc` says that brackets do not matter;
* `FileName` is a name that a directory entry can have;
* `Path.components` lists the steps that a path takes through the directory tree.
-/

namespace Testbed

/-- The byte that separates the components of a path. -/
def slash : UInt8 := 47

/-- The byte that ends a string of the operating system, so that no string may hold it. -/
def nul : UInt8 := 0

/-- The name that every directory has for itself: a dot. -/
def selfName : Bytes := [46]

/-- The name that every directory has for the one above it: two dots. -/
def parentName : Bytes := [46, 46]

/-- A path as the operating system takes it. -/
abbrev Path := Bytes

namespace Path

/-- A path that starts with a slash starts at the root of the directory tree. -/
def isAbsolute (p : Path) : Bool := p.head? == some slash

/-- Whether a path ends with a slash. -/
def endsWithSlash (p : Path) : Bool := p.getLast? == some slash

/-- What stands between a path and what is joined to it: a slash, unless the path is empty or
ends with one. -/
def glue (p : Path) : Path := if p = [] ∨ p.getLast? = some slash then [] else [slash]

/-- `right` as seen from `left`: an absolute path stands for itself, another one follows `left`
after a slash. -/
def join (left right : Path) : Path :=
  if isAbsolute right then right else left ++ glue left ++ right

/-- The parts between the slashes of a path. -/
def pieces : Path → List Bytes
  | [] => [[]]
  | b :: rest =>
    if b == slash then [] :: pieces rest
    else
      match pieces rest with
      | [] => [[b]]
      | piece :: more => (b :: piece) :: more

theorem join_absolute {left right : Path} (h : isAbsolute right = true) :
    join left right = right := by
  simp [join, h]

theorem join_relative {left right : Path} (h : isAbsolute right = false) :
    join left right = left ++ glue left ++ right := by
  simp [join, h]

theorem glue_nil : glue [] = [] := by simp [glue]

/-- Whatever follows a path and its glue decides alone about the glue after it. -/
theorem glue_append (front back : Path) : glue (front ++ glue front ++ back) = glue back := by
  rcases List.eq_nil_or_concat back with rfl | ⟨init, last, rfl⟩
  · by_cases h : front = [] ∨ front.getLast? = some slash <;> simp [glue, h]
  · simp [glue, ← List.append_assoc]

/-- What is joined to an absolute path is absolute. -/
theorem isAbsolute_join {left : Path} (right : Path) (h : isAbsolute left = true) :
    isAbsolute (join left right) = true := by
  unfold join
  split
  · assumption
  · cases left with
    | nil => simp [isAbsolute] at h
    | cons b rest => simpa [isAbsolute] using h

/-- Relative paths join to a relative path. -/
theorem isAbsolute_join_relative {left right : Path} (hl : isAbsolute left = false)
    (hr : isAbsolute right = false) : isAbsolute (join left right) = false := by
  rw [join_relative hr]
  cases left with
  | nil => simpa [glue_nil] using hr
  | cons b rest => simpa [isAbsolute] using hl

/-- Joining is associative, whatever the three paths are. -/
theorem join_assoc (a b c : Path) : join (join a b) c = join a (join b c) := by
  cases hc : isAbsolute c with
  | true => simp [join_absolute hc]
  | false =>
    cases hb : isAbsolute b with
    | true => rw [join_absolute hb, join_absolute (isAbsolute_join c hb)]
    | false =>
      rw [join_relative hb, join_relative hc, join_relative (isAbsolute_join_relative hb hc),
        join_relative hc, glue_append]
      simp

end Path

/-- What a directory entry can be called: a byte string that is neither empty nor one of the two
names that every directory has, without slash and end byte, of at most 255 bytes. -/
def IsFileName (b : Bytes) : Prop :=
  b ≠ [] ∧ slash ∉ b ∧ nul ∉ b ∧ b ≠ selfName ∧ b ≠ parentName ∧ b.length ≤ 255

instance (b : Bytes) : Decidable (IsFileName b) := inferInstanceAs (Decidable (_ ∧ _))

/-- The name of a directory entry. -/
structure FileName where
  bytes : Bytes
  valid : IsFileName bytes
  deriving DecidableEq

namespace FileName

/-- A byte string as a file name, if it can be one. -/
def ofBytes? (b : Bytes) : Option FileName :=
  if h : IsFileName b then some ⟨b, h⟩ else none

@[ext]
theorem ext_bytes {m n : FileName} (h : m.bytes = n.bytes) : m = n := by
  cases m; cases n; simp_all

theorem ofBytes?_bytes (n : FileName) : ofBytes? n.bytes = some n := by
  simp [ofBytes?, n.valid]

/-- A file name does not start at the root. -/
theorem not_isAbsolute (n : FileName) : Path.isAbsolute n.bytes = false := by
  have h := n.valid.2.1
  cases hb : n.bytes with
  | nil => simp [Path.isAbsolute]
  | cons b rest =>
    rw [hb] at h
    simp only [List.mem_cons, not_or] at h
    simp only [Path.isAbsolute, List.head?_cons, beq_eq_false_iff_ne, ne_eq, Option.some.injEq]
    exact fun e => h.1 e.symm

end FileName

/-- One step of a path. -/
inductive Component
  /-- Stays where it is, which must be a directory. -/
  | here
  /-- Goes to the directory above. -/
  | up
  /-- Goes to the entry of that name. -/
  | child (name : FileName)
  /-- Names no entry that can exist. -/
  | impossible
  deriving DecidableEq

namespace Path

/-- The step that a part between slashes takes; an empty part takes none. -/
def component? (piece : Bytes) : Option Component :=
  if piece = [] then none
  else if piece = selfName then some .here
  else if piece = parentName then some .up
  else
    match FileName.ofBytes? piece with
    | some name => some (.child name)
    | none => some .impossible

/-- The steps of a path, in order. A slash at the end asks for a directory, as a last step that
stays there does. -/
def components (p : Path) : List Component :=
  (pieces p).filterMap component? ++ if endsWithSlash p then [.here] else []

/-- Whether a part between slashes stands for nothing after another part. -/
def isIdle (piece : Bytes) : Bool := piece.isEmpty || piece == selfName

/-- Parts between slashes without those at the end that stand for nothing, as far as another part
stands before them. -/
def withoutIdleEnd (parts : List Bytes) : List Bytes :=
  match parts with
  | [] => []
  | first :: rest => first :: (rest.reverse.dropWhile isIdle).reverse

/-- The path whose parts between slashes are given. -/
def ofPieces : List Bytes → Path
  | [] => []
  | [piece] => if piece.isEmpty then [slash] else piece
  | piece :: rest => piece ++ slash :: (rest.intersperse [slash]).flatten

/-- The path of the directory that a path names something in: the path without its last part. A
path of one part has the empty path before it; the root and the empty path have none. -/
def parent? (p : Path) : Option Path :=
  match withoutIdleEnd (pieces p) with
  | [] => none
  | [piece] => if piece.isEmpty then none else some []
  | parts => some (ofPieces (withoutIdleEnd parts.dropLast))

/-- A path and the paths of the directories above it, the longest first, at most so many. -/
def ancestors : Nat → Path → List Path
  | 0, _ => []
  | count + 1, p =>
    match parent? p with
    | none => [p]
    | some above => p :: ancestors count above

end Path

end Testbed
