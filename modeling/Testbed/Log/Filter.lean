import Testbed.Log.Directive

/-!
# Which records are shown

A filter is a list of directives. Of those that are about a record wherever it stands, the
narrowest decides; where none is, the record is not shown, unless the program is in a span that a
directive singles out and whose level lets the record pass.

* `Filter.parse?` reads a filter: directives separated by commas;
* `Filter.opened` says which spans are kept, and which levels pass inside them;
* `Filter.line?` writes a record that is shown, after those of its spans that are kept.
-/

namespace Testbed.Log

/-- Directives in the order in which they were given. -/
structure Filter where
  directives : List Directive
  deriving DecidableEq, Repr

namespace Filter

/-- Errors alone, which is what a filter without directives shows. -/
def errors : Filter := ⟨[⟨none, none, none, some .error⟩]⟩

/-- Warnings and errors, which is what is shown unless another filter is asked for. -/
def warnings : Filter := ⟨[⟨none, none, none, some .warn⟩]⟩

/-- The parts of a text between commas. -/
def parts : List Char → List (List Char)
  | [] => [[]]
  | c :: rest =>
    if c == ',' then [] :: parts rest
    else
      match parts rest with
      | [] => [[c]]
      | part :: more => (c :: part) :: more

/-- Reads a filter; none if one of its directives cannot be read. -/
def parse? (s : String) : Option Filter :=
  let named := (parts s.toList).filter (!·.isEmpty)
  match named.mapM fun part => Directive.parse? (String.ofList part) with
  | none => none
  | some [] => some errors
  | some directives => some ⟨directives⟩

/-- The filter that a setting asks for: warnings if there is none or it cannot be read. -/
def ofSetting (setting : Option String) : Filter := (setting.bind parse?).getD warnings

/-- The directives that no later one replaces. -/
def standing : List Directive → List Directive
  | [] => []
  | d :: rest => if rest.any d.replaces then standing rest else d :: standing rest

/-- The narrowest of several directives, and of two equally narrow ones the later. -/
def narrowest (directives : List Directive) : Option Directive :=
  directives.foldl
    (fun best d =>
      match best with
      | none => some d
      | some b => if b.isWithin d then some d else some b)
    none

/-- Whether something of a level passes the narrowest of several directives. -/
def passesNarrowest (directives : List Directive) (level : Level) : Bool :=
  match narrowest directives with
  | none => false
  | some d => d.threshold.passes level

/-- The least important level that any directive shows. Where a directive asks for the value of a
field, every level may matter. -/
def limit (f : Filter) : Threshold :=
  if f.directives.any fun d => (d.field.bind FieldDemand.value).isSome then some .trace
  else f.directives.foldl (fun t d => t.max d.threshold) none

/-- The least important level that a directive shows that singles out spans. -/
def scopedLimit (f : Filter) : Threshold :=
  (f.directives.filter fun d => d.span.isSome || d.field.isSome).foldl
    (fun t d => t.max d.threshold) none

/-- The directives that single out a span. -/
def about (f : Filter) (s : Span) : List Directive :=
  (standing f.directives).filter (·.singlesOut s)

/-- What passes inside a span that is singled out. -/
def scopeOf (f : Filter) (s : Span) : Threshold :=
  ((f.about s).filter (·.isMetBy s)).foldl (fun t d => t.max d.threshold) none

/-- Whether something of a level passes by what is open around it. -/
def passesScopes (f : Filter) (scopes : List Threshold) (level : Level) : Bool :=
  f.scopedLimit.passes level && scopes.any (·.passes level)

/-- Whether a span is kept, where the given scopes are open around it. -/
def keeps (f : Filter) (scopes : List Threshold) (s : Span) : Bool :=
  f.limit.passes .info &&
    (!(f.about s).isEmpty || f.passesScopes scopes .info ||
      passesNarrowest ((standing f.directives).filter (·.coversSpans s.target)) .info)

/-- The spans that are kept of those that are open, the outermost first, and what passes in the
scopes that they open. -/
def opened (f : Filter) : List Threshold → List Span → List Span × List Threshold
  | scopes, [] => ([], scopes)
  | scopes, s :: rest =>
    if f.keeps scopes s then
      let r := f.opened (if (f.about s).isEmpty then scopes else f.scopeOf s :: scopes) rest
      (s :: r.1, r.2)
    else f.opened scopes rest

/-- Whether a record passes, where the given scopes are open around it. -/
def shows (f : Filter) (scopes : List Threshold) (r : Record) : Bool :=
  f.limit.passes r.level &&
    (f.passesScopes scopes r.level ||
      passesNarrowest ((standing f.directives).filter (·.covers r.target r.fieldNames)) r.level)

/-- The line of a record that passes, after those of its spans that are kept. -/
def line? (f : Filter) (spans : List Span) (r : Record) : Option String :=
  let (kept, scopes) := f.opened [] spans
  if f.shows scopes r then some (r.line kept) else none

end Filter

end Testbed.Log
