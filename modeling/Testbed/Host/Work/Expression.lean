import Testbed.Host.Work.Regular

/-!
# Expressions of arguments

An expression is written as one argument for each of its parts. Its values are texts, and those
that spell numbers can be reckoned with.

* `Expression.evaluate` gives the value of an expression, or the `Expression.Fault` in it;
* `Expression.isNull` says whether a value counts as false.
-/

namespace Testbed.Host.Expression

/-- Why an expression has no value. -/
inductive Fault
  | missingAfter (arg : Bytes)
  | unexpected (arg : Bytes)
  | noNumber
  | divisionByZero
  | noExpression
  deriving DecidableEq, Repr

/-- The text of a fault. -/
def Fault.message : Fault → Bytes
  | .missingAfter arg => utf8 "syntax error: missing argument after '" ++ arg ++ utf8 "'"
  | .unexpected arg => utf8 "syntax error: unexpected argument '" ++ arg ++ utf8 "'"
  | .noNumber => utf8 "non-integer argument"
  | .divisionByZero => utf8 "division by zero"
  | .noExpression => utf8 "Unmatched ( or \\("

/-- The number that a text spells. -/
def number? (text : Bytes) : Option Int :=
  let negative := text.head? = some 45
  let digits := if negative then text.drop 1 else text
  if digits.isEmpty || !digits.all (fun b => 48 ≤ b && b ≤ 57) then none
  else
    let n : Nat := digits.foldl (fun n b => n * 10 + (b.toNat - 48)) 0
    some (if negative then -n else n)

/-- A number as a text. -/
def print (n : Int) : Bytes := utf8 (toString n)

/-- Whether a value is empty or zero. -/
def isNull (value : Bytes) : Bool := value.isEmpty || number? value == some 0

/-- The operators, those that bind most last. -/
def levels : List (List String) :=
  [["|"], ["&"], ["<", "<=", "=", "==", "!=", ">=", ">"], ["+", "-"], ["*", "/", "%"], [":"]]

/-- The value of a truth. -/
def truth (b : Bool) : Bytes := if b then [49] else [48]

/-- Compares two values, as numbers if both are. -/
def compare (op : String) (a b : Bytes) : Bytes :=
  let (less, same) :=
    match number? a, number? b with
    | some m, some n => (decide (m < n), m == n)
    | _, _ => (precedes a b && a != b, a == b)
  truth (match op with
    | "<" => less
    | "<=" => less || same
    | "!=" => !same
    | ">=" => !less
    | ">" => !less && !same
    | _ => same)

/-- What an expression covers at the start of a text: how much, or the part of its first group if it
has one. -/
def covered (text expression : Bytes) : Except Fault Bytes :=
  match Regular.read? false expression with
  | none => .error .noExpression
  | some r =>
    let bytes := text.toArray
    match (r.ends bytes 0).max? with
    | none => .ok (if r.hasGroup then [] else [48])
    | some e =>
      if r.hasGroup then
        .ok (match r.firstGroup? bytes 0 e with
          | some (p, q) => (bytes.extract p q).toList
          | none => [])
      else .ok (print e)

/-- Joins two values. -/
def join (op : String) (a b : Bytes) : Except Fault Bytes :=
  match op with
  | "|" => .ok (if !isNull a then a else if !isNull b then b else [48])
  | "&" => .ok (if isNull a || isNull b then [48] else a)
  | "+" | "-" | "*" | "/" | "%" =>
    match number? a, number? b with
    | some m, some n =>
      match op with
      | "+" => .ok (print (m + n))
      | "-" => .ok (print (m - n))
      | "*" => .ok (print (m * n))
      | "/" => if n = 0 then .error .divisionByZero else .ok (print (m.tdiv n))
      | _ => if n = 0 then .error .divisionByZero else .ok (print (m.tmod n))
    | _, _ => .error .noNumber
  | ":" => covered a b
  | op => .ok (compare op a b)

/-- What is left of the arguments, and the last one that was used. -/
structure State where
  args : List Bytes
  last : Bytes

/-- Evaluating an expression. -/
abbrev Evaluation := StateT State (Except Fault)

/-- Takes an argument. -/
def take : Evaluation Bytes := do
  let s ← get
  match s.args with
  | [] => throw (.missingAfter s.last)
  | a :: rest => do
    set (⟨rest, a⟩ : State)
    return a

mutual

/-- The value of operands that the given operators join, and of those in them that bind more. -/
def joined : Nat → List (List String) → Evaluation Bytes
  | 0, _ => take
  | fuel + 1, [] => operand fuel
  | fuel + 1, level :: more => do
    let a ← joined fuel more
    continued fuel level more a

/-- Goes on after a value with operators of a level. -/
def continued : Nat → List String → List (List String) → Bytes → Evaluation Bytes
  | 0, _, _, a => return a
  | fuel + 1, level, more, a => do
    let next := (← get).args.head?
    match level.find? fun op => next = some (utf8 op) with
    | none => return a
    | some op => do
      discard take
      let b ← joined fuel more
      match join op a b with
      | .error e => throw e
      | .ok value => continued fuel level more value

/-- The value of an argument, of what stands in parentheses, or of a function. -/
def operand : Nat → Evaluation Bytes
  | 0 => take
  | fuel + 1 => do
    let a ← take
    let more := !(← get).args.isEmpty
    if a = [40] then
      let value ← joined fuel levels
      let close ← take
      if close = [41] then return value else throw (.unexpected close)
    else if a = [41] then throw (.unexpected a)
    else if a = [43] && more then take
    else if a = utf8 "match" && more then
      let text ← operand fuel
      let expression ← operand fuel
      match covered text expression with
      | .error e => throw e
      | .ok value => return value
    else if a = utf8 "length" && more then return print (← operand fuel).length
    else if a = utf8 "index" && more then
      let text ← operand fuel
      let set ← operand fuel
      return print (match text.findIdx? set.contains with
        | some n => (n + 1 : Nat)
        | none => 0)
    else if a = utf8 "substr" && more then
      let text ← operand fuel
      let start ← operand fuel
      let count ← operand fuel
      return match number? start, number? count with
        | some m, some n => if m < 1 then [] else (text.drop (m.toNat - 1)).take n.toNat
        | _, _ => []
    else return a

end

/-- The value of an expression. -/
def evaluate (args : List Bytes) : Except Fault Bytes :=
  match joined (16 * args.length + 16) levels ⟨args, []⟩ with
  | .error e => .error e
  | .ok (value, s) =>
    match s.args with
    | [] => .ok value
    | a :: _ => .error (.unexpected a)

end Testbed.Host.Expression
