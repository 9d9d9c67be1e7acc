import Testbed.Shell.Numeral
import Testbed.Shell.Token

/-!
# Expressions in scripts

An expression is a text with numbers, variables and operators; it is evaluated from left to right
on numbers of 64 bits, and may assign to variables.

* `Arithmetic.Mark` is a token of an expression, and `Arithmetic.scan` cuts a text into them;
* `Arithmetic.Operator` lists what joins two numbers, with `rank` and `apply`;
* `Arithmetic.evaluate` gives the value of a text and the variables that it sets.
-/

namespace Testbed.Shell.Arithmetic

/-- What joins two numbers. -/
inductive Operator
  | times | divided | remainder | plus | minus | shiftLeft | shiftRight | less | lessEqual
  | greater | greaterEqual | equal | different | bitAnd | bitXor | bitOr
  deriving DecidableEq, Repr

namespace Operator

/-- Which operators bind more: those of lower rank. -/
def rank : Operator → Nat
  | .times | .divided | .remainder => 0
  | .plus | .minus => 1
  | .shiftLeft | .shiftRight => 2
  | .less | .lessEqual | .greater | .greaterEqual => 3
  | .equal | .different => 4
  | .bitAnd => 5
  | .bitXor => 6
  | .bitOr => 7

/-- More than any rank. -/
def maxRank : Nat := 8

/-- The number for a truth value. -/
def truth (b : Bool) : Int64 := if b then 1 else 0

/-- Joins two numbers; none for a division by zero. -/
def apply (op : Operator) (a b : Int64) : Option Int64 :=
  match op with
  | .times => some (a * b)
  | .divided => if b = 0 then none else some (a / b)
  | .remainder => if b = 0 then none else some (a % b)
  | .plus => some (a + b)
  | .minus => some (a - b)
  | .shiftLeft => some (a <<< b)
  | .shiftRight => some (a >>> b)
  | .less => some (truth (a < b))
  | .lessEqual => some (truth (a ≤ b))
  | .greater => some (truth (b < a))
  | .greaterEqual => some (truth (b ≤ a))
  | .equal => some (truth (a == b))
  | .different => some (truth (a != b))
  | .bitAnd => some (a &&& b)
  | .bitXor => some (a ^^^ b)
  | .bitOr => some (a ||| b)

end Operator

/-- A token of an expression. -/
inductive Mark
  | number (n : Int64)
  | name (name : Bytes)
  | operator (op : Operator)
  /-- Assigns; with an operator, what is assigned is joined to the old value first. -/
  | assign (op : Option Operator)
  | both
  | either
  | negation
  | complement
  | question
  | colon
  | openParen
  | closeParen
  /-- A byte that no token starts with. -/
  | unknown
  deriving DecidableEq, Repr

/-- An operator, and an assignment if a sign of equality follows it. -/
def orAssign (op : Operator) : Bytes → Mark × Bytes
  | 61 :: rest => (.assign (some op), rest)
  | rest => (.operator op, rest)

/-- The token that starts with a byte, and what follows it. -/
def takeMark (b : UInt8) (rest : Bytes) : Mark × Bytes :=
  if isDigitByte b then
    let n := Numeral.split true (b :: rest)
    (.number (Int64.ofInt (Numeral.clamp n.value)), n.rest)
  else if startsName b then
    (.name (b :: rest.takeWhile inName), rest.dropWhile inName)
  else if b = 61 then
    match rest with
    | 61 :: rest => (.operator .equal, rest)
    | _ => (.assign none, rest)
  else if b = 62 then
    match rest with
    | 61 :: rest => (.operator .greaterEqual, rest)
    | 62 :: rest => orAssign .shiftRight rest
    | _ => (.operator .greater, rest)
  else if b = 60 then
    match rest with
    | 61 :: rest => (.operator .lessEqual, rest)
    | 60 :: rest => orAssign .shiftLeft rest
    | _ => (.operator .less, rest)
  else if b = 124 then
    match rest with
    | 124 :: rest => (.either, rest)
    | _ => orAssign .bitOr rest
  else if b = 38 then
    match rest with
    | 38 :: rest => (.both, rest)
    | _ => orAssign .bitAnd rest
  else if b = 33 then
    match rest with
    | 61 :: rest => (.operator .different, rest)
    | _ => (.negation, rest)
  else if b = 42 then orAssign .times rest
  else if b = 47 then orAssign .divided rest
  else if b = 37 then orAssign .remainder rest
  else if b = 43 then orAssign .plus rest
  else if b = 45 then orAssign .minus rest
  else if b = 94 then orAssign .bitXor rest
  else if b = 126 then (.complement, rest)
  else if b = 63 then (.question, rest)
  else if b = 58 then (.colon, rest)
  else if b = 40 then (.openParen, rest)
  else if b = 41 then (.closeParen, rest)
  else (.unknown, rest)

/-- Cuts a text into tokens, at most so many. -/
def scan : Nat → Bytes → List Mark
  | 0, _ => []
  | _, [] => []
  | count + 1, b :: rest =>
    if isBlankByte b || b == 10 then scan count rest
    else
      let r := takeMark b rest
      r.1 :: scan count r.2

/-- Why an expression has no value. -/
inductive Fault
  | expected (what : String)
  | divisionByZero
  /-- A variable whose value is no number. -/
  | noNumber (text : Bytes)
  deriving DecidableEq, Repr

/-- What a fault of an expression says. -/
def Fault.message (expression : Bytes) : Fault → Bytes
  | .expected what =>
    utf8 ("arithmetic expression: expecting " ++ what ++ ": \"") ++ expression ++ utf8 "\""
  | .divisionByZero =>
    utf8 "arithmetic expression: division by zero: \"" ++ expression ++ utf8 "\""
  | .noNumber text => utf8 "Illegal number: " ++ text

/-- What is left of an expression, and the variables that it has set, the last one first. -/
structure State where
  marks : List Mark
  assigned : List (Bytes × Bytes)

/-- Evaluating an expression. -/
abbrev Evaluation := StateT State (Except Fault)

/-- Takes a token. -/
def take : Evaluation (Option Mark) := do
  let s ← get
  match s.marks with
  | [] => return none
  | m :: rest => do
    set { s with marks := rest }
    return some m

/-- Takes a token if it is the one given. -/
def takes (m : Mark) : Evaluation Bool := do
  let s ← get
  if s.marks.head? = some m then
    set { s with marks := s.marks.tail }
    return true
  return false

/-- The value of a variable, which is zero for one that is not set. -/
def valueOf (outer : Bytes → Option Bytes) (name : Bytes) : Evaluation Int64 := do
  let text := (((← get).assigned.lookup name).or (outer name)).getD []
  match Numeral.integer? true true text with
  | some n => return Int64.ofInt n
  | none => throw (.noNumber text)

/-- Sets a variable. -/
def assign (name : Bytes) (n : Int64) : Evaluation Int64 := do
  modify fun s => { s with assigned := (name, Numeral.print n.toInt) :: s.assigned }
  return n

/-- Joins two numbers, unless the result does not count. -/
def join (counts : Bool) (op : Operator) (a b : Int64) : Evaluation Int64 :=
  if counts then
    match op.apply a b with
    | some n => return n
    | none => throw .divisionByZero
  else return b

mutual

/-- The value of what may be an assignment. What does not count sets nothing. -/
def assignment (outer : Bytes → Option Bytes) : Nat → Bool → Evaluation Int64
  | 0, _ => throw (.expected "primary")
  | fuel + 1, counts => do
    match (← get).marks with
    | .name name :: .assign op :: rest => do
      modify fun s => { s with marks := rest }
      let n ← assignment outer fuel counts
      if !counts then return n
      match op with
      | none => assign name n
      | some op => do
        let before ← valueOf outer name
        assign name (← join true op before n)
    | _ => choice outer fuel counts

/-- The value of what may be a choice between two values. -/
def choice (outer : Bytes → Option Bytes) : Nat → Bool → Evaluation Int64
  | 0, _ => throw (.expected "primary")
  | fuel + 1, counts => do
    let a ← disjunction outer fuel counts
    if ← takes .question then
      let yes ← assignment outer fuel (counts && a != 0)
      if ← takes .colon then
        let no ← choice outer fuel (counts && a == 0)
        return if a != 0 then yes else no
      else throw (.expected "':'")
    else return a

/-- The value of what may be true in one of two ways. -/
def disjunction (outer : Bytes → Option Bytes) : Nat → Bool → Evaluation Int64
  | 0, _ => throw (.expected "primary")
  | fuel + 1, counts => do
    let a ← conjunction outer fuel counts
    if ← takes .either then
      let b ← disjunction outer fuel (counts && a == 0)
      return Operator.truth (a != 0 || b != 0)
    else return a

/-- The value of what may be true if two things are. -/
def conjunction (outer : Bytes → Option Bytes) : Nat → Bool → Evaluation Int64
  | 0, _ => throw (.expected "primary")
  | fuel + 1, counts => do
    let a ← operand outer fuel counts
    let n ← joined outer fuel counts a Operator.maxRank
    if ← takes .both then
      let b ← conjunction outer fuel (counts && n != 0)
      return Operator.truth (n != 0 && b != 0)
    else return n

/-- The value of a number and what operators below a rank join to it. -/
def joined (outer : Bytes → Option Bytes) : Nat → Bool → Int64 → Nat → Evaluation Int64
  | 0, _, _, _ => throw (.expected "primary")
  | fuel + 1, counts, a, rank => do
    match (← get).marks with
    | .operator op :: rest =>
      if op.rank < rank then
        modify fun s => { s with marks := rest }
        let b ← operand outer fuel counts
        let b ← joined outer fuel counts b op.rank
        let n ← join counts op a b
        joined outer fuel counts n rank
      else return a
    | _ => return a

/-- The value of a number, a variable, or what stands in parentheses, with signs before it. -/
def operand (outer : Bytes → Option Bytes) : Nat → Bool → Evaluation Int64
  | 0, _ => throw (.expected "primary")
  | fuel + 1, counts => do
    match ← take with
    | some (.number n) => return n
    | some (.name name) => if counts then valueOf outer name else return 0
    | some .openParen => do
      let n ← assignment outer fuel counts
      if ← takes .closeParen then return n else throw (.expected "')'")
    | some (.operator .plus) => operand outer fuel counts
    | some (.operator .minus) => return -(← operand outer fuel counts)
    | some .negation => return Operator.truth ((← operand outer fuel counts) == 0)
    | some .complement => return ~~~(← operand outer fuel counts)
    | _ => throw (.expected "primary")

end

/-- The value of an expression and the variables that it sets, the last one first. `outer` gives
the values of variables before. -/
def evaluate (outer : Bytes → Option Bytes) (text : Bytes) :
    Except Fault (Int64 × List (Bytes × Bytes)) :=
  let marks := scan (text.length + 1) text
  match assignment outer (8 * marks.length + 8) true ⟨marks, []⟩ with
  | .error e => .error e
  | .ok (n, s) => if s.marks.isEmpty then .ok (n, s.assigned) else .error (.expected "EOF")

end Testbed.Shell.Arithmetic
