import HostPreflight.Machine.Shell.State

/-!
# Arithmetic of the shell

Expressions over integers of 64 bits with the operators of C.  They are evaluated
while they are read; the parts that a condition leaves out are read only.

## Main definitions

* `Lexeme`, `lexeme` — what an expression is cut into.
* `binary?` — the operators between two operands, with how tightly they bind.
* `evaluate text` — the value of an expression.
-/

namespace HostPreflight.Machine.Shell.Arithmetic

/-- What an expression is cut into. -/
inductive Lexeme where
  | finished
  /-- A character that has no meaning. -/
  | stray
  | number (n : Int)
  | name (name : List Char)
  | operator (sign : String)
  deriving DecidableEq

/-- The operators, longer ones before those that they start with. -/
def signs : List String :=
  ["<<=", ">>=", "==", "!=", "<=", ">=", "<<", ">>", "&&", "||", "*=", "/=", "%=", "+=", "-=",
    "&=", "^=", "|=", "=", "<", ">", "|", "&", "!", "(", ")", "*", "/", "%", "+", "-", "~", "^",
    "?", ":"]

/-- The first lexeme of a text and the rest. -/
def lexeme (text : List Char) : Lexeme × List Char :=
  match text.dropWhile isSeparator with
  | [] => (.finished, [])
  | c :: rest =>
    if isNumeral c then
      let scan := scanInteger none (c :: rest)
      (.number (max smallest (min largest scan.value)), scan.rest)
    else if isNameStart c then
      let (name, rest) := (c :: rest).span isNameChar
      (.name name, rest)
    else
      match signs.find? fun sign => sign.toList.isPrefixOf (c :: rest) with
      | some sign => (.operator sign, (c :: rest).drop sign.length)
      | none => (.stray, c :: rest)

/-- What has been read of an expression. -/
structure Reading where
  /-- The lexeme at hand. -/
  front : Lexeme
  rest : List Char
  /-- The whole expression. -/
  whole : List Char

/-- Computations on an expression. -/
abbrev Evaluation := StateT Reading Eval

/-- Complains about an expression. -/
def reject {α : Type} (text : String) : Evaluation α := do
  let whole := (← get).whole
  let message := "arithmetic expression: ".toList ++ text.toList ++ ": \"".toList ++ whole ++ ['"']
  (fail message : Eval α)

/-- Goes on to the next lexeme. -/
def next : Evaluation Unit := modify fun reading =>
  let (front, rest) := lexeme reading.rest
  { reading with front, rest }

/-- How tightly an operator between two operands binds; zero binds most. -/
def binary? : Lexeme → Option (String × Nat)
  | .operator sign =>
    let level (n : Nat) : Option (String × Nat) := some (sign, n)
    if sign = "*" ∨ sign = "/" ∨ sign = "%" then level 0
    else if sign = "+" ∨ sign = "-" then level 1
    else if sign = "<<" ∨ sign = ">>" then level 2
    else if sign = "<" ∨ sign = "<=" ∨ sign = ">" ∨ sign = ">=" then level 3
    else if sign = "==" ∨ sign = "!=" then level 4
    else if sign = "&" then level 5
    else if sign = "^" then level 6
    else if sign = "|" then level 7
    else none
  | _ => none

/-- The loosest level and one more. -/
def loosest : Nat := 8

/-- The operator that an assignment applies first. -/
def assigning? : Lexeme → Option (Option String)
  | .operator sign =>
    if sign = "=" then some none
    else if ["*=", "/=", "%=", "+=", "-=", "<<=", ">>=", "&=", "^=", "|="].contains sign then
      some (some (sign.dropEnd 1).toString)
    else none
  | _ => none

/-- The bits of an integer. -/
def bits (n : Int) : BitVec 64 := BitVec.ofInt 64 n

/-- The integer that a truth value is. -/
def truth (b : Bool) : Int := if b then 1 else 0

/-- Applies an operator. -/
def apply (sign : String) (a b : Int) : Evaluation Int := do
  match sign with
  | "*" => return wrap (a * b)
  | "/" => if b = 0 then reject "division by zero" else return wrap (a.tdiv b)
  | "%" => if b = 0 then reject "division by zero" else return wrap (a.tmod b)
  | "+" => return wrap (a + b)
  | "-" => return wrap (a - b)
  | "<<" => return ((bits a) <<< (b.emod 64).toNat).toInt
  | ">>" => return ((bits a).sshiftRight (b.emod 64).toNat).toInt
  | "<" => return truth (a < b)
  | "<=" => return truth (a ≤ b)
  | ">" => return truth (b < a)
  | ">=" => return truth (b ≤ a)
  | "==" => return truth (a == b)
  | "!=" => return truth (a != b)
  | "&" => return (bits a &&& bits b).toInt
  | "^" => return (bits a ^^^ bits b).toInt
  | _ => return (bits a ||| bits b).toInt

/-- The integer that is the value of a variable. -/
def lookup (name : List Char) : Evaluation Int := do
  let value := ((← (process : Eval Process)).value? name).getD []
  match integer? none value with
  | some n => return n
  | none => (illegalNumber value : Eval Int)

mutual

/-- An assignment, or a condition.  Nothing is evaluated if `idle`. -/
def assignment : (fuel : Nat) → (idle : Bool) → Evaluation Int
  | 0, _ => reject "too deeply nested"
  | fuel + 1, idle => do
    let reading ← get
    match reading.front, assigning? (lexeme reading.rest).1 with
    | .name name, some sign =>
      next
      next
      let value ← assignment fuel idle
      if idle then return value
      else
        let value ← match sign with
          | some sign => apply sign (← lookup name) value
          | none => pure value
        (setVariable name (decimalInt value) : Eval Unit)
        return value
    | _, _ => condition fuel idle

/-- A condition, or a disjunction. -/
def condition : (fuel : Nat) → (idle : Bool) → Evaluation Int
  | 0, _ => reject "too deeply nested"
  | fuel + 1, idle => do
    let test ← disjunction fuel idle
    if (← get).front = .operator "?" then
      next
      let yes ← assignment fuel (idle || test == 0)
      if (← get).front = .operator ":" then
        next
        let no ← condition fuel (idle || test != 0)
        return if test != 0 then yes else no
      else reject "expecting ':'"
    else return test

/-- Operands joined by `||`. -/
def disjunction : (fuel : Nat) → (idle : Bool) → Evaluation Int
  | 0, _ => reject "too deeply nested"
  | fuel + 1, idle => do
    let first ← conjunction fuel idle
    if (← get).front = .operator "||" then
      next
      let second ← disjunction fuel (idle || first != 0)
      return truth (first != 0 || second != 0)
    else return first

/-- Operands joined by `&&`. -/
def conjunction : (fuel : Nat) → (idle : Bool) → Evaluation Int
  | 0, _ => reject "too deeply nested"
  | fuel + 1, idle => do
    let first ← operation fuel idle
    if (← get).front = .operator "&&" then
      next
      let second ← conjunction fuel (idle || first == 0)
      return truth (first != 0 && second != 0)
    else return first

/-- Operands joined by other operators. -/
def operation : (fuel : Nat) → (idle : Bool) → Evaluation Int
  | 0, _ => reject "too deeply nested"
  | fuel + 1, idle => do
    let first ← operand fuel idle
    operationFrom fuel idle loosest first

/-- Applies the operators after an operand that bind more tightly than a level. -/
def operationFrom : (fuel : Nat) → (idle : Bool) → (limit : Nat) → (first : Int) → Evaluation Int
  | 0, _, _, _ => reject "too deeply nested"
  | fuel + 1, idle, limit, first => do
    match binary? (← get).front with
    | some (sign, level) =>
      if level < limit then
        next
        let second ← operand fuel idle
        let second ← operationFrom fuel idle level second
        let value ← if idle then pure second else apply sign first second
        operationFrom fuel idle limit value
      else return first
    | none => return first

/-- A single operand. -/
def operand : (fuel : Nat) → (idle : Bool) → Evaluation Int
  | 0, _ => reject "too deeply nested"
  | fuel + 1, idle => do
    let front := (← get).front
    match front with
    | .number n =>
      next
      return n
    | .name name =>
      next
      if idle then return 0 else lookup name
    | .operator "(" =>
      next
      let value ← assignment fuel idle
      if (← get).front = .operator ")" then
        next
        return value
      else reject "expecting ')'"
    | .operator "+" =>
      next
      operand fuel idle
    | .operator "-" =>
      next
      return wrap (-(← operand fuel idle))
    | .operator "!" =>
      next
      return truth ((← operand fuel idle) == 0)
    | .operator "~" =>
      next
      return wrap (-(← operand fuel idle) - 1)
    | _ => reject "expecting primary"

end

/-- The value of an expression. -/
def evaluate (text : List Char) : Eval Int := do
  let (front, rest) := lexeme text
  let whole : Evaluation Int := do
    let value ← assignment (16 * text.length + 64) false
    if (← get).front = .finished then return value else reject "expecting EOF"
  (whole.run ⟨front, rest, text⟩).map (·.1)

end HostPreflight.Machine.Shell.Arithmetic
