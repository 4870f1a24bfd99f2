import HostPreflight.Machine.Shell.Path

/-!
# Conditions

What `test` decides about its arguments: texts, numbers and files, combined by
negation, `-a`, `-o` and parentheses.

## Main definitions

* `Sign`, `signAt` — what an argument means where it stands.
* `isTrueOf`, `isTruePair` — what an operator says of one argument or two.
* `judge arguments` — whether a condition holds.
-/

namespace HostPreflight.Machine.Shell

namespace Condition

/-! ## Signs -/

/-- What an argument of a condition means where it stands. -/
inductive Sign where
  /-- There is no argument. -/
  | none
  | operand
  | unary
  | binary
  | negation
  | conjunction
  | disjunction
  | opening
  | closing
  deriving DecidableEq

/-- The operators. -/
def operators : List (String × Sign) :=
  (["-r", "-w", "-x", "-e", "-f", "-d", "-c", "-b", "-p", "-u", "-g", "-k", "-s", "-t", "-z", "-n",
      "-h", "-O", "-G", "-L", "-S"].map fun text => (text, .unary))
    ++ (["=", "!=", "<", ">", "-eq", "-ne", "-gt", "-ge", "-lt", "-le", "-nt", "-ot", "-ef"].map
      fun text => (text, .binary))
    ++ [("!", .negation), ("-a", .conjunction), ("-o", .disjunction), ("(", .opening),
      (")", .closing)]

/-- What an argument means if it is an operator. -/
def operator? (argument : List Char) : Option Sign := operators.lookup (String.ofList argument)

/-- What the first of some arguments means.  An operator with one operand is an
operand itself at the end, and in front of an operator with two; an opening
parenthesis is one at the end. -/
def signAt : List (List Char) → Sign
  | [] => .none
  | argument :: rest =>
    match operator? argument, rest with
    | none, _ => .operand
    | some .unary, [] => .operand
    | some .unary, next :: _ :: _ =>
      if operator? next = some .binary then .operand else .unary
    | some .opening, [] => .operand
    | some sign, _ => sign

/-! ## Facts -/

/-- Whether a node is a regular file. -/
def isRegular : Node → Bool
  | .file .. => true
  | .shell => true
  | _ => false

/-- Whether there is something in a node. -/
def isFilled : Node → Bool
  | .file content _ => !content.isEmpty
  | .null => false
  | _ => true

/-- Whether a node can be run or entered. -/
def isPassable : Node → Bool
  | .file _ executable => executable
  | .null => false
  | _ => true

/-- Whether a node is a link. -/
def isLink : Node → Bool
  | .link _ => true
  | _ => false

/-- What an operator says of one argument. -/
def isTrueOf (operator argument : List Char) : Eval Bool := do
  let state ← get
  let node := node? state argument
  let has (property : Node → Bool) : Bool := (node.map property).getD false
  match String.ofList operator with
  | "-n" => return !argument.isEmpty
  | "-z" => return argument.isEmpty
  | "-t" =>
    let _ ← needInteger argument
    return false
  | "-e" | "-r" | "-w" | "-O" | "-G" => return node.isSome
  | "-f" => return has isRegular
  | "-d" => return node = some .directory
  | "-s" => return has isFilled
  | "-x" => return has isPassable
  | "-c" => return node = some .null
  | "-h" | "-L" => return ((observed? state argument).map isLink).getD false
  | _ => return false

/-- Whether a text comes before another one. -/
def isBefore : List Char → List Char → Bool
  | _, [] => false
  | [], _ => true
  | a :: as, b :: bs => a < b || (a == b && isBefore as bs)

/-- Compares two arguments as numbers. -/
def compare (holds : Int → Int → Bool) (a b : List Char) : Eval Bool := do
  let first ← needInteger a
  let second ← needInteger b
  return holds first second

/-- Whether two paths lead to the same place. -/
def isSamePlace (state : State) (a b : List Char) : Bool :=
  match resolvePath state a, resolvePath state b with
  | .ok (first, _), .ok (second, _) => first = second
  | _, _ => false

/-- What an operator says of two arguments.  All files are of the same age. -/
def isTruePair (operator a b : List Char) : Eval Bool := do
  match String.ofList operator with
  | "=" => return a = b
  | "!=" => return a ≠ b
  | "<" => return isBefore a b
  | ">" => return isBefore b a
  | "-eq" => compare (fun x y => x = y) a b
  | "-ne" => compare (fun x y => x ≠ y) a b
  | "-gt" => compare (fun x y => y < x) a b
  | "-ge" => compare (fun x y => y ≤ x) a b
  | "-lt" => compare (fun x y => x < y) a b
  | "-le" => compare (fun x y => x ≤ y) a b
  | "-ef" => return isSamePlace (← get) a b
  | _ => return false

/-! ## Reading -/

/-- Computations that take a condition apart; the state starts with the argument
that is looked at. -/
abbrev Judging := StateT (List (List Char)) Eval

/-- Goes on to the next argument, and says what it means. -/
def advance : Judging Sign := do
  let rest := (← get).drop 1
  set rest
  return signAt rest

/-- What the next argument means. -/
def peek : Judging Sign := return signAt ((← get).drop 1)

/-- Complains about an argument. -/
def reject {α : Type} (argument : List Char) (text : String) : Judging α :=
  if argument.isEmpty then liftM (fail text.toList : Eval α)
  else liftM (fail (argument ++ ':' :: ' ' :: text.toList) : Eval α)

mutual

/-- Conditions joined by `-o`; all of them are decided. -/
def disjunction : (fuel : Nat) → Sign → Judging Bool
  | 0, _ => return false
  | fuel + 1, sign => do
    let first ← conjunction fuel sign
    if (← peek) = .disjunction then
      let _ ← advance
      let others ← disjunction fuel (← advance)
      return first || others
    else return first

/-- Conditions joined by `-a`; all of them are decided. -/
def conjunction : (fuel : Nat) → Sign → Judging Bool
  | 0, _ => return false
  | fuel + 1, sign => do
    let first ← negation fuel sign
    if (← peek) = .conjunction then
      let _ ← advance
      let others ← conjunction fuel (← advance)
      return first && others
    else return first

/-- A condition with negations in front of it. -/
def negation : (fuel : Nat) → Sign → Judging Bool
  | 0, _ => return false
  | fuel + 1, sign => do
    if sign = .negation then
      let sign ← peek
      if sign != .none then
        let _ ← advance
      return !(← negation fuel sign)
    else primary fuel sign

/-- A condition without an operator that joins. -/
def primary : (fuel : Nat) → Sign → Judging Bool
  | 0, _ => return false
  | fuel + 1, sign => do
    match sign with
    | .none => return false
    | .opening =>
      let sign ← advance
      if sign = .closing then return false
      else
        let inner ← disjunction fuel sign
        if (← advance) = .closing then return inner else reject [] "closing paren expected"
    | .unary =>
      let operator := (← get).headD []
      let _ ← advance
      match (← get).head? with
      | some argument => isTrueOf operator argument
      | none => reject operator "argument expected"
    | _ =>
      let first := (← get).headD []
      if (← peek) = .binary then
        let _ ← advance
        let operator := (← get).headD []
        let _ ← advance
        match (← get).head? with
        | some second => isTruePair operator first second
        | none => reject operator "argument expected"
      else return !first.isEmpty

end

/-- Decides a condition from its first argument on, which is an operand in any case
if `sign` says so. -/
def judgeFrom (sign : Sign) : Judging Bool := do
  let result ← disjunction (4 * (← get).length + 8) sign
  match ← get with
  | argument :: _ :: _ => reject argument "unexpected operator"
  | _ => return result

end Condition

open Condition in
/-- Whether a condition holds.  Of three arguments an operator with two operands in
the middle comes first; of three or four, parentheses around the others or a
negation. -/
def judge : List (List Char) → Eval Bool
  | [] => return false
  | [a, operator, b] => do
    if operator? operator = some .binary then
      return (← (judgeFrom .operand).run [a, operator, b]).1
    else if a = ['('] ∧ b = [')'] then return (← (judgeFrom (signAt [operator])).run [operator]).1
    else if a = ['!'] then return !(← judge [operator, b])
    else return (← (judgeFrom (signAt [a, operator, b])).run [a, operator, b]).1
  | [a, b, c, d] => do
    if a = ['('] ∧ d = [')'] then return (← (judgeFrom (signAt [b, c])).run [b, c]).1
    else if a = ['!'] then return !(← judge [b, c, d])
    else return (← (judgeFrom (signAt [a, b, c, d])).run [a, b, c, d]).1
  | arguments => return (← (judgeFrom (signAt arguments)).run arguments).1

end HostPreflight.Machine.Shell
