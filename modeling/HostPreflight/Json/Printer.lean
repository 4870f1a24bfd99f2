import HostPreflight.Json.Basic
import HostPreflight.Text.Hex

/-!
# Writing JSON

Two layouts of the same value: `compact` without any blanks, and `pretty` with
one item or member a line and two blanks of indentation for each level.

## Main definitions

* `escapeChar c` — how a character stands in a string literal.
* `Json.compact`, `Json.pretty` — the two layouts.
-/

namespace HostPreflight.Json

/-- How a character stands in a string literal: quotes, backslashes and controls
are escaped, everything else stands for itself. -/
def escapeChar (c : Char) : List Char :=
  if c = '"' then ['\\', '"']
  else if c = '\\' then ['\\', '\\']
  else if c = '\x08' then ['\\', 'b']
  else if c = '\t' then ['\\', 't']
  else if c = '\n' then ['\\', 'n']
  else if c = '\x0c' then ['\\', 'f']
  else if c = '\r' then ['\\', 'r']
  else if c.toNat < 0x20 then
    ['\\', 'u', '0', '0', Text.lastHexDigit (c.toNat / 16), Text.lastHexDigit c.toNat]
  else [c]

/-- A string literal.  A broken literal is written as one that reads as broken. -/
def literalText : Literal → List Char
  | some s => '"' :: s.toList.flatMap escapeChar ++ ['"']
  | none => ['"', '\\', 'u', 'd', '8', '0', '0', '"']

mutual

/-- The text of a value without blanks. -/
def compactText : Json → List Char
  | .null => ['n', 'u', 'l', 'l']
  | .bool true => ['t', 'r', 'u', 'e']
  | .bool false => ['f', 'a', 'l', 's', 'e']
  | .number n => n.text
  | .string s => literalText s
  | .array items => '[' :: compactItems items ++ [']']
  | .object members => '\x7b' :: compactMembers members ++ ['\x7d']

/-- Items with commas between them. -/
def compactItems : List Json → List Char
  | [] => []
  | [v] => compactText v
  | v :: vs => compactText v ++ ',' :: compactItems vs

/-- Members with commas between them. -/
def compactMembers : List (Literal × Json) → List Char
  | [] => []
  | [(name, v)] => literalText name ++ ':' :: compactText v
  | (name, v) :: rest => literalText name ++ ':' :: compactText v ++ ',' :: compactMembers rest

end

/-- A new line at a level of indentation. -/
def newline (level : Nat) : List Char := '\n' :: List.replicate (2 * level) ' '

mutual

/-- The text of a value at a level of indentation. -/
def prettyText (level : Nat) : Json → List Char
  | .null => ['n', 'u', 'l', 'l']
  | .bool true => ['t', 'r', 'u', 'e']
  | .bool false => ['f', 'a', 'l', 's', 'e']
  | .number n => n.text
  | .string s => literalText s
  | .array [] => ['[', ']']
  | .array (v :: vs) => '[' :: prettyItems (level + 1) (v :: vs) ++ newline level ++ [']']
  | .object [] => ['\x7b', '\x7d']
  | .object (m :: ms) => '\x7b' :: prettyMembers (level + 1) (m :: ms) ++ newline level ++ ['\x7d']

/-- Items on lines of their own, with commas at the ends of the lines. -/
def prettyItems (level : Nat) : List Json → List Char
  | [] => []
  | [v] => newline level ++ prettyText level v
  | v :: vs => newline level ++ prettyText level v ++ ',' :: prettyItems level vs

/-- Members on lines of their own, with commas at the ends of the lines. -/
def prettyMembers (level : Nat) : List (Literal × Json) → List Char
  | [] => []
  | [(name, v)] => newline level ++ literalText name ++ ':' :: ' ' :: prettyText level v
  | (name, v) :: rest =>
    newline level ++ literalText name ++ ':' :: ' ' :: prettyText level v
      ++ ',' :: prettyMembers level rest

end

/-- The text of a value without blanks. -/
def compact (v : Json) : String := String.ofList v.compactText

/-- The text of a value with one item or member a line. -/
def pretty (v : Json) : String := String.ofList (v.prettyText 0)

end HostPreflight.Json
