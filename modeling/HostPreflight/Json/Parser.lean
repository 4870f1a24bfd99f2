import HostPreflight.Json.Basic
import HostPreflight.Text.Hex

/-!
# Reading JSON

The strict grammar: four blank characters, no commas at the ends, no leading
zeros, no raw controls in literals, and nothing but blanks after the value.
Escaped surrogate pairs are put together; a half without its partner makes the
literal a broken one.

## Main definitions

* `skip cs` — the rest after blanks.
* `literal cs` — reads a literal after its opening quote.
* `numeral cs` — reads a number.
* `value fuel cs` — reads a value; every level of nesting takes one step of fuel
  and so does every item, so the length of the text is fuel enough.
* `Json.parse? s` — the value of a whole text.
-/

namespace HostPreflight.Json

open Decimal

/-- Blanks between the parts of a JSON text. -/
def isSpace (c : Char) : Bool := c == ' ' || c == '\t' || c == '\n' || c == '\r'

/-- The rest after blanks. -/
def skip (cs : List Char) : List Char := cs.dropWhile isSpace

/-- One unit of a literal: a character, or an escaped half of a surrogate pair. -/
inductive LiteralUnit where
  | char (c : Char)
  | high (bits : Nat)
  | low (bits : Nat)

/-- The unit that an escape by number stands for. -/
def LiteralUnit.ofCode (n : Nat) : LiteralUnit :=
  if 0xD800 ≤ n ∧ n < 0xDC00 then .high (n - 0xD800)
  else if 0xDC00 ≤ n ∧ n < 0xE000 then .low (n - 0xDC00)
  else .char (Char.ofNat n)

/-- Puts surrogate pairs together; none if a half has no partner. -/
def joinPairs : List LiteralUnit → Option (List Char)
  | [] => some []
  | .char c :: rest => (joinPairs rest).map (c :: ·)
  | .high a :: .low b :: rest =>
    (joinPairs rest).map (Char.ofNat (0x10000 + a * 0x400 + b) :: ·)
  | .high _ :: _ => none
  | .low _ :: _ => none

/-- The character that a one-letter escape stands for. -/
def escaped? (c : Char) : Option Char :=
  if c = '"' ∨ c = '\\' ∨ c = '/' then some c
  else if c = 'b' then some '\x08'
  else if c = 'f' then some '\x0c'
  else if c = 'n' then some '\n'
  else if c = 'r' then some '\r'
  else if c = 't' then some '\t'
  else none

/-- The number that four hexadecimal digits spell. -/
def code? (a b c d : Char) : Option Nat := do
  return (((← Text.hexValue? a) * 16 + (← Text.hexValue? b)) * 16 + (← Text.hexValue? c)) * 16
    + (← Text.hexValue? d)

/-- Reads the units of a literal after its opening quote, up to its closing one. -/
def literalUnits : List Char → Option (List LiteralUnit × List Char)
  | '"' :: rest => some ([], rest)
  | '\\' :: 'u' :: a :: b :: c :: d :: rest => do
    let code ← code? a b c d
    let (units, rest) ← literalUnits rest
    return (.ofCode code :: units, rest)
  | '\\' :: c :: rest => do
    let c ← escaped? c
    let (units, rest) ← literalUnits rest
    return (.char c :: units, rest)
  | c :: rest =>
    if c.toNat < 0x20 then none
    else do
      let (units, rest) ← literalUnits rest
      return (.char c :: units, rest)
  | [] => none

/-- Reads a literal after its opening quote. -/
def literal (cs : List Char) : Option (Literal × List Char) := do
  let (units, rest) ← literalUnits cs
  return ((joinPairs units).map String.ofList, rest)

/-- Splits off the digits at the start of a text. -/
def leadingDigits : List Char → List Digit × List Char
  | [] => ([], [])
  | c :: cs =>
    match Digit.ofChar? c with
    | none => ([], c :: cs)
    | some d => (d :: (leadingDigits cs).1, (leadingDigits cs).2)

/-- Reads a point and the digits after it, if a point follows. -/
def fraction : List Char → Option (List Digit × List Char)
  | '.' :: rest =>
    let (ds, rest) := leadingDigits rest
    if ds.isEmpty then none else some (ds, rest)
  | rest => some ([], rest)

/-- Reads the digits of a power of ten after its sign. -/
def powerDigits (negative : Bool) (cs : List Char) : Option (Option Int × List Char) :=
  let (ds, rest) := leadingDigits cs
  if ds.isEmpty then none
  else
    let n : Int := ofDigits ds
    some (some (if negative then -n else n), rest)

/-- Reads a power of ten after its letter. -/
def signedPower : List Char → Option (Option Int × List Char)
  | '+' :: rest => powerDigits false rest
  | '-' :: rest => powerDigits true rest
  | rest => powerDigits false rest

/-- Reads a power of ten, if one follows. -/
def power : List Char → Option (Option Int × List Char)
  | 'e' :: rest => signedPower rest
  | 'E' :: rest => signedPower rest
  | rest => some (none, rest)

/-- Reads a number after its sign. -/
def magnitude (negative : Bool) (cs : List Char) : Option (Numeral × List Char) := do
  let (whole, rest) := leadingDigits cs
  if whole.isEmpty || (whole.head? == some Digit.zero && whole.length != 1) then none
  let (fraction, rest) ← fraction rest
  let (exponent, rest) ← power rest
  return ({ negative, whole, fraction, exponent }, rest)

/-- Reads a number. -/
def numeral : List Char → Option (Numeral × List Char)
  | '-' :: rest => magnitude true rest
  | rest => magnitude false rest

mutual

/-- Reads a value with blanks before it. -/
def value : (fuel : Nat) → List Char → Option (Json × List Char)
  | 0, _ => none
  | fuel + 1, cs =>
    match skip cs with
    | 'n' :: 'u' :: 'l' :: 'l' :: rest => some (.null, rest)
    | 't' :: 'r' :: 'u' :: 'e' :: rest => some (.bool true, rest)
    | 'f' :: 'a' :: 'l' :: 's' :: 'e' :: rest => some (.bool false, rest)
    | '"' :: rest => do
      let (s, rest) ← literal rest
      return (.string s, rest)
    | '[' :: rest =>
      match skip rest with
      | ']' :: rest => some (.array [], rest)
      | rest => do
        let (vs, rest) ← items fuel rest
        return (.array vs, rest)
    | '\x7b' :: rest =>
      match skip rest with
      | '\x7d' :: rest => some (.object [], rest)
      | rest => do
        let (ms, rest) ← members fuel rest
        return (.object ms, rest)
    | rest => do
      let (n, rest) ← numeral rest
      return (.number n, rest)

/-- Reads one item or more, up to the closing bracket. -/
def items : (fuel : Nat) → List Char → Option (List Json × List Char)
  | 0, _ => none
  | fuel + 1, cs => do
    let (v, rest) ← value fuel cs
    match skip rest with
    | ']' :: rest => return ([v], rest)
    | ',' :: rest => do
      let (vs, rest) ← items fuel rest
      return (v :: vs, rest)
    | _ => none

/-- Reads one member or more, up to the closing brace. -/
def members : (fuel : Nat) → List Char → Option (List (Literal × Json) × List Char)
  | 0, _ => none
  | fuel + 1, cs =>
    match skip cs with
    | '"' :: rest => do
      let (name, rest) ← literal rest
      match skip rest with
      | ':' :: rest => do
        let (v, rest) ← value fuel rest
        match skip rest with
        | '\x7d' :: rest => return ([(name, v)], rest)
        | ',' :: rest => do
          let (ms, rest) ← members fuel rest
          return ((name, v) :: ms, rest)
        | _ => none
      | _ => none
    | _ => none

end

/-- The value of a whole text: blanks may surround it, and nothing else. -/
def parseChars? (cs : List Char) : Option Json := do
  let (v, rest) ← value (cs.length + 1) cs
  if (skip rest).isEmpty then some v else none

/-- The value of a whole text. -/
def parse? (s : String) : Option Json := parseChars? s.toList

end HostPreflight.Json
