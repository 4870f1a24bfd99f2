import HostPreflight.Decimal.Digits

/-!
# Text of the shell

Scripts and their data are octets; each is held as the character of that number.
Names, blanks and numbers are those of ASCII.

## Main definitions

* `ofOctets`, `toOctets` — between octets and characters.
* `isName` — the names of variables.
* `Scan`, `scanInteger` — the integer at the start of a text.
* `integer?` — the integer that a whole text spells.
* `singleQuoted` — a text in quotes that the shell reads back.
-/

namespace HostPreflight.Machine.Shell

/-- The characters of octets. -/
def ofOctets (octets : List UInt8) : List Char := octets.map fun octet => Char.ofNat octet.toNat

/-- The octets of characters. -/
def toOctets (cs : List Char) : List UInt8 := cs.map fun c => UInt8.ofNat c.toNat

/-! ## Kinds of characters -/

/-- An ASCII digit. -/
def isNumeral (c : Char) : Bool := c.isDigit

/-- What can start a name. -/
def isNameStart (c : Char) : Bool := c.isAlpha || c == '_'

/-- What can stand in a name. -/
def isNameChar (c : Char) : Bool := c.isAlphanum || c == '_'

/-- Whether a text is a name. -/
def isName : List Char → Bool
  | [] => false
  | c :: cs => isNameStart c && cs.all isNameChar

/-- The blanks at which fields are split unless a script says otherwise. -/
def isSeparator (c : Char) : Bool := c == ' ' || c == '\t' || c == '\n'

/-- The blanks that may stand around a number. -/
def isSpace (c : Char) : Bool :=
  isSeparator c || c == '\x0b' || c == '\x0c' || c == '\r'

/-! ## Numbers -/

/-- The text of a natural number. -/
def decimal (n : Nat) : List Char := (Decimal.text n).toList

/-- The text of an integer. -/
def decimalInt (n : Int) : List Char :=
  if n < 0 then '-' :: decimal n.natAbs else decimal n.natAbs

/-- The value of a digit in some base up to sixteen. -/
def digitValue? (base : Nat) (c : Char) : Option Nat :=
  let value :=
    if '0' ≤ c ∧ c ≤ '9' then c.toNat - '0'.toNat
    else if 'a' ≤ c ∧ c ≤ 'f' then c.toNat - 'a'.toNat + 10
    else if 'A' ≤ c ∧ c ≤ 'F' then c.toNat - 'A'.toNat + 10
    else base
  if value < base then some value else none

/-- The number that digits in a base spell, and the rest of the text. -/
def scanDigits (base : Nat) : (value : Nat) → List Char → Nat × List Char
  | value, [] => (value, [])
  | value, c :: cs =>
    match digitValue? base c with
    | some digit => scanDigits base (value * base + digit) cs
    | none => (value, c :: cs)

/-- The integer at the start of a text. -/
structure Scan where
  value : Int
  /-- What comes after it; the whole text if there is no integer. -/
  rest : List Char
  /-- Whether there is an integer at all. -/
  found : Bool

/-- The base that the start of a number announces, and its digits. -/
def announcedBase : List Char → Nat × List Char
  | '0' :: x :: digits =>
    let starts (base : Nat) : Bool := (digits.head?.bind (digitValue? base)).isSome
    if (x == 'x' || x == 'X') && starts 16 then (16, digits)
    else if (x == 'b' || x == 'B') && starts 2 then (2, digits)
    else (8, '0' :: x :: digits)
  | ['0'] => (8, ['0'])
  | digits => (10, digits)

/-- The integer at the start of a text, after blanks and a sign.  The base is
given, or read off the first digits. -/
def scanInteger (base : Option Nat) (text : List Char) : Scan :=
  let body := text.dropWhile isSpace
  let (negative, digits) := match body with
    | '-' :: digits => (true, digits)
    | '+' :: digits => (false, digits)
    | digits => (false, digits)
  let (base, digits) := match base with
    | some base => (base, digits)
    | none => announcedBase digits
  if (digits.head?.bind (digitValue? base)).isSome then
    let (value, rest) := scanDigits base 0 digits
    ⟨if negative then -(value : Int) else value, rest, true⟩
  else ⟨0, text, false⟩

/-- The largest integer of 64 bits. -/
def largest : Int := 9223372036854775807

/-- The smallest integer of 64 bits. -/
def smallest : Int := -9223372036854775808

/-- Whether an integer has 64 bits at most. -/
def isInRange (n : Int) : Bool := smallest ≤ n && n ≤ largest

/-- The integer that a whole text spells, with blanks around it. -/
def integer? (base : Option Nat) (text : List Char) : Option Int :=
  let scan := scanInteger base text
  if (base.isSome && !scan.found) || !(scan.rest.all isSpace) || !(isInRange scan.value) then none
  else some scan.value

/-- The small natural number that a whole text spells. -/
def count? (text : List Char) : Option Nat :=
  match integer? (some 10) text with
  | some n => if 0 ≤ n ∧ n < 2147483648 then some n.toNat else none
  | none => none

/-- An integer cut down to 64 bits. -/
def wrap (n : Int) : Int := n.bmod 18446744073709551616

/-! ## Quoting -/

/-- The pieces of a text between apostrophes. -/
def quoteRuns : (fuel : Nat) → List Char → List Char
  | 0, _ => []
  | fuel + 1, cs =>
    let (run, rest) := cs.span (· != '\x27')
    let quoted := '\x27' :: run ++ ['\x27']
    let (marks, rest) := rest.span (· == '\x27')
    if marks.isEmpty then quoted
    else
      let middle := quoted ++ ('"' :: marks ++ ['"'])
      if rest.isEmpty then middle else middle ++ quoteRuns fuel rest

/-- A text in quotes that the shell reads back. -/
def singleQuoted (cs : List Char) : List Char := quoteRuns (cs.length + 1) cs

end HostPreflight.Machine.Shell
