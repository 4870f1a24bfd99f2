import HostPreflight.Double.Basic
import HostPreflight.Machine.Shell.Text

/-!
# Floating-point numbers in formats

Reads the double that a text starts with, and lays doubles out with a fixed number
of digits.

## Main definitions

* `scanDouble` — the double at the start of a text.
* `fixedDigits`, `scientificDigits` — the digits of a magnitude, rounded.
* `hexDigits` — the hexadecimal digits of a magnitude.
-/

namespace HostPreflight.Machine.Shell

open HostPreflight (Double)

/-! ## Reading -/

/-- Whether a text starts with a word, upper and lower case alike; and the rest. -/
def afterWordIgnoringCase (word : String) (text : List Char) : Option (List Char) :=
  if (text.take word.length).map Char.toLower = word.toList then some (text.drop word.length)
  else none

/-- The digits of a significand in some base: their value, the number of digits
after the point, whether there are any, and the rest. -/
structure Significand where
  value : Nat
  places : Nat
  found : Bool
  rest : List Char

/-- Reads a significand. -/
def scanSignificand (base : Nat) (text : List Char) : Significand :=
  let isDigit (c : Char) : Bool := (digitValue? base c).isSome
  let (whole, rest) := text.span isDigit
  let (fraction, rest) := match rest with
    | '.' :: more =>
      let (fraction, after) := more.span isDigit
      if whole.isEmpty && fraction.isEmpty then ([], rest) else (fraction, after)
    | rest => ([], rest)
  ⟨(scanDigits base 0 (whole ++ fraction)).1, fraction.length,
    !(whole.isEmpty && fraction.isEmpty), rest⟩

/-- Reads an exponent after one of two letters, if digits follow. -/
def scanExponent (lower upper : Char) (text : List Char) : Int × List Char :=
  match text with
  | c :: rest =>
    if c == lower || c == upper then
      let (negative, digits) := match rest with
        | '-' :: digits => (true, digits)
        | '+' :: digits => (false, digits)
        | digits => (false, digits)
      if (digits.head?.map isNumeral).getD false then
        let (value, rest) := scanDigits 10 0 digits
        (if negative then -(value : Int) else value, rest)
      else (0, text)
    else (0, text)
  | [] => (0, [])

/-- The largest exponent that makes a difference. -/
def exponentLimit : Nat := 100000

/-- Whether a quotient is in the range of doubles: it is not too large, and not both
too small for a full significand and inexact. -/
def isInDoubleRange (a b : Nat) : Bool :=
  let units := Double.nearest (a * Double.unitsPerOne) b
  let isFull := (Nat.pow 2 (Double.precision + 1) - 1) * b ≤ 4 * (a * Double.unitsPerOne)
  units < Double.unitsLimit && (isFull || units * b == a * Double.unitsPerOne)

/-- A double at the start of a text, its sign, which even what is not a number has,
whether it was in the range of doubles, and what comes after it. -/
structure DoubleScan where
  negative : Bool
  value : Double
  fits : Bool
  rest : List Char

/-- What comes after the word for what is not a number: a label in brackets belongs
to it. -/
def afterLabel (text : List Char) : List Char :=
  match text with
  | '(' :: label =>
    match label.dropWhile isNameChar with
    | ')' :: rest => rest
    | _ => text
  | _ => text

/-- The double nearest to `value * base ^ exponent`. -/
def DoubleScan.scaled (negative : Bool) (value base : Nat) (exponent : Int)
    (rest : List Char) : DoubleScan :=
  let power := Nat.pow base (min exponent.natAbs exponentLimit)
  let (a, b) := if exponent < 0 then (value, power) else (value * power, 1)
  ⟨negative, .ofRatio negative a b, isInDoubleRange a b, rest⟩

/-- The double at the start of a text, after blanks; all is left if there is no
number. -/
def scanDouble (text : List Char) : DoubleScan :=
  let body := text.dropWhile isSpace
  let (negative, body) := match body with
    | '-' :: body => (true, body)
    | '+' :: body => (false, body)
    | body => (false, body)
  match afterWordIgnoringCase "infinity" body, afterWordIgnoringCase "inf" body,
      afterWordIgnoringCase "nan" body with
  | some rest, _, _ => ⟨negative, .infinite negative, true, rest⟩
  | none, some rest, _ => ⟨negative, .infinite negative, true, rest⟩
  | none, none, some rest => ⟨negative, .nan, true, afterLabel rest⟩
  | none, none, none =>
    let hex := match body with
      | '0' :: x :: digits =>
        if x == 'x' || x == 'X' then
          let s := scanSignificand 16 digits
          if s.found then some s else none
        else none
      | _ => none
    match hex with
    | some s =>
      let (exponent, rest) := scanExponent 'p' 'P' s.rest
      .scaled negative s.value 2 (exponent - 4 * s.places) rest
    | none =>
      let s := scanSignificand 10 body
      if s.found then
        let (exponent, rest) := scanExponent 'e' 'E' s.rest
        .scaled negative s.value 10 (exponent - s.places) rest
      else ⟨false, .zero, true, text⟩

/-! ## Writing -/

/-- Digits with zeros in front up to a width. -/
def padDigits (width : Nat) (digits : List Char) : List Char :=
  List.replicate (width - digits.length) '0' ++ digits

/-- The digits of a count of units before and after the point, with so many places. -/
def fixedDigits (units places : Nat) : List Char × List Char :=
  let scale := Nat.pow 10 places
  let n := roundHalfEven (units * scale) Double.unitsPerOne
  (decimal (n / scale), if places = 0 then [] else padDigits places (decimal (n % scale)))

/-- A count of units divided by a power of ten, rounded. -/
def roundedAt (units : Nat) (exponent : Int) : Nat :=
  if exponent < 0 then roundHalfEven (units * Nat.pow 10 exponent.natAbs) Double.unitsPerOne
  else roundHalfEven units (Double.unitsPerOne * Nat.pow 10 exponent.toNat)

/-- The greatest power of ten that is not above a count of units. -/
def decimalExponent (units : Nat) : Int :=
  if units = 0 then 0
  else if Double.unitsPerOne ≤ units then
    (decimal (units / Double.unitsPerOne)).length - 1
  else
    let n := units * Nat.pow 10 400 / Double.unitsPerOne
    ((decimal n).length : Int) - 401

/-- The digits of a count of units with one digit before the point and so many after
it, and the exponent. -/
def scientificDigits (units places : Nat) : List Char × Int :=
  let exponent := decimalExponent units
  let n := roundedAt units (exponent - places)
  if n < Nat.pow 10 (places + 1) then (padDigits (places + 1) (decimal n), exponent)
  else (padDigits (places + 1) (decimal (n / 10)), exponent + 1)

/-- Digits without the zeros at their end. -/
def dropZeros (digits : List Char) : List Char := (digits.reverse.dropWhile (· == '0')).reverse

/-- The exponent of a number in a decimal format. -/
def exponentText (exponent : Int) : List Char :=
  (if exponent < 0 then '-' else '+') :: padDigits 2 (decimal exponent.natAbs)

/-- The hexadecimal digits of a number, lower case. -/
def hexText (n : Nat) : List Char := Nat.toDigits 16 n

/-- The hexadecimal digits of a count of units, one of them before the point, and
the exponent of two; with so many places, or as many as are needed. -/
def hexDigits (units : Nat) (places : Option Nat) : List Char × Int :=
  if units = 0 then (padDigits (1 + places.getD 0) ['0'], 0)
  else
    let top := max units.log2 52
    let scaled := units * Nat.pow 2 52 / Nat.pow 2 top
    let exponent : Int := (top : Int) - Double.leastPower
    match places with
    | none => ('0' :: dropZeros ((padDigits 14 (hexText scaled)).drop 1) |>.set 0
        ((padDigits 14 (hexText scaled)).headD '0'), exponent)
    | some places =>
      if 13 ≤ places then
        (padDigits 14 (hexText scaled) ++ List.replicate (places - 13) '0', exponent)
      else
        let rounded := roundHalfEven scaled (Nat.pow 2 (4 * (13 - places)))
        (padDigits (places + 1) (hexText rounded), exponent)

end HostPreflight.Machine.Shell
