import HostPreflight.Failure.System
import HostPreflight.Machine.Shell.Escape
import HostPreflight.Machine.Shell.Float

/-!
# Formatted output

A format is a text with directives, each of which writes one argument.  It is used
again as long as arguments are left; missing arguments count as empty or zero.

## Main definitions

* `Directive` — the parts of a directive.
* `Progress` — what has been written and what is left.
* `printf` — what a format and its arguments write.
-/

namespace HostPreflight.Machine.Shell

/-- The parts of a directive. -/
structure Directive where
  left : Bool
  plus : Bool
  space : Bool
  alternate : Bool
  zeros : Bool
  width : Nat
  precision : Option Nat
  conversion : Char

/-- How formatting ends. -/
inductive Formatting where
  /-- The format is used up. -/
  | through
  /-- An escape has ended the output. -/
  | ended
  /-- The format is wrong. -/
  | wrong (text : List Char)

/-- What has been written, and what is left. -/
structure Progress where
  /-- The texts written, in reverse order. -/
  written : List (List Char) := []
  arguments : List (List Char)
  /-- What has been complained about, in reverse order. -/
  warnings : List (List Char) := []

namespace Progress

/-- Writes a text. -/
def write (progress : Progress) (text : List Char) : Progress :=
  { progress with written := text :: progress.written }

/-- Complains about an argument. -/
def warn (progress : Progress) (argument text : List Char) : Progress :=
  { progress with warnings := (argument ++ [':', ' '] ++ text) :: progress.warnings }

/-- Takes an argument; a missing one is empty. -/
def take (progress : Progress) : List Char × Progress :=
  (progress.arguments.headD [], { progress with arguments := progress.arguments.drop 1 })

/-- Complains if a number does not make up a whole argument. -/
def check (progress : Progress) (argument rest : List Char) (fits : Bool) : Progress :=
  if !rest.isEmpty then
    progress.warn argument (if rest.length = argument.length then "expected numeric value".toList
      else "not completely converted".toList)
  else if !fits then progress.warn argument (Failure.systemDescription 34).toList
  else progress

/-- The number of the character after a quote at the start of an argument. -/
def quotedCharacter? : List Char → Option Int
  | '"' :: rest => some (rest.headD '\x00').toNat
  | '\x27' :: rest => some (rest.headD '\x00').toNat
  | _ => none

/-- Takes a signed integer. -/
def takeInteger (progress : Progress) : Int × Progress :=
  match progress.arguments with
  | [] => (0, progress)
  | argument :: arguments =>
    let progress := { progress with arguments }
    match quotedCharacter? argument with
    | some n => (n, progress)
    | none =>
      let scan := scanInteger none argument
      (max smallest (min largest scan.value),
        progress.check argument scan.rest (isInRange scan.value))

/-- Takes an integer without sign; negative ones are counted from the end. -/
def takeNatural (progress : Progress) : Nat × Progress :=
  match progress.arguments with
  | [] => (0, progress)
  | argument :: arguments =>
    let progress := { progress with arguments }
    match quotedCharacter? argument with
    | some n => (n.toNat, progress)
    | none =>
      let scan := scanInteger none argument
      let limit := UInt64.size
      let fits := scan.value.natAbs < limit
      (if fits then (scan.value.emod limit).toNat else limit - 1,
        progress.check argument scan.rest fits)

/-- Takes a double and its sign. -/
def takeDouble (progress : Progress) : (Bool × Double) × Progress :=
  match progress.arguments with
  | [] => ((false, .zero), progress)
  | argument :: arguments =>
    let progress := { progress with arguments }
    match quotedCharacter? argument with
    | some n => ((false, .ofNat n.toNat), progress)
    | none =>
      let scan := scanDouble argument
      ((scan.negative, scan.value), progress.check argument scan.rest scan.fits)

end Progress

namespace Directive

/-- Fills a text up to the width: with zeros after the sign and the mark in front
of the digits, or with blanks. -/
def fill (d : Directive) (zeros : Bool) (sign body : List Char) : List Char :=
  let missing := d.width - (sign.length + body.length)
  if d.left then sign ++ body ++ List.replicate missing ' '
  else if zeros then sign ++ List.replicate missing '0' ++ body
  else List.replicate missing ' ' ++ sign ++ body

/-- Lays a text out. -/
def text (d : Directive) (cs : List Char) : List Char :=
  d.fill false [] (match d.precision with
    | some n => cs.take n
    | none => cs)

/-- The sign of a number. -/
def sign (d : Directive) (negative : Bool) : List Char :=
  if negative then ['-'] else if d.plus then ['+'] else if d.space then [' '] else []

/-- The digits of an integer with at least as many as the precision says; zero has
none if that is none. -/
def digits (d : Directive) (n : Nat) (digits : List Char) : List Char :=
  match d.precision with
  | some 0 => if n = 0 then [] else digits
  | some least => padDigits least digits
  | none => digits

/-- Lays a signed integer out. -/
def integer (d : Directive) (n : Int) : List Char :=
  d.fill (d.zeros && d.precision.isNone) (d.sign (n < 0)) (d.digits n.natAbs (decimal n.natAbs))

/-- Lays an integer without sign out. -/
def natural (d : Directive) (n : Nat) : List Char :=
  let zeros := d.zeros && d.precision.isNone
  match d.conversion with
  | 'o' =>
    let digits := d.digits n (Nat.toDigits 8 n)
    d.fill zeros [] (if d.alternate && digits.head? != some '0' then '0' :: digits else digits)
  | 'x' =>
    d.fill zeros (if d.alternate && n != 0 then ['0', 'x'] else []) (d.digits n (hexText n))
  | 'X' =>
    d.fill zeros (if d.alternate && n != 0 then ['0', 'X'] else [])
      (d.digits n ((hexText n).map Char.toUpper))
  | _ => d.fill zeros [] (d.digits n (decimal n))

/-- A point and the digits after it. -/
def point (d : Directive) (fraction : List Char) : List Char :=
  if fraction.isEmpty && !d.alternate then [] else '.' :: fraction

/-- The body of a number in fixed notation. -/
def fixed (d : Directive) (units places : Nat) : List Char :=
  let (whole, fraction) := fixedDigits units places
  whole ++ d.point fraction

/-- The body of a number in scientific notation. -/
def scientific (d : Directive) (units places : Nat) : List Char :=
  let (digits, exponent) := scientificDigits units places
  digits.take 1 ++ d.point (digits.drop 1) ++ 'e' :: exponentText exponent

/-- The body of a number in the shorter notation. -/
def general (d : Directive) (units : Nat) : List Char :=
  let significant := max 1 (d.precision.getD 6)
  let (digits, exponent) := scientificDigits units (significant - 1)
  let trim (digits : List Char) : List Char := if d.alternate then digits else dropZeros digits
  if -4 ≤ exponent ∧ exponent < significant then
    let (whole, fraction) := fixedDigits units (significant - 1 - exponent).toNat
    whole ++ d.point (trim fraction)
  else digits.take 1 ++ d.point (trim (digits.drop 1)) ++ 'e' :: exponentText exponent

/-- The body of a number in hexadecimal notation, after its mark. -/
def hexadecimal (d : Directive) (units : Nat) : List Char :=
  let (digits, exponent) := hexDigits units d.precision
  digits.take 1 ++ d.point (digits.drop 1)
    ++ 'p' :: (if exponent < 0 then '-' else '+') :: decimal exponent.natAbs

/-- Lays a double with its sign out in lower case. -/
def lowerDouble (d : Directive) (negative : Bool) (x : Double) : List Char :=
  let sign := d.sign negative
  match x with
  | .nan => d.fill false sign "nan".toList
  | .infinite _ => d.fill false sign "inf".toList
  | .finite _ m =>
    let places := d.precision.getD 6
    match d.conversion.toLower with
    | 'f' => d.fill d.zeros sign (d.fixed m.units places)
    | 'e' => d.fill d.zeros sign (d.scientific m.units places)
    | 'g' => d.fill d.zeros sign (d.general m.units)
    | _ => d.fill d.zeros (sign ++ ['0', 'x']) (d.hexadecimal m.units)

/-- Lays a double with its sign out. -/
def double (d : Directive) (negative : Bool) (x : Double) : List Char :=
  let text := d.lowerDouble negative x
  if d.conversion.isUpper then text.map Char.toUpper else text

/-- Whether the texts of a directive would be too long to write. -/
def isTooLong (d : Directive) (limit : Nat) : Bool :=
  limit ≤ d.width || limit ≤ d.precision.getD 0

/-- Writes what a directive says; whether an escape ends the output. -/
def run (d : Directive) (progress : Progress) : Option (Progress × Bool) :=
  match d.conversion with
  | 's' =>
    let (argument, progress) := progress.take
    some (progress.write (d.text argument), false)
  | 'b' =>
    let (argument, progress) := progress.take
    let (text, ended) := unescapeAll argument
    some (progress.write (d.text text), ended)
  | 'c' =>
    let (argument, progress) := progress.take
    some (progress.write (d.fill false [] [argument.headD '\x00']), false)
  | 'd' | 'i' =>
    let (n, progress) := progress.takeInteger
    some (progress.write (d.integer n), false)
  | 'o' | 'u' | 'x' | 'X' =>
    let (n, progress) := progress.takeNatural
    some (progress.write (d.natural n), false)
  | 'a' | 'A' | 'e' | 'E' | 'f' | 'F' | 'g' | 'G' =>
    let ((negative, x), progress) := progress.takeDouble
    some (progress.write (d.double negative x), false)
  | _ => none

end Directive

/-- The number that digits in a format spell. -/
def formatNumber (digits : List Char) : Nat := (scanDigits 10 0 digits).1

/-- The first width that is too large to write. -/
def widthLimit : Nat := UInt32.size / 2

/-- Takes a width or a precision, which has 32 bits. -/
def Progress.takeWidth (progress : Progress) : Int × Progress :=
  let (n, progress) := progress.takeInteger
  (n.bmod (2 * widthLimit), progress)

/-- Reads a directive after its percent sign: the directive, the characters that it
takes up, and the rest of the format.  Widths may be arguments. -/
def readDirective (progress : Progress) (format : List Char) :
    Option (Directive × Progress × List Char × List Char) :=
  let isFlag (c : Char) : Bool := "#-+ 0".toList.contains c
  let isWidth (c : Char) : Bool := c == '*' || isNumeral c
  let (flags, rest) := format.span isFlag
  let (width, progress, rest) := match rest with
    | '*' :: rest =>
      let (n, progress) := progress.takeWidth
      (n, progress, rest)
    | rest =>
      let (digits, rest) := rest.span isWidth
      ((formatNumber digits : Int), progress, rest)
  let (precision, progress, rest) := match rest with
    | '.' :: '*' :: rest =>
      let (n, progress) := progress.takeWidth
      (if n < 0 then none else some n.toNat, progress, rest)
    | '.' :: rest =>
      let (digits, rest) := rest.span isWidth
      (some (formatNumber digits), progress, rest)
    | rest => (none, progress, rest)
  match rest with
  | [] => none
  | conversion :: after =>
    let has (c : Char) : Bool := flags.contains c
    some (⟨has '-' || width < 0, has '+', has ' ', has '#', has '0', width.natAbs, precision,
      conversion⟩, progress, format.take (format.length - after.length), after)

/-- Goes through a format once. -/
def formatOnce : (fuel : Nat) → List Char → Progress → Formatting × Progress
  | 0, _, progress => (.ended, progress)
  | _ + 1, [], progress => (.through, progress)
  | fuel + 1, '\\' :: rest, progress =>
    let (c, rest) := escape rest
    formatOnce fuel rest (progress.write [c])
  | fuel + 1, '%' :: '%' :: rest, progress => formatOnce fuel rest (progress.write ['%'])
  | fuel + 1, '%' :: rest, progress =>
    match readDirective progress rest with
    | none => (.wrong "missing format character".toList, progress)
    | some (directive, progress, taken, rest) =>
      if directive.isTooLong widthLimit then (.wrong "xvsnprintf failed".toList, progress)
      else
      match directive.run progress with
      | none => (.wrong ('%' :: taken ++ ": invalid directive".toList), progress)
      | some (progress, true) => (.ended, progress)
      | some (progress, false) => formatOnce fuel rest progress
  | fuel + 1, c :: rest, progress => formatOnce fuel rest (progress.write [c])

/-- Goes through a format until the arguments are used up. -/
def formatAll : (fuel : Nat) → List Char → Progress → Formatting × Progress
  | 0, _, progress => (.ended, progress)
  | fuel + 1, format, progress =>
    match formatOnce (format.length + 1) format progress with
    | (.through, after) =>
      if after.arguments.isEmpty || after.arguments.length = progress.arguments.length then
        (.through, after)
      else formatAll fuel format after
    | other => other

/-- What a format and its arguments write. -/
def printf (format : List Char) (arguments : List (List Char)) : Formatting × Progress :=
  formatAll (arguments.length + 1) format { arguments }

end HostPreflight.Machine.Shell
