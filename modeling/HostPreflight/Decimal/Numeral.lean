import HostPreflight.Decimal.Digits

/-!
# Decimal numerals

A number as it is written: sign, whole digits, digits after the point, and a
power of ten.  Both the text output and the JSON report write their numbers as
numerals, and the JSON reader yields them.

## Main definitions

* `Numeral` — the parts of a written number.
* `Numeral.text` — its text.
* `Numeral.ofNat n` — the numeral of a natural number.
-/

namespace HostPreflight.Decimal

/-- The parts of a written number.  `fraction` is empty when no point is written
and `exponent` is absent when no power of ten is. -/
structure Numeral where
  negative : Bool := false
  whole : List Digit
  fraction : List Digit := []
  exponent : Option Int := none
  deriving DecidableEq, Repr

namespace Numeral

/-- The numeral of a natural number. -/
def ofNat (n : Nat) : Numeral := { whole := digits n }

/-- A power of ten, always with its sign. -/
def exponentText (e : Int) : List Char :=
  'e' :: (if e < 0 then '-' else '+') :: (digits e.natAbs).map Digit.char

/-- The text of a numeral: a point stands only before digits. -/
def text (n : Numeral) : List Char :=
  (if n.negative then ['-'] else []) ++ n.whole.map Digit.char
    ++ (if n.fraction.isEmpty then [] else '.' :: n.fraction.map Digit.char)
    ++ (match n.exponent with
        | none => []
        | some e => exponentText e)

/-- The natural number that a numeral spells, if it has neither sign nor point
nor power of ten. -/
def toNat? (n : Numeral) : Option Nat :=
  if n.negative || !n.fraction.isEmpty || n.exponent.isSome then none
  else some (ofDigits n.whole)

@[simp] theorem toNat?_ofNat (n : Nat) : (ofNat n).toNat? = some n := by
  simp [toNat?, ofNat, ofDigits_digits]

end Numeral

end HostPreflight.Decimal
