import HostPreflight.Double.Layout
import HostPreflight.Json.Basic

/-!
# Numbers in JSON

Doubles as JSON numbers, written and read.

Writing chooses the shortest digits.  Reading is quick rather than exact: the
digits are gathered into a 64-bit significand, which is rounded to a double and
then multiplied or divided by a power of ten, with a rounding at each step.
Whole digits that no longer fit count as zeros; digits after the point that no
longer fit are ignored.

## Main definitions

* `ofDouble x` — the JSON number of a double, null if it is not finite.
* `gather` — the digits that fit into the significand.
* `scale? x e` — a double times a power of ten; none if that overflows.
* `toDouble? n` — the double that a numeral is read as.
-/

namespace HostPreflight.Json

open Decimal

/-- The JSON number of a double; null if it is not finite. -/
def ofDouble : Double → Json
  | .finite negative m => .number (m.numeral Double.Layout.json negative)
  | _ => .null

/-- The bound of a significand. -/
def significandLimit : Nat := UInt64.size

/-- Gathers digits into a significand until one does not fit: the significand,
and the digits left. -/
def gather (significand : Nat) : List Digit → Nat × List Digit
  | [] => (significand, [])
  | d :: ds =>
    if 10 * significand + d.val < significandLimit then gather (10 * significand + d.val) ds
    else (significand, d :: ds)

/-- The largest power of ten that is divided or multiplied by in one step. -/
def largestPower : Nat := 308

/-- A finite double divided by `10 ^ n`, in steps of at most `10 ^ 308`. -/
def divideByPower (x : Double) (n : Nat) : Double :=
  if n ≤ largestPower then x / .ofNat (Nat.pow 10 n)
  else if x.isZero then x
  else divideByPower (x / .ofNat (Nat.pow 10 largestPower)) (n - largestPower)
termination_by n
decreasing_by
  have : largestPower = 308 := rfl
  omega

/-- A finite double times `10 ^ e`; none if that is too large. -/
def scale? (x : Double) (e : Int) : Option Double :=
  if e < 0 then some (divideByPower x e.natAbs)
  else if e ≤ largestPower then
    let y := x * .ofNat (Nat.pow 10 e.toNat)
    if y.isFinite then some y else none
  else if x.isZero then some x
  else none

/-- The double that a numeral is read as; none if it is too large. -/
def toDouble? (n : Numeral) : Option Double := do
  let (whole, dropped) := gather 0 n.whole
  let (significand, ignored) := gather whole n.fraction
  let shift : Int := dropped.length - (n.fraction.length - ignored.length : Nat)
  let x ← scale? (.ofNat significand) (shift + n.exponent.getD 0)
  return if n.negative then -x else x

end HostPreflight.Json
