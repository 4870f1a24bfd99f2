import HostPreflight.Decimal.Numeral
import HostPreflight.Double.Arithmetic
import HostPreflight.Double.Shortest

/-!
# Layouts of doubles

How the digits of a double are set out.  The text output and the JSON report
choose the same digits but set them out differently; each choice is one value of
`Layout`.

## Main definitions

* `Layout` — the decisions of a format.
* `Layout.plain` — the layout of messages: never a power of ten, no needless point.
* `Layout.json` — the layout of the JSON report: always a point or a power of ten.
* `Double.numeral` — the numeral of a finite magnitude in a layout.
* `Double.text` — the text of a double in a message.
-/

namespace HostPreflight

open Decimal

namespace Double

/-- The decisions of a number format. -/
structure Layout where
  /-- Which of two equally near decimals is taken. -/
  tie : Tie
  /-- Whether a number with this power of ten before its second digit is written
  without a power of ten. -/
  positional : Int → Bool
  /-- Whether a whole number is written with a point and a zero. -/
  pointed : Bool

/-- Messages write all digits and a point only where digits follow it. -/
def Layout.plain : Layout where
  tie := .up
  positional := fun _ => true
  pointed := false

/-- The report writes a power of ten below `10 ^ -5` and from `10 ^ 16` on, and
a point in every other number. -/
def Layout.json : Layout where
  tie := .toEven
  positional := fun e => decide (-5 ≤ e ∧ e < 16)
  pointed := true

/-- Digits with the point moved: `ds` times ten to the `e`, without a power of ten. -/
def Layout.spread (layout : Layout) (negative : Bool) (ds : List Digit) (e : Int) : Numeral :=
  let ended : List Digit := if layout.pointed then [Digit.zero] else []
  if 0 ≤ e then
    { negative, whole := ds ++ List.replicate e.toNat .zero, fraction := ended }
  else
    let places := (-e).toNat
    if places < ds.length then
      { negative, whole := ds.take (ds.length - places), fraction := ds.drop (ds.length - places) }
    else
      { negative, whole := [.zero], fraction := List.replicate (places - ds.length) .zero ++ ds }

/-- The numeral of a coefficient times a power of ten. -/
def Layout.numeral (layout : Layout) (negative : Bool) (x : Scientific) : Numeral :=
  let ds := digits x.coefficient
  let lead : Int := x.exponent + (ds.length - 1 : Nat)
  if layout.positional lead then layout.spread negative ds x.exponent
  else { negative, whole := ds.take 1, fraction := ds.drop 1, exponent := some lead }

/-- The numeral of a magnitude with a sign. -/
def Magnitude.numeral (layout : Layout) (negative : Bool) (m : Magnitude) : Numeral :=
  layout.numeral negative (m.shortest layout.tie)

/-- The text of a double in a message. -/
def text : Double → String
  | .finite negative m => String.ofList (m.numeral Layout.plain negative).text
  | .infinite false => "inf"
  | .infinite true => "-inf"
  | .nan => "NaN"

end Double

end HostPreflight
