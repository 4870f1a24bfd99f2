import HostPreflight.Double.Basic

/-!
# Shortest decimals

The decimal that stands for a double is the shortest one that rounds back to it.
The numbers that round to a given magnitude form an interval around it, whose
ends belong to it when the significand is even.  Among the grids of multiples of
a power of ten, the coarsest one that meets the interval gives the fewest
digits; of its members in the interval the one nearest the magnitude is taken.

Everything is compared as natural numbers, in quarters of a unit, so that the
midpoints between neighbours are whole.

## Main definitions

* `Magnitude.low`, `Magnitude.high` — the ends of the interval, in quarter units.
* `Scientific` — a coefficient times a power of ten.
* `Magnitude.onGrid? tie e m` — the multiple of `10 ^ e` that stands for `m`.
* `Magnitude.shortest tie m` — the shortest decimal that stands for `m`.
-/

namespace HostPreflight.Double

/-- Which of two equally near decimals is taken. -/
inductive Tie where
  /-- The larger one. -/
  | up
  /-- The one with an even last digit. -/
  | toEven
  deriving DecidableEq

/-- A coefficient times a power of ten. -/
structure Scientific where
  coefficient : Nat
  exponent : Int
  deriving DecidableEq, Repr

namespace Magnitude

/-- One, in quarter units. -/
def quartersPerOne : Nat := 4 * unitsPerOne

/-- The gap to the next larger magnitude, in units. -/
def gap (m : Magnitude) : Nat := Nat.pow 2 (spacing m.units)

/-- The gap to the next smaller magnitude, in half units: below a power of two
the grid is twice as fine, except where it is finest already. -/
def halfGapBelow (m : Magnitude) : Nat :=
  if m.units = Nat.pow 2 (precision - 1) * m.gap ∧ 1 < m.gap then m.gap else 2 * m.gap

/-- The lower end of the interval that rounds to `m`, in quarter units. -/
def low (m : Magnitude) : Nat := 4 * m.units - m.halfGapBelow

/-- The upper end of the interval that rounds to `m`, in quarter units. -/
def high (m : Magnitude) : Nat := 4 * m.units + 2 * m.gap

/-- Whether the ends belong to the interval: a half rounds to the even significand. -/
def endsBelong (m : Magnitude) : Bool := m.units / m.gap % 2 == 0

/-- Whether `x / d` quarter units lie in the interval that rounds to `m`. -/
def covers (m : Magnitude) (x d : Nat) : Bool :=
  if m.endsBelong then m.low * d ≤ x && x ≤ m.high * d
  else m.low * d < x && x < m.high * d

/-- The multiple of `10 ^ e` in the interval that rounds to `m`, the nearest one
if there are several: one of the two neighbours of `m` on that grid. -/
def onGrid? (tie : Tie) (e : Int) (m : Magnitude) : Option Nat :=
  let step := Nat.pow 10 e.toNat * quartersPerOne
  let scale := Nat.pow 10 (-e).toNat
  let middle := 4 * m.units * scale
  let below := middle / step
  match m.covers (below * step) scale, m.covers ((below + 1) * step) scale with
  | false, false => none
  | true, false => some below
  | false, true => some (below + 1)
  | true, true =>
    match compare (2 * middle) ((2 * below + 1) * step), tie with
    | .lt, _ => some below
    | .gt, _ => some (below + 1)
    | .eq, .up => some (below + 1)
    | .eq, .toEven => if below % 2 = 0 then some below else some (below + 1)

/-- The exponent of the coarsest grid that is tried: every double lies below `10 ^ 309`. -/
def coarsest : Int := 309

/-- The first grid that meets the interval, from `10 ^ e` down through `tries`
finer ones. -/
def firstGrid (tie : Tie) (m : Magnitude) : (tries : Nat) → (e : Int) → Option Scientific
  | 0, _ => none
  | tries + 1, e =>
    match m.onGrid? tie e with
    | some c => some ⟨c, e⟩
    | none => firstGrid tie m tries (e - 1)

/-- The shortest decimal that rounds to `m`.  The grid of `10 ^ -324` is finer
than the gap between any two doubles, so the search ends before it gives up. -/
def shortest (tie : Tie) (m : Magnitude) : Scientific :=
  if m.units = 0 then ⟨0, 0⟩
  else (firstGrid tie m 634 coarsest).getD ⟨0, 0⟩

end Magnitude

end HostPreflight.Double
