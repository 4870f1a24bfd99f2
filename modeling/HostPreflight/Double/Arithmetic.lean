import HostPreflight.Double.Basic

/-!
# Arithmetic of doubles

The operations that the memory check and the number reader use.  Each is the
exact operation on the values followed by one rounding, with the usual rules
for infinities and for what is not a number.

## Main definitions

* `Double.neg`, `Double.mul`, `Double.div` — one rounded operation each.
* `Double.atMost x y` — the comparison `x ≤ y`, false when either is not a number.
* `Double.equal x y` — numerical equality: the two zeros are equal, and what is
  not a number differs from itself.
-/

namespace HostPreflight.Double

/-- The number with the other sign. -/
def neg : Double → Double
  | .finite negative m => .finite (!negative) m
  | .infinite negative => .infinite (!negative)
  | .nan => .nan

instance : Neg Double := ⟨neg⟩

/-- Whether the number is one of the two zeros. -/
def isZero : Double → Bool
  | .finite _ m => m.units == 0
  | _ => false

/-- Whether the number is finite. -/
def isFinite : Double → Bool
  | .finite .. => true
  | _ => false

/-- Whether the sign is negative; false for what is not a number. -/
def isNegative : Double → Bool
  | .finite negative _ => negative
  | .infinite negative => negative
  | .nan => false

/-- The rounded product. -/
def mul (x y : Double) : Double :=
  let negative := x.isNegative != y.isNegative
  match x, y with
  | .nan, _ | _, .nan => .nan
  | .finite _ a, .finite _ b => ofUnits negative (a.units * b.units) unitsPerOne
  | _, _ => if x.isZero || y.isZero then .nan else .infinite negative

instance : Mul Double := ⟨mul⟩

/-- The rounded quotient. -/
def div (x y : Double) : Double :=
  let negative := x.isNegative != y.isNegative
  match x, y with
  | .nan, _ | _, .nan => .nan
  | .infinite _, .infinite _ => .nan
  | .infinite _, .finite .. => .infinite negative
  | .finite .., .infinite _ => .finite negative .zero
  | .finite _ a, .finite _ b =>
    if b.units = 0 then if a.units = 0 then .nan else .infinite negative
    else ofRatio negative a.units b.units

instance : Div Double := ⟨div⟩

/-- Where a number stands on the line: its signed count of units, with the
infinities beyond every finite count. -/
def position? : Double → Option Int
  | .finite false m => some m.units
  | .finite true m => some (-m.units)
  | .infinite false => some unitsLimit
  | .infinite true => some (-unitsLimit)
  | .nan => none

/-- The comparison `x ≤ y`; false when either side is not a number. -/
def atMost (x y : Double) : Bool :=
  match x.position?, y.position? with
  | some a, some b => a ≤ b
  | _, _ => false

/-- Numerical equality: the two zeros are equal, and what is not a number
differs from itself. -/
def equal (x y : Double) : Bool := x.atMost y && y.atMost x

end HostPreflight.Double
