/-!
# Double-precision numbers

The memory figure and its threshold are double-precision numbers, and every
operation on them rounds.  To make that rounding a matter of natural numbers, a
magnitude is held as a count of `2 ^ -1074`, the least positive double: every
finite double is a whole multiple of it.

A count is representable when its binary digits beyond the first 53 are zeros
and it lies below `2 ^ 1024`.  Rounding takes a quotient of natural numbers to
the nearest such count, a half going to the even neighbour.

Powers are written with `Nat.pow`, which means the same whatever else is in scope.

## Main definitions

* `roundHalfEven a b` — the natural number nearest `a / b`.
* `spacing n` — the exponent of the gap between representable counts near `n`.
* `nearest a b` — the representable count nearest `a / b`.
* `Magnitude` — a representable count.
* `Double` — a signed magnitude, an infinity, or not a number.
* `Double.ofRatio` — the double nearest a quotient.

## Main statements

* `isGrid_nearest` — what `nearest` yields has no more than 53 significant bits.
-/

namespace HostPreflight

/-- The natural number nearest `a / b`, a half going to the even neighbour. -/
def roundHalfEven (a b : Nat) : Nat :=
  if b < 2 * (a % b) ∨ (2 * (a % b) = b ∧ a / b % 2 = 1) then a / b + 1 else a / b

/-- Rounding yields the quotient or its successor. -/
theorem roundHalfEven_le (a b : Nat) : roundHalfEven a b ≤ a / b + 1 := by
  unfold roundHalfEven
  split <;> omega

namespace Double

/-- The number of binary digits that a significand holds. -/
def precision : Nat := 53

/-- The gap between representable counts near `n` is `2 ^ spacing n`. -/
def spacing (n : Nat) : Nat := n.log2 + 1 - precision

/-- A count lies on the grid of its own size: it has at most 53 significant bits. -/
def IsGrid (n : Nat) : Prop := Nat.pow 2 (spacing n) ∣ n

instance (n : Nat) : Decidable (IsGrid n) := inferInstanceAs (Decidable (_ ∣ _))

/-- The count on the grid nearest `a / b`, a half going to the even neighbour. -/
def nearest (a b : Nat) : Nat :=
  roundHalfEven a (b * Nat.pow 2 (spacing (a / b))) * Nat.pow 2 (spacing (a / b))

/-- Powers of two are positive. -/
theorem pow_two_pos (n : Nat) : 0 < Nat.pow 2 n := Nat.two_pow_pos n

/-- A quotient divided by its gap has at most 53 bits. -/
theorem div_gap_lt (q : Nat) : q / Nat.pow 2 (spacing q) < Nat.pow 2 precision := by
  apply Nat.div_lt_of_lt_mul
  rcases Nat.eq_zero_or_pos q with rfl | hq
  · exact Nat.mul_pos (pow_two_pos _) (pow_two_pos _)
  · have hlog : q < Nat.pow 2 (q.log2 + 1) := (Nat.log2_lt (by omega)).1 (Nat.lt_succ_self _)
    have hexp : q.log2 + 1 ≤ spacing q + precision := by
      unfold spacing
      omega
    calc q < Nat.pow 2 (q.log2 + 1) := hlog
      _ ≤ Nat.pow 2 (spacing q + precision) := Nat.pow_le_pow_right (by decide) hexp
      _ = Nat.pow 2 (spacing q) * Nat.pow 2 precision := Nat.pow_add ..

/-- A multiple of `2 ^ s` with a factor of at most 53 bits lies on the grid. -/
theorem isGrid_mul {m s : Nat} (h : m ≤ Nat.pow 2 precision) : IsGrid (m * Nat.pow 2 s) := by
  rcases Nat.eq_zero_or_pos m with rfl | hm
  · rw [Nat.zero_mul]
    exact Nat.dvd_zero _
  have hne : m * Nat.pow 2 s ≠ 0 := Nat.ne_of_gt (Nat.mul_pos hm (pow_two_pos s))
  rcases Nat.lt_or_eq_of_le h with hlt | rfl
  · have hlog : (m * Nat.pow 2 s).log2 < precision + s := by
      refine (Nat.log2_lt hne).2 ?_
      calc m * Nat.pow 2 s < Nat.pow 2 precision * Nat.pow 2 s :=
            Nat.mul_lt_mul_of_pos_right hlt (pow_two_pos s)
        _ = Nat.pow 2 (precision + s) := (Nat.pow_add ..).symm
    have hexp : spacing (m * Nat.pow 2 s) ≤ s := by
      unfold spacing
      omega
    exact Nat.dvd_trans (Nat.pow_dvd_pow 2 hexp) (Nat.dvd_mul_left ..)
  · have sum : Nat.pow 2 precision * Nat.pow 2 s = Nat.pow 2 (precision + s) :=
      (Nat.pow_add ..).symm
    have hlog : (Nat.pow 2 (precision + s)).log2 = precision + s := Nat.log2_two_pow
    have hexp : spacing (Nat.pow 2 (precision + s)) ≤ precision + s := by
      rw [spacing, hlog]
      simp only [precision]
      omega
    rw [sum]
    exact Nat.pow_dvd_pow 2 hexp

/-- What rounding yields has no more than 53 significant bits. -/
theorem isGrid_nearest (a b : Nat) : IsGrid (nearest a b) := by
  apply isGrid_mul
  apply Nat.le_trans (roundHalfEven_le ..)
  rw [← Nat.div_div_eq_div_mul]
  exact div_gap_lt (a / b)

/-- The least positive double is `2 ^ -leastPower`. -/
def leastPower : Nat := 1074

/-- Every finite double lies below `2 ^ powerLimit`. -/
def powerLimit : Nat := 1024

/-- One, as a count. -/
def unitsPerOne : Nat := Nat.pow 2 leastPower

/-- The first count that is too large. -/
def unitsLimit : Nat := Nat.pow 2 (powerLimit + leastPower)

theorem unitsPerOne_pos : 0 < unitsPerOne := by
  unfold unitsPerOne
  exact pow_two_pos leastPower

theorem unitsLimit_pos : 0 < unitsLimit := by
  unfold unitsLimit
  exact pow_two_pos (powerLimit + leastPower)

/-- A representable count of `2 ^ -1074`. -/
structure Magnitude where
  units : Nat
  isGrid : IsGrid units
  lt_limit : units < unitsLimit
  deriving DecidableEq

namespace Magnitude

/-- The magnitude of zero. -/
def zero : Magnitude :=
  ⟨0, by simp [IsGrid], unitsLimit_pos⟩

instance : Inhabited Magnitude := ⟨zero⟩

@[ext] theorem ext {x y : Magnitude} (h : x.units = y.units) : x = y := by
  cases x
  cases y
  simpa using h

/-- The magnitude nearest `a / b` units, if it is not too large. -/
def ofUnits? (a b : Nat) : Option Magnitude :=
  if h : nearest a b < unitsLimit then some ⟨nearest a b, isGrid_nearest a b, h⟩ else none

end Magnitude

end Double

/-- A double-precision number.  The two zeros differ in sign. -/
inductive Double where
  | finite (negative : Bool) (magnitude : Double.Magnitude)
  | infinite (negative : Bool)
  | nan
  deriving DecidableEq, Inhabited

namespace Double

/-- The double nearest a count of units given as a quotient. -/
def ofUnits (negative : Bool) (a b : Nat) : Double :=
  match Magnitude.ofUnits? a b with
  | some m => .finite negative m
  | none => .infinite negative

/-- The double nearest `a / b`. -/
def ofRatio (negative : Bool) (a b : Nat) : Double := ofUnits negative (a * unitsPerOne) b

/-- The double nearest a natural number. -/
def ofNat (n : Nat) : Double := ofRatio false n 1

instance (n : Nat) : OfNat Double n := ⟨ofNat n⟩

/-- Zero. -/
def zero : Double := .finite false .zero

end Double

end HostPreflight
