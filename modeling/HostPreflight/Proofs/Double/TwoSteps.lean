import HostPreflight.Proofs.Double.Interval
import HostPreflight.Proofs.Double.Numeral

/-!
# Rounding before a division

Rounding the number that is divided, and then the quotient, is not the same as rounding the
quotient alone.  It is nearly so: the first rounding moves the quotient by less than the
distance from one end of an interval to the far end of the next one, so the two results are
equal or neighbours.

The first rounding moves a number by at most its `2 ^ -53`th part.  That is at most a gap of
the quotient, but below a power of two the gaps are half as wide, and there it matters on
which side of the power the quotient lies.

## Main definitions

* `Magnitude.Beside x y` — no magnitude stands strictly between `x` and `y`.

## Main statements

* `nearest_one_error` — how far rounding moves a number.
* `Magnitude.beside_of_two_steps` — the two results are equal or neighbours.
-/

namespace HostPreflight.Double

/-- Rounding moves a number by half of its `2 ^ -52`th part at most. -/
theorem nearest_one_error (a : Nat) :
    ∃ error, 2 * nearest a 1 ≤ 2 * a + error ∧ 2 * a ≤ 2 * nearest a 1 + error ∧
      Nat.pow 2 (precision - 1) * error ≤ a := by
  have rounded : nearest a 1 =
      roundHalfEven a (Nat.pow 2 (spacing a)) * Nat.pow 2 (spacing a) := by
    rw [nearest, Nat.div_one, Nat.one_mul]
  rcases Nat.eq_zero_or_pos (spacing a) with none | gaps
  · -- a number with no more than 53 bits stays
    have exact : nearest a 1 = a := by
      apply nearest_of_isGrid
      rw [IsGrid, none]
      exact Nat.one_dvd a
    exact ⟨0, by omega, by omega, Nat.zero_le a⟩
  · refine ⟨Nat.pow 2 (spacing a), ?_, ?_, pow_mul_gap_le gaps⟩
    · rw [rounded]
      exact two_mul_roundHalfEven_mul_le a _
    · rw [rounded]
      exact two_mul_le_roundHalfEven_mul a (pow_two_pos _)

namespace Magnitude

/-- No magnitude stands strictly between the two: they are equal or neighbours. -/
def Beside (x y : Magnitude) : Prop :=
  ∀ w : Magnitude, ¬ (x.units < w.units ∧ w.units < y.units) ∧
    ¬ (y.units < w.units ∧ w.units < x.units)

variable {w : Magnitude} {a d : Nat}

/-- A significand has 53 bits at most. -/
theorem units_mul_add_le (m : Magnitude) (d : Nat) :
    m.units * d + m.gap * d ≤ 2 * (Nat.pow 2 (precision - 1) * (m.gap * d)) := by
  have double : Nat.pow 2 precision = 2 * Nat.pow 2 (precision - 1) := by decide
  rw [← Nat.add_mul, ← Nat.mul_assoc, ← Nat.mul_assoc, ← double]
  exact Nat.mul_le_mul_right d m.units_add_gap_le

/-- Before the next magnitude, rounding does not move a number from one end of the interval to
the other. -/
theorem two_mul_error_lt (positive : 0 < d) (near : a < w.units * d + w.gap * d) {error : Nat}
    (small : Nat.pow 2 (precision - 1) * error ≤ a) :
    2 * error < 2 * (w.gap * d) + w.halfGapBelow * d := by
  refine Nat.not_le.1 fun moved => ?_
  have gap : 0 < w.gap * d := Nat.mul_pos w.gap_pos positive
  rcases w.halfGapBelow_eq with wide | ⟨narrow, power⟩
  · have bound := w.units_mul_add_le d
    rw [wide, Nat.mul_assoc] at moved
    have scaled := Nat.mul_le_mul_left (Nat.pow 2 (precision - 1))
      (show 2 * (w.gap * d) ≤ error by omega)
    rw [Nat.mul_left_comm] at scaled
    omega
  · -- a power of two is as many gaps as there are significands of 53 bits
    have units : w.units * d = Nat.pow 2 (precision - 1) * (w.gap * d) := by
      rw [← Nat.mul_assoc, ← power]
    have many : 2 * (w.gap * d) ≤ Nat.pow 2 (precision - 1) * (w.gap * d) :=
      Nat.mul_le_mul_right _ (by decide)
    rw [narrow] at moved
    have scaled := Nat.mul_le_mul_left (Nat.pow 2 (precision - 1))
      (show 3 * (w.gap * d) ≤ 2 * error by omega)
    rw [Nat.mul_left_comm, Nat.mul_left_comm _ 2] at scaled
    omega

/-- **The first rounding does not carry a quotient past a larger magnitude.** -/
theorem nearest_nearest_le (positive : 0 < d) (below : nearest a d < w.units) :
    nearest (nearest a 1) d ≤ w.units := by
  refine Nat.not_lt.1 fun passed => ?_
  have start := le_low_mul positive below
  have stop := high_mul_le positive passed
  have low := low_mul (Nat.zero_lt_of_lt below) d
  have high := w.high_mul d
  have gap : 0 < w.gap * d := Nat.mul_pos w.gap_pos positive
  obtain ⟨error, most, -, small⟩ := nearest_one_error a
  have near : a < w.units * d + w.gap * d := by omega
  have short := two_mul_error_lt positive near small
  omega

/-- **The first rounding does not carry a quotient past a smaller magnitude.** -/
theorem le_nearest_nearest (positive : 0 < d) (above : w.units < nearest a d) :
    w.units ≤ nearest (nearest a 1) d := by
  refine Nat.not_lt.1 fun passed => ?_
  have start := high_mul_le positive above
  have stop := le_low_mul positive passed
  have low := low_mul (Nat.zero_lt_of_lt passed) d
  have high := w.high_mul d
  rcases Nat.lt_or_ge a (w.units * d + w.gap * d) with near | beyond
  · obtain ⟨error, -, most, small⟩ := nearest_one_error a
    have short := two_mul_error_lt positive near small
    omega
  · -- then even the next magnitude would have moved past `w`
    obtain ⟨error, -, most, small⟩ := nearest_one_error (w.units * d + w.gap * d)
    have less := nearest_mono 1 beyond
    have half : 0 < w.halfGapBelow * d := Nat.mul_pos w.halfGapBelow_pos positive
    have bound := w.units_mul_add_le d
    have scaled := Nat.mul_le_mul_left (Nat.pow 2 (precision - 1))
      (show 2 * (w.gap * d) + 1 ≤ error by omega)
    have power := pow_two_pos (precision - 1)
    rw [Nat.mul_add, Nat.mul_left_comm, Nat.mul_one] at scaled
    omega

/-- **Rounding before a division.**  The two ways to round a quotient give the same magnitude
or neighbours. -/
theorem beside_of_two_steps {x y : Magnitude} (positive : 0 < d) (once : nearest a d = x.units)
    (twice : nearest (nearest a 1) d = y.units) : x.Beside y := by
  intro w
  constructor
  · rintro ⟨below, above⟩
    have := nearest_nearest_le positive (once ▸ below)
    omega
  · rintro ⟨above, below⟩
    have := le_nearest_nearest positive (once ▸ below)
    omega

end Magnitude

end HostPreflight.Double
