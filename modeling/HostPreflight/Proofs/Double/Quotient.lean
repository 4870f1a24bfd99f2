import HostPreflight.Proofs.Double.Order

/-!
# Quotients below a whole number

A division rounds, so a number below `d * n` might on division by `d` reach `n`.  It does
not: below a number the gaps shrink at least as fast as the number does, give or take a
factor of two, and rounding moves a quotient by half a gap only.  Whole numbers that few
bits hold are divided without rounding, so they can be told from everything below them
after a division, and after several.

## Main definitions

* `IsBelow x n` — a number from zero on, below the whole number `n`.

## Main statements

* `nearest_lt` — a quotient of counts does not reach a count from below.
* `ofNat_mul_div` — a multiple of few bits is divided without rounding.
* `IsBelow.div` — a number below `d * n` is after division by `d` below `n`.
-/

namespace HostPreflight

/-- A quotient is rounded as the quotient of equal multiples. -/
theorem roundHalfEven_mul_right (a b : Nat) {c : Nat} (positive : 0 < c) :
    roundHalfEven (a * c) (b * c) = roundHalfEven a b := by
  have above : b * c < 2 * (a % b * c) ↔ b < 2 * (a % b) := by
    rw [← Nat.mul_assoc]
    exact Nat.mul_lt_mul_right positive
  have half : 2 * (a % b * c) = b * c ↔ 2 * (a % b) = b := by
    rw [← Nat.mul_assoc]
    exact Nat.mul_left_inj (Nat.ne_of_gt positive)
  unfold roundHalfEven
  rw [Nat.mul_div_mul_right _ _ positive, Nat.mul_mod_mul_right]
  simp only [above, half]

/-- A rounded quotient is above the quotient by half a unit at most. -/
theorem two_mul_roundHalfEven_mul_le (a b : Nat) :
    2 * (roundHalfEven a b * b) ≤ 2 * a + b := by
  have whole : a / b * b + a % b = a := Nat.div_add_mod' a b
  unfold roundHalfEven
  split
  · rw [Nat.add_mul]
    omega
  · omega

/-- A rounded quotient is below the quotient by half a unit at most. -/
theorem two_mul_le_roundHalfEven_mul (a : Nat) {b : Nat} (positive : 0 < b) :
    2 * a ≤ 2 * (roundHalfEven a b * b) + b := by
  have whole : a / b * b + a % b = a := Nat.div_add_mod' a b
  have part : a % b < b := Nat.mod_lt a positive
  unfold roundHalfEven
  split
  · rw [Nat.add_mul]
    omega
  · omega

namespace Double

/-! ## Counts -/

/-- The nearest count is that of equal multiples. -/
theorem nearest_mul_right (a b : Nat) {c : Nat} (positive : 0 < c) :
    nearest (a * c) (b * c) = nearest a b := by
  unfold nearest
  rw [Nat.mul_div_mul_right _ _ positive, Nat.mul_right_comm, roundHalfEven_mul_right _ _ positive]

/-- A count on the grid is found again in its multiples. -/
theorem nearest_mul_self {n v : Nat} (positive : 0 < n) (grid : IsGrid v) :
    nearest (n * v) n = v := by
  have single := nearest_mul_right v 1 positive
  rw [Nat.mul_comm v n, Nat.one_mul] at single
  rw [single, nearest_of_isGrid grid]

/-- Binary digits of a quotient and of the divisor are digits of the number that is divided. -/
theorem log2_div_add_log2_le {u d : Nat} (positive : 0 < d) (quotient : u / d ≠ 0) :
    (u / d).log2 + d.log2 ≤ u.log2 := by
  have number : u ≠ 0 := by
    rintro rfl
    exact quotient (Nat.zero_div d)
  rw [Nat.le_log2 number]
  calc Nat.pow 2 ((u / d).log2 + d.log2)
      = Nat.pow 2 (u / d).log2 * Nat.pow 2 d.log2 := Nat.pow_add ..
    _ ≤ u / d * d :=
        Nat.mul_le_mul (Nat.log2_self_le quotient) (Nat.log2_self_le (Nat.ne_of_gt positive))
    _ ≤ u := Nat.div_mul_le_self u d

/-- Where the quotient has gaps, the gaps of the number that is divided are wider by all but
one of the binary digits of the divisor. -/
theorem spacing_div_add_log2_le {u d : Nat} (positive : 0 < d) (gaps : 0 < spacing (u / d)) :
    spacing (u / d) + d.log2 ≤ spacing u := by
  have quotient : u / d ≠ 0 := by
    intro zero
    simp [zero, spacing, precision] at gaps
  have digits := log2_div_add_log2_le positive quotient
  unfold spacing at gaps ⊢
  omega

/-- Two counts that lie on the grid of the smaller one differ by a gap at least. -/
theorem gap_le_sub {u w : Nat} (grid : IsGrid u) (grid' : IsGrid w) (below : u < w) :
    Nat.pow 2 (spacing u) ≤ w - u := by
  have coarser : Nat.pow 2 (spacing u) ∣ w :=
    Nat.dvd_trans (Nat.pow_dvd_pow 2 (spacing_mono (Nat.le_of_lt below))) grid'
  exact Nat.le_of_dvd (Nat.sub_pos_of_lt below) (Nat.dvd_sub coarser grid)

/-- **A rounded quotient does not reach a count from below.**  The count must be one above
which there are gaps: among the least counts rounding moves a number by more than its own
distance from the next. -/
theorem nearest_lt {u d v : Nat} (positive : 0 < d) (grid : IsGrid u) (grid' : IsGrid (d * v))
    (below : u < d * v) (large : Nat.pow 2 precision < v) : nearest u d < v := by
  refine Nat.lt_of_not_le fun reached => ?_
  have gaps : 0 < spacing (u / d) := by
    refine Nat.pos_of_ne_zero fun none => ?_
    have little := nearest_le u d
    rw [none, Nat.add_zero] at little
    omega
  -- the gap below `d * v` is wider than half of `d` gaps of the quotient
  have apart : Nat.pow 2 (spacing u) ≤ d * v - u := gap_le_sub grid grid' below
  have wider : Nat.pow 2 (spacing (u / d) + d.log2) ≤ Nat.pow 2 (spacing u) :=
    Nat.pow_le_pow_right (by decide) (spacing_div_add_log2_le positive gaps)
  have digits : d < Nat.pow 2 (d.log2 + 1) :=
    (Nat.log2_lt (Nat.ne_of_gt positive)).1 (Nat.lt_succ_self _)
  have half : d * Nat.pow 2 (spacing (u / d)) < 2 * (d * v - u) := by
    calc d * Nat.pow 2 (spacing (u / d))
        < Nat.pow 2 (d.log2 + 1) * Nat.pow 2 (spacing (u / d)) :=
          Nat.mul_lt_mul_of_pos_right digits (pow_two_pos _)
      _ = Nat.pow 2 (spacing (u / d) + d.log2 + 1) := by
          rw [Nat.add_assoc, Nat.add_comm (spacing _)]
          exact (Nat.pow_add ..).symm
      _ = 2 * Nat.pow 2 (spacing (u / d) + d.log2) := Nat.pow_succ'
      _ ≤ 2 * (d * v - u) := Nat.mul_le_mul_left 2 (Nat.le_trans wider apart)
  -- but rounding moves a quotient by half a gap at most
  have moved : 2 * (d * v) ≤ 2 * u + d * Nat.pow 2 (spacing (u / d)) := by
    calc 2 * (d * v) ≤ 2 * (d * nearest u d) :=
          Nat.mul_le_mul_left 2 (Nat.mul_le_mul_left d reached)
      _ = 2 * (roundHalfEven u (d * Nat.pow 2 (spacing (u / d)))
            * (d * Nat.pow 2 (spacing (u / d)))) := by
          rw [nearest, Nat.mul_left_comm d]
      _ ≤ 2 * u + d * Nat.pow 2 (spacing (u / d)) := two_mul_roundHalfEven_mul_le ..
  omega

/-! ## Numbers -/

/-- The quotient of two numbers from zero on is rounded once. -/
theorem div_eq_ofUnits (a : Magnitude) {d : Magnitude} (positive : 0 < d.units) :
    (.finite false a : Double) / .finite false d =
      ofUnits false (a.units * unitsPerOne) d.units :=
  if_neg (Nat.ne_of_gt positive)

/-- A rounded number of units that lies on the grid below the limit is the number of its
nearest count. -/
theorem ofUnits_of_lt {a b : Nat} (small : nearest a b < unitsLimit) :
    ofUnits false a b = .finite false ⟨nearest a b, isGrid_nearest a b, small⟩ :=
  ofUnits_of_some (dif_pos small)

/-- A number from zero on, below the whole number `n`. -/
def IsBelow (x : Double) (n : Nat) : Prop :=
  ∃ m : Magnitude, x = .finite false m ∧ m.units < n * unitsPerOne

/-- A smaller power of two. -/
theorem pow_two_lt_pow_two {a b : Nat} (h : a < b) : Nat.pow 2 a < Nat.pow 2 b :=
  Nat.pow_lt_pow_right (by decide) h

/-- There are gaps above the count of one. -/
theorem pow_precision_lt_unitsPerOne : Nat.pow 2 precision < unitsPerOne := by
  unfold unitsPerOne
  exact pow_two_lt_pow_two (by decide)

variable {x : Double} {n d k : Nat}

/-- A whole number of few bits lies below every greater one. -/
theorem isBelow_ofNat (few : n ≤ Nat.pow 2 precision) (h : k < n) : IsBelow (ofNat k) n := by
  obtain ⟨m, value, units⟩ := ofNat_eq_finite (Nat.le_trans (Nat.le_of_lt h) few)
  refine ⟨m, value, ?_⟩
  rw [units]
  exact Nat.mul_lt_mul_of_pos_right h unitsPerOne_pos

/-- A whole number is not at most what lies below it. -/
theorem IsBelow.atMost_eq_false (h : IsBelow x n) (few : n ≤ Nat.pow 2 precision) :
    (ofNat n).atMost x = false := by
  obtain ⟨m, rfl, below⟩ := h
  obtain ⟨whole, value, units⟩ := ofNat_eq_finite few
  rw [value, ← Bool.not_eq_true, atMost_iff]
  rintro ⟨-, -, ordered⟩
  have counts : whole.units ≤ m.units := Int.ofNat_le.1 ordered
  omega

/-- A multiple of few bits is divided without rounding. -/
theorem ofNat_mul_div (positive : 0 < d) (few : d * n ≤ Nat.pow 2 precision)
    (few' : d ≤ Nat.pow 2 precision) : ofNat (d * n) / ofNat d = ofNat n := by
  have fewer : n ≤ Nat.pow 2 precision := Nat.le_trans (Nat.le_mul_of_pos_left n positive) few
  obtain ⟨a, dividend, aUnits⟩ := ofNat_eq_finite few
  obtain ⟨b, divisor, bUnits⟩ := ofNat_eq_finite few'
  obtain ⟨m, quotient, mUnits⟩ := ofNat_eq_finite fewer
  have scale : 0 < b.units := by
    rw [bUnits]
    exact Nat.mul_pos positive unitsPerOne_pos
  have counts : a.units * unitsPerOne = d * m.units * unitsPerOne := by
    rw [aUnits, mUnits, Nat.mul_assoc d]
  have exact : nearest (a.units * unitsPerOne) b.units = m.units := by
    rw [counts, bUnits, nearest_mul_right _ _ unitsPerOne_pos, nearest_mul_self positive m.isGrid]
  have small : nearest (a.units * unitsPerOne) b.units < unitsLimit := exact ▸ m.lt_limit
  rw [dividend, divisor, quotient, div_eq_ofUnits a scale, ofUnits_of_lt small]
  exact congrArg (Double.finite false) (Magnitude.ext exact)

/-- **A number below a multiple is below the factor after the division.** -/
theorem IsBelow.div (h : IsBelow x (d * n)) (few : d * n ≤ Nat.pow 2 precision) :
    IsBelow (x / ofNat d) n := by
  obtain ⟨a, rfl, below⟩ := h
  have product : 0 < d * n := by
    refine Nat.pos_of_ne_zero fun zero => ?_
    rw [zero, Nat.zero_mul] at below
    exact absurd below (Nat.not_lt_zero _)
  have positive : 0 < d := Nat.pos_of_mul_pos_right product
  have factor : 0 < n := Nat.pos_of_mul_pos_left product
  have few' : d ≤ Nat.pow 2 precision := Nat.le_trans (Nat.le_mul_of_pos_right d factor) few
  obtain ⟨b, divisor, bUnits⟩ := ofNat_eq_finite few'
  obtain ⟨w, -, wUnits⟩ := ofNat_eq_finite few
  have scale : 0 < b.units := by
    rw [bUnits]
    exact Nat.mul_pos positive unitsPerOne_pos
  have multiple : IsGrid (d * (n * unitsPerOne)) := by
    rw [← Nat.mul_assoc, ← wUnits]
    exact w.isGrid
  have large : Nat.pow 2 precision < n * unitsPerOne := by
    calc Nat.pow 2 precision < unitsPerOne := pow_precision_lt_unitsPerOne
      _ ≤ n * unitsPerOne := Nat.le_mul_of_pos_left _ factor
  rw [Nat.mul_assoc] at below
  have quotient : nearest (a.units * unitsPerOne) b.units < n * unitsPerOne := by
    rw [bUnits, nearest_mul_right _ _ unitsPerOne_pos]
    exact nearest_lt positive a.isGrid multiple below large
  have small : nearest (a.units * unitsPerOne) b.units < unitsLimit := by
    calc nearest (a.units * unitsPerOne) b.units < n * unitsPerOne := quotient
      _ ≤ d * n * unitsPerOne := Nat.mul_le_mul_right _ (Nat.le_mul_of_pos_left n positive)
      _ = w.units := wUnits.symm
      _ ≤ unitsLimit := Nat.le_of_lt w.lt_limit
  rw [divisor, div_eq_ofUnits a scale, ofUnits_of_lt small]
  exact ⟨_, rfl, quotient⟩

end Double

end HostPreflight
