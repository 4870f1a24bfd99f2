import HostPreflight.Proofs.Double.Numeral
import HostPreflight.Proofs.Double.Quotient

/-!
# The interval that rounds to a magnitude

The search for the shortest decimal asks of a decimal whether it lies in an interval around
the magnitude.  These intervals are the ones of rounding: a quotient rounds to a magnitude
exactly if it lies in its interval.  So every decimal lies in the interval of one magnitude
at most, and reading a decimal exactly would give back the magnitude that it was written for.

The upper ends come first.  The lower end of a magnitude is the upper end of the one before
it, and it belongs to the other of the two, since just one of two neighbours is even.

## Main definitions

* `Magnitude.Precedes p m` — the magnitude `p` comes just before `m`.

## Main statements

* `Magnitude.lt_nearest_iff`, `Magnitude.nearest_lt_iff` — the two ends of the interval.
* `Magnitude.covers_iff` — a quotient lies in the interval exactly if it rounds to the
  magnitude.
-/

namespace HostPreflight

/-- Rounding exceeds a number beyond the half above it, and at that half if the number is odd. -/
theorem lt_roundHalfEven_iff {a b n : Nat} (positive : 0 < b) :
    n < roundHalfEven a b ↔
      if n % 2 = 0 then (2 * n + 1) * b < 2 * a else (2 * n + 1) * b ≤ 2 * a := by
  have whole : b * (a / b) + a % b = a := Nat.div_add_mod a b
  have part : a % b < b := Nat.mod_lt a positive
  have odd : (2 * n + 1) * b = 2 * (b * n) + b := by
    rw [Nat.add_mul, Nat.one_mul, Nat.mul_assoc, Nat.mul_comm n]
  rcases Nat.lt_trichotomy (a / b) n with below | same | above
  · have least : b * (a / b + 1) ≤ b * n := Nat.mul_le_mul_left b below
    have rounded := roundHalfEven_le a b
    rw [Nat.mul_add, Nat.mul_one] at least
    split <;> omega
  · rw [same] at whole
    unfold roundHalfEven
    rw [same]
    split <;> split <;> omega
  · have least : b * (n + 1) ≤ b * (a / b) := Nat.mul_le_mul_left b above
    have rounded := div_le_roundHalfEven a b
    rw [Nat.mul_add, Nat.mul_one] at least
    split <;> omega

namespace Double.Magnitude

variable {m : Magnitude}

/-! ## The grid around a magnitude -/

theorem gap_pos (m : Magnitude) : 0 < m.gap := pow_two_pos _

/-- A magnitude is a whole number of gaps. -/
theorem significand_mul_gap (m : Magnitude) : m.units / m.gap * m.gap = m.units :=
  Nat.div_mul_cancel m.isGrid

/-- A significand has at most 53 bits. -/
theorem significand_lt (m : Magnitude) : m.units / m.gap < Nat.pow 2 precision :=
  div_gap_lt m.units

/-- Where there are gaps, a significand has 53 bits. -/
theorem le_significand (gaps : 0 < spacing m.units) :
    Nat.pow 2 (precision - 1) ≤ m.units / m.gap := by
  rw [Nat.le_div_iff_mul_le m.gap_pos]
  exact pow_mul_gap_le gaps

/-- The next count, by its significand. -/
theorem significand_add_one_mul_gap (m : Magnitude) :
    (m.units / m.gap + 1) * m.gap = m.units + m.gap := by
  rw [Nat.add_mul, Nat.one_mul, m.significand_mul_gap]

/-- The next count lies on the grid. -/
theorem isGrid_add_gap (m : Magnitude) : IsGrid (m.units + m.gap) := by
  rw [← m.significand_add_one_mul_gap]
  exact isGrid_mul m.significand_lt

/-- The next count is within reach of 53 bits. -/
theorem units_add_gap_le (m : Magnitude) : m.units + m.gap ≤ Nat.pow 2 precision * m.gap := by
  rw [← m.significand_add_one_mul_gap]
  exact Nat.mul_le_mul_right _ m.significand_lt

/-- A magnitude that is not a power of two is as far from the one before as from the next. -/
theorem halfGapBelow_eq (m : Magnitude) :
    m.halfGapBelow = 2 * m.gap ∨
      m.halfGapBelow = m.gap ∧ m.units = Nat.pow 2 (precision - 1) * m.gap := by
  unfold halfGapBelow
  split
  · rename_i boundary
    exact .inr ⟨rfl, boundary.1⟩
  · exact .inl rfl

theorem halfGapBelow_pos (m : Magnitude) : 0 < m.halfGapBelow := by
  have gap := m.gap_pos
  have below := m.halfGapBelow_eq
  omega

/-- The lower end, counted from the magnitude. -/
theorem low_add (positive : 0 < m.units) : m.low + m.halfGapBelow = 4 * m.units := by
  have gap := gap_le_units (Nat.ne_of_gt positive)
  have below := m.halfGapBelow_eq
  unfold low
  omega

/-- The lower end, in quarters of a fraction of a unit. -/
theorem low_mul (positive : 0 < m.units) (d : Nat) :
    m.low * d + m.halfGapBelow * d = 4 * (m.units * d) := by
  rw [← Nat.add_mul, low_add positive, Nat.mul_assoc]

/-- The upper end, in quarters of a fraction of a unit. -/
theorem high_mul (m : Magnitude) (d : Nat) :
    m.high * d = 4 * (m.units * d) + 2 * (m.gap * d) := by
  rw [high, Nat.add_mul, Nat.mul_assoc, Nat.mul_assoc]

/-- Up to the next magnitude the gaps stay as they are. -/
theorem spacing_eq {q : Nat} (least : m.units ≤ q) (most : q < m.units + m.gap) :
    spacing q = spacing m.units := by
  refine Nat.le_antisymm ?_ (spacing_mono least)
  have bound : q < Nat.pow 2 (precision + spacing m.units) := by
    calc q < m.units + m.gap := most
      _ ≤ Nat.pow 2 precision * m.gap := m.units_add_gap_le
      _ = Nat.pow 2 (precision + spacing m.units) := (Nat.pow_add ..).symm
  rcases Nat.eq_zero_or_pos q with rfl | positive
  · exact Nat.zero_le _
  · have digits := (Nat.log2_lt (Nat.ne_of_gt positive)).2 bound
    unfold spacing at digits ⊢
    omega

/-! ## The upper end -/

/-- On the grid of a magnitude, quotients are compared with it by their significands. -/
theorem lt_nearest_iff_lt_roundHalfEven {x d : Nat} (same : spacing (x / d) = spacing m.units) :
    m.units < nearest x d ↔ m.units / m.gap < roundHalfEven x (d * m.gap) := by
  have scaled : m.units / m.gap * m.gap < roundHalfEven x (d * m.gap) * m.gap ↔ _ :=
    Nat.mul_lt_mul_right m.gap_pos
  rw [m.significand_mul_gap] at scaled
  rw [nearest, same]
  exact scaled

/-- **A quotient rounds to more than a magnitude exactly beyond the upper end of its
interval.** -/
theorem lt_nearest_iff {x d : Nat} (positive : 0 < d) :
    m.units < nearest x d ↔
      if m.endsBelong then m.high * d < 4 * x else m.high * d ≤ 4 * x := by
  have high := m.high_mul d
  have gap : 0 < m.gap * d := Nat.mul_pos m.gap_pos positive
  rcases Nat.lt_or_ge (x / d) m.units with below | least
  · -- the quotient lies below the magnitude
    have small : x < m.units * d := (Nat.div_lt_iff_lt_mul positive).1 below
    have rounded : nearest x d ≤ m.units := by
      rw [← nearest_mul_self positive m.isGrid, Nat.mul_comm d]
      exact nearest_mono d (Nat.le_of_lt small)
    split <;> omega
  rcases Nat.lt_or_ge (x / d) (m.units + m.gap) with near | beyond
  · -- the quotient lies between the magnitude and the next one
    have middle : (2 * (m.units / m.gap) + 1) * (d * m.gap) =
        2 * (m.units * d) + m.gap * d := by
      rw [Nat.add_mul, Nat.one_mul, Nat.mul_comm d, Nat.mul_assoc,
        ← Nat.mul_assoc (m.units / m.gap), m.significand_mul_gap]
    rw [lt_nearest_iff_lt_roundHalfEven (spacing_eq least near),
      lt_roundHalfEven_iff (Nat.mul_pos positive m.gap_pos), middle, high, endsBelong]
    simp only [beq_iff_eq]
    split <;> omega
  · -- the quotient reaches the next magnitude
    have large : (m.units + m.gap) * d ≤ x := (Nat.le_div_iff_mul_le positive).1 beyond
    have rounded : m.units + m.gap ≤ nearest x d := by
      rw [← nearest_mul_self positive m.isGrid_add_gap, Nat.mul_comm d]
      exact nearest_mono d large
    have next := m.gap_pos
    rw [Nat.add_mul] at large
    split <;> omega

/-- What rounds to more than a magnitude lies beyond the end or at it. -/
theorem high_mul_le {x d : Nat} (positive : 0 < d) (h : m.units < nearest x d) :
    m.high * d ≤ 4 * x := by
  have beyond := (lt_nearest_iff positive).1 h
  split at beyond <;> omega

/-! ## The lower end -/

/-- A significand of 53 bits and a power of two are the parts of a count. -/
theorem spacing_mul_pow {n t : Nat} (small : n < Nat.pow 2 precision)
    (digits : t = 0 ∨ Nat.pow 2 (precision - 1) ≤ n) : spacing (n * Nat.pow 2 t) = t := by
  have most : n * Nat.pow 2 t < Nat.pow 2 (precision + t) := by
    calc n * Nat.pow 2 t < Nat.pow 2 precision * Nat.pow 2 t :=
          Nat.mul_lt_mul_of_pos_right small (pow_two_pos t)
      _ = Nat.pow 2 (precision + t) := (Nat.pow_add ..).symm
  have above : spacing (n * Nat.pow 2 t) ≤ t := by
    rcases Nat.eq_zero_or_pos (n * Nat.pow 2 t) with zero | positive
    · rw [zero]
      exact Nat.zero_le t
    · have log := (Nat.log2_lt (Nat.ne_of_gt positive)).2 most
      unfold spacing
      omega
  rcases digits with rfl | large
  · exact Nat.le_zero.1 above
  · have least : Nat.pow 2 (precision - 1 + t) ≤ n * Nat.pow 2 t := by
      calc Nat.pow 2 (precision - 1 + t)
          = Nat.pow 2 (precision - 1) * Nat.pow 2 t := Nat.pow_add ..
        _ ≤ n * Nat.pow 2 t := Nat.mul_le_mul_right _ large
    have nonzero : n * Nat.pow 2 t ≠ 0 :=
      Nat.ne_of_gt (Nat.lt_of_lt_of_le (pow_two_pos _) least)
    have log := (Nat.le_log2 nonzero).2 least
    unfold spacing precision at above log ⊢
    omega

/-- The magnitude with a given significand. -/
theorem exists_of_significand {n t : Nat} (small : n < Nat.pow 2 precision)
    (digits : t = 0 ∨ Nat.pow 2 (precision - 1) ≤ n) (bound : n * Nat.pow 2 t < unitsLimit) :
    ∃ p : Magnitude, p.units = n * Nat.pow 2 t ∧ p.gap = Nat.pow 2 t ∧
      p.endsBelong = (n % 2 == 0) := by
  have gap : Nat.pow 2 (spacing (n * Nat.pow 2 t)) = Nat.pow 2 t := by
    rw [spacing_mul_pow small digits]
  have significand : n * Nat.pow 2 t / Nat.pow 2 t = n := Nat.mul_div_cancel n (pow_two_pos t)
  refine ⟨⟨n * Nat.pow 2 t, isGrid_mul (Nat.le_of_lt small), bound⟩, rfl, gap, ?_⟩
  simp only [endsBelong, Magnitude.gap, gap, significand]

/-- The magnitude `p` comes just before `m`, and of the two significands one is even. -/
structure Precedes (p m : Magnitude) : Prop where
  sum : p.units + p.gap = m.units
  half : m.halfGapBelow = 2 * p.gap
  parity : p.endsBelong = !m.endsBelong

/-- The interval of a magnitude begins where that of the one before ends. -/
theorem Precedes.high_eq {p : Magnitude} (h : p.Precedes m) : p.high = m.low := by
  have sum := h.sum
  have half := h.half
  unfold high low
  omega

/-- Before a power of two the significand is all ones, on a grid twice as fine. -/
theorem exists_precedes_of_power (power : m.units = Nat.pow 2 (precision - 1) * m.gap)
    (fine : 1 < m.gap) : ∃ p : Magnitude, p.Precedes m := by
  have limit := m.lt_limit
  obtain ⟨t, exponent⟩ : ∃ t, spacing m.units = t + 1 := by
    refine Nat.exists_eq_add_one.2 (Nat.pos_of_ne_zero fun zero => ?_)
    rw [gap, zero] at fine
    exact Nat.lt_irrefl 1 fine
  have gap : m.gap = 2 * Nat.pow 2 t := by
    rw [gap, exponent]
    exact Nat.pow_succ'
  have even : m.endsBelong = true := by
    rw [endsBelong, power, Nat.mul_div_cancel _ m.gap_pos]
    decide
  have units : m.units = (Nat.pow 2 precision - 1) * Nat.pow 2 t + Nat.pow 2 t := by
    have double : Nat.pow 2 (precision - 1) * 2 = Nat.pow 2 precision - 1 + 1 := by decide
    rw [power, gap, ← Nat.mul_assoc, double, Nat.add_mul, Nat.one_mul]
  obtain ⟨p, pUnits, pGap, parity⟩ := exists_of_significand (n := Nat.pow 2 precision - 1)
    (t := t) (by decide) (.inr (by decide)) (by omega)
  refine ⟨p, ?_, ?_, ?_⟩
  · rw [pUnits, pGap, units]
  · rw [halfGapBelow, if_pos ⟨power, fine⟩, pGap, gap]
  · rw [parity, even]
    decide

/-- Before any other magnitude the significand is one less. -/
theorem exists_precedes_of_not_power (positive : 0 < m.units)
    (inside : ¬ (m.units = Nat.pow 2 (precision - 1) * m.gap ∧ 1 < m.gap)) :
    ∃ p : Magnitude, p.Precedes m := by
  have product := m.significand_mul_gap
  obtain ⟨n, significand⟩ : ∃ n, m.units / m.gap = n + 1 := by
    refine Nat.exists_eq_add_one.2 (Nat.pos_of_ne_zero fun zero => ?_)
    rw [zero, Nat.zero_mul] at product
    omega
  have small := m.significand_lt
  have digits : spacing m.units = 0 ∨ Nat.pow 2 (precision - 1) ≤ n := by
    rcases Nat.eq_zero_or_pos (spacing m.units) with zero | gaps
    · exact .inl zero
    · have large := le_significand gaps
      have fine : 1 < m.gap := Nat.one_lt_two_pow (Nat.ne_of_gt gaps)
      have other : Nat.pow 2 (precision - 1) ≠ m.units / m.gap := fun power =>
        inside ⟨by rw [power, product], fine⟩
      omega
  have units : m.units = n * m.gap + m.gap := by
    rw [← product, significand, Nat.add_mul, Nat.one_mul]
  obtain ⟨p, pUnits, pGap, parity⟩ := exists_of_significand (n := n) (by omega) digits
    (Nat.lt_of_le_of_lt (Nat.le_add_right _ m.gap) (units ▸ m.lt_limit))
  refine ⟨p, ?_, ?_, ?_⟩
  · rw [pUnits, pGap]
    exact units.symm
  · rw [halfGapBelow, if_neg inside, pGap]
    rfl
  · rw [parity, endsBelong, significand]
    rcases Nat.mod_two_eq_zero_or_one n with even | odd
    · have next : (n + 1) % 2 = 1 := by omega
      simp [even, next]
    · have next : (n + 1) % 2 = 0 := by omega
      simp [odd, next]

/-- Before a positive magnitude stands another one. -/
theorem exists_precedes (positive : 0 < m.units) : ∃ p : Magnitude, p.Precedes m := by
  by_cases power : m.units = Nat.pow 2 (precision - 1) * m.gap ∧ 1 < m.gap
  · exact exists_precedes_of_power power.1 power.2
  · exact exists_precedes_of_not_power positive power

/-- **A quotient rounds to less than a positive magnitude exactly before the lower end of its
interval.** -/
theorem nearest_lt_iff {x d : Nat} (positive : 0 < d) (nonzero : 0 < m.units) :
    nearest x d < m.units ↔
      if m.endsBelong then 4 * x < m.low * d else 4 * x ≤ m.low * d := by
  obtain ⟨p, precedes⟩ := exists_precedes nonzero
  have sum := precedes.sum
  have gap := p.gap_pos
  have between : nearest x d < m.units ↔ ¬ p.units < nearest x d := by
    constructor
    · intro below above
      have apart : p.gap ≤ nearest x d - p.units := gap_le_sub p.isGrid (isGrid_nearest x d) above
      omega
    · intro above
      omega
  rw [between, lt_nearest_iff positive, precedes.high_eq, precedes.parity]
  cases m.endsBelong <;> simp

/-- What rounds to less than a magnitude lies before the end or at it. -/
theorem le_low_mul {x d : Nat} (positive : 0 < d) (h : nearest x d < m.units) :
    4 * x ≤ m.low * d := by
  have before := (nearest_lt_iff positive (Nat.zero_lt_of_lt h)).1 h
  split at before <;> omega

/-- **A quotient lies in the interval of a magnitude exactly if it rounds to it.** -/
theorem covers_iff {x d : Nat} (positive : 0 < d) :
    m.covers (4 * x) d = true ↔ nearest x d = m.units := by
  have upper := lt_nearest_iff (m := m) (x := x) positive
  have lower : nearest x d < m.units ↔
      if m.endsBelong then 4 * x < m.low * d else 4 * x ≤ m.low * d := by
    rcases Nat.eq_zero_or_pos m.units with zero | nonzero
    · -- nothing lies before zero
      have even : m.endsBelong = true := by
        rw [endsBelong, zero, Nat.zero_div]
        rfl
      have low : m.low = 0 := by
        rw [low, zero, Nat.mul_zero, Nat.zero_sub]
      rw [if_pos even, low, zero, Nat.zero_mul]
      exact iff_of_false (Nat.not_lt_zero _) (Nat.not_lt_zero _)
    · exact nearest_lt_iff positive nonzero
  unfold covers
  split at upper <;> rename_i belong <;> simp only [belong, if_true, Bool.false_eq_true, if_false,
    Bool.and_eq_true, decide_eq_true_eq] at lower ⊢ <;> omega

end Double.Magnitude

end HostPreflight
