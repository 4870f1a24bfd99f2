import HostPreflight.Proofs.Double.Interval
import HostPreflight.Proofs.Double.Numeral

/-!
# The search for the shortest decimal

The search goes from coarse grids to fine ones.  It cannot pass a grid whose step is smaller
than the interval that it looks for, so it always finds a decimal, and this decimal lies in
the interval.  On the other hand the grid before the one where it ends has steps at least as
wide as the interval, so the decimal that it finds counts few steps: a coefficient has at
most 57 bits and fits into a 64-bit word.

## Main definitions

* `Scientific.numerator`, `Scientific.denominator` — a decimal as a fraction.
* `Magnitude.Fine m e` — the powers of ten `10 ^ e` lie closer together than the ends of the
  interval.
* `Magnitude.Meets m e` — a multiple of `10 ^ e` lies in the interval.

## Main statements

* `Magnitude.Fine.meets` — a fine grid meets the interval.
* `Magnitude.Meets.exists_onGrid?` — a grid that meets the interval is not passed.
* `Magnitude.shortest_spec` — what the search finds.
* `Magnitude.nearest_shortest` — the shortest decimal rounds to its magnitude.
* `Magnitude.coefficient_shortest_lt` — a shortest decimal has a short coefficient.
-/

namespace HostPreflight.Double

theorem ten_pow_pos (n : Nat) : 0 < Nat.pow 10 n := Nat.pow_pos (by decide)

namespace Scientific

variable {x : Scientific}

/-- A decimal as a fraction: what stands above the line. -/
def numerator (x : Scientific) : Nat := x.coefficient * Nat.pow 10 x.exponent.toNat

/-- A decimal as a fraction: the power of ten below the line. -/
def denominator (x : Scientific) : Nat := Nat.pow 10 (-x.exponent).toNat

theorem numerator_of_neg (negative : x.exponent < 0) : x.numerator = x.coefficient := by
  have none : x.exponent.toNat = 0 := by omega
  rw [numerator, none]
  exact Nat.mul_one _

theorem denominator_of_neg {n : Nat} (exponent : x.exponent = -n) :
    x.denominator = Nat.pow 10 n := by
  rw [denominator, exponent, Int.neg_neg, Int.toNat_natCast]

theorem denominator_of_nonneg (nonneg : 0 ≤ x.exponent) : x.denominator = 1 := by
  have none : (-x.exponent).toNat = 0 := by omega
  rw [denominator, none]

/-- A negative power of ten has a natural number of places. -/
theorem exists_places (negative : x.exponent < 0) : ∃ n : Nat, x.exponent = -n :=
  ⟨(-x.exponent).toNat, by omega⟩

end Scientific

namespace Magnitude

variable {m : Magnitude} {tie : Tie} {e : Int}

/-! ## Grids and intervals -/

/-- The interval of a magnitude is at least three quarters of a gap wide: the gap above it
counts in full, and of the one below at least half of it is there. -/
theorem low_add_le_high (positive : 0 < m.units) : m.low + 3 * m.gap ≤ m.high := by
  have low := low_add positive
  have below := m.halfGapBelow_eq
  unfold high
  omega

theorem low_lt (positive : 0 < m.units) : m.low < 4 * m.units := by
  have gap := m.gap_pos
  have low := low_add positive
  have below := m.halfGapBelow_eq
  omega

theorem lt_high (m : Magnitude) : 4 * m.units < m.high := by
  have gap := m.gap_pos
  unfold high
  omega

/-- What lies between the ends lies in the interval, whether they belong to it or not. -/
theorem covers_of_between {x d : Nat} (lower : m.low * d < x) (upper : x < m.high * d) :
    m.covers x d = true := by
  unfold covers
  split <;> simp [lower, upper, Nat.le_of_lt]

/-- What lies in the interval does not lie beyond its ends. -/
theorem le_of_covers {x d : Nat} (inside : m.covers x d = true) :
    m.low * d ≤ x ∧ x ≤ m.high * d := by
  unfold covers at inside
  split at inside <;> simp only [Bool.and_eq_true, decide_eq_true_eq] at inside <;> omega

/-- What lies between the lower end and a member of the interval is a member. -/
theorem covers_of_le_covered {x y d : Nat} (inside : m.covers x d = true)
    (lower : m.low * d < y) (most : y ≤ x) : m.covers y d = true := by
  rcases Nat.lt_or_eq_of_le most with less | rfl
  · exact covers_of_between lower (Nat.lt_of_lt_of_le less (le_of_covers inside).2)
  · exact inside

/-- What lies between a member of the interval and the upper end is a member. -/
theorem covers_of_covered_le {x y d : Nat} (inside : m.covers x d = true) (least : x ≤ y)
    (upper : y < m.high * d) : m.covers y d = true := by
  rcases Nat.lt_or_eq_of_le least with less | rfl
  · exact covers_of_between (Nat.lt_of_le_of_lt (le_of_covers inside).1 less) upper
  · exact inside

/-- A grid with steps smaller than the interval of the magnitude. -/
def Fine (m : Magnitude) (e : Int) : Prop :=
  Nat.pow 10 e.toNat * quartersPerOne < 3 * m.gap * Nat.pow 10 (-e).toNat

/-- Wide gaps make a grid fine. -/
theorem fine_of_spacing {t : Nat} (gaps : t ≤ spacing m.units)
    (step : Nat.pow 10 e.toNat * quartersPerOne < 3 * Nat.pow 2 t * Nat.pow 10 (-e).toNat) :
    m.Fine e := by
  have gap : Nat.pow 2 t ≤ m.gap := Nat.pow_le_pow_right (by decide) gaps
  exact Nat.lt_of_lt_of_le step (Nat.mul_le_mul_right _ (Nat.mul_le_mul_left 3 gap))

theorem quartersPerOne_pos : 0 < quartersPerOne := by
  unfold quartersPerOne
  exact Nat.mul_pos (by decide) unitsPerOne_pos

/-- A grid with a member in the interval of the magnitude. -/
def Meets (m : Magnitude) (e : Int) : Prop :=
  ∃ c, m.covers (c * (Nat.pow 10 e.toNat * quartersPerOne)) (Nat.pow 10 (-e).toNat) = true

section Steps

variable {a d : Nat}

/-- The two multiples of a step around a number. -/
theorem steps_around (step : 0 < a) (middle : Nat) :
    middle / a * a ≤ middle ∧ middle < (middle / a + 1) * a := by
  refine ⟨Nat.div_mul_le_self middle a, ?_⟩
  rw [Nat.mul_comm _ a]
  exact Nat.lt_mul_div_succ middle step

/-- The magnitude lies between the ends of its interval. -/
theorem ends_around (positive : 0 < m.units) (scale : 0 < d) :
    m.low * d < 4 * m.units * d ∧ 4 * m.units * d < m.high * d :=
  ⟨Nat.mul_lt_mul_of_pos_right (low_lt positive) scale,
    Nat.mul_lt_mul_of_pos_right m.lt_high scale⟩

/-- One of the two steps around the magnitude lies in the interval, if the step from the one to
the other is smaller than it. -/
theorem exists_covers_of_lt (positive : 0 < m.units) (step : 0 < a) (scale : 0 < d)
    (small : a < 3 * m.gap * d) : ∃ c, m.covers (c * a) d = true := by
  obtain ⟨least, most⟩ := steps_around step (4 * m.units * d)
  obtain ⟨low, high⟩ := ends_around positive scale
  have width : m.low * d + 3 * m.gap * d ≤ m.high * d := by
    rw [← Nat.add_mul]
    exact Nat.mul_le_mul_right d (low_add_le_high positive)
  rcases Nat.lt_or_ge (m.low * d) (4 * m.units * d / a * a) with inside | outside
  · exact ⟨_, covers_of_between inside (Nat.lt_of_le_of_lt least high)⟩
  · refine ⟨_, covers_of_between (Nat.lt_trans low most) ?_⟩
    rw [Nat.add_mul, Nat.one_mul]
    omega

/-- If some multiple of a step lies in the interval, one next to the magnitude does. -/
theorem covers_around (positive : 0 < m.units) (step : 0 < a) (scale : 0 < d) {c : Nat}
    (inside : m.covers (c * a) d = true) :
    m.covers (4 * m.units * d / a * a) d = true ∨
      m.covers ((4 * m.units * d / a + 1) * a) d = true := by
  obtain ⟨least, most⟩ := steps_around step (4 * m.units * d)
  obtain ⟨low, high⟩ := ends_around positive scale
  rcases Nat.lt_or_ge (4 * m.units * d / a) c with above | below
  · exact .inr (covers_of_le_covered inside (Nat.lt_trans low most)
      (Nat.mul_le_mul_right a above))
  · exact .inl (covers_of_covered_le inside (Nat.mul_le_mul_right a below)
      (Nat.lt_of_le_of_lt least high))

/-- What lies in the interval counts few steps, if ten steps are not smaller than it: the
magnitude itself is at most `2 ^ 53` gaps. -/
theorem steps_le {a' d' c : Nat} (step : 0 < a) (scale : 0 < d') (inside : c * a ≤ m.high * d)
    (coarse : 3 * m.gap * d' ≤ a') (next : a' * d = 10 * a * d') :
    3 * c ≤ 40 * Nat.pow 2 precision := by
  have high : m.high ≤ 4 * Nat.pow 2 precision * m.gap := by
    have most := m.units_add_gap_le
    rw [Nat.mul_assoc, Magnitude.high]
    omega
  refine Nat.le_of_mul_le_mul_right ?_ (Nat.mul_pos step scale)
  calc 3 * c * (a * d') = 3 * d' * (c * a) := by grind
    _ ≤ 3 * d' * (4 * Nat.pow 2 precision * m.gap * d) :=
        Nat.mul_le_mul_left _ (Nat.le_trans inside (Nat.mul_le_mul_right d high))
    _ = 4 * Nat.pow 2 precision * d * (3 * m.gap * d') := by grind
    _ ≤ 4 * Nat.pow 2 precision * d * a' := Nat.mul_le_mul_left _ coarse
    _ = 4 * Nat.pow 2 precision * (a' * d) := by grind
    _ = 40 * Nat.pow 2 precision * (a * d') := by rw [next]; grind

end Steps

theorem step_pos (e : Int) : 0 < Nat.pow 10 e.toNat * quartersPerOne :=
  Nat.mul_pos (ten_pow_pos _) quartersPerOne_pos

/-- **A fine grid meets the interval.** -/
theorem Fine.meets (fine : m.Fine e) (positive : 0 < m.units) : m.Meets e :=
  exists_covers_of_lt positive (step_pos e) (ten_pow_pos _) fine

/-- **A grid that meets the interval does so next to the magnitude**, and there it is looked
at. -/
theorem Meets.exists_onGrid? (meets : m.Meets e) (positive : 0 < m.units) (tie : Tie) :
    ∃ c, m.onGrid? tie e = some c := by
  obtain ⟨c, inside⟩ := meets
  have around := covers_around positive (step_pos e) (ten_pow_pos _) inside
  unfold onGrid?
  -- the step is a large number; its value is hidden, since the kernel would compute with it
  obtain ⟨a, hidden⟩ : ∃ n, Nat.pow 10 e.toNat * quartersPerOne = n := ⟨_, rfl⟩
  rw [hidden] at around ⊢
  simp only
  split
  case h_1 lower upper =>
    rw [lower, upper] at around
    exact absurd around (by decide)
  case h_2 => exact ⟨_, rfl⟩
  case h_3 => exact ⟨_, rfl⟩
  case h_4 =>
    split
    case h_4 => split <;> exact ⟨_, rfl⟩
    all_goals exact ⟨_, rfl⟩

/-! ## The search -/

/-- What the search finds lies on its grid, and no coarser grid that it has passed meets the
interval. -/
theorem firstGrid_spec {tries : Nat} {x : Scientific} (found : firstGrid tie m tries e = some x) :
    m.onGrid? tie x.exponent = some x.coefficient ∧ x.exponent ≤ e ∧
      ∀ e', x.exponent < e' → e' ≤ e → m.onGrid? tie e' = none := by
  induction tries generalizing e with
  | zero => exact nomatch found
  | succ tries ih =>
    rw [firstGrid] at found
    cases here : m.onGrid? tie e with
    | some c =>
      rw [here] at found
      obtain rfl := Option.some.inj found
      exact ⟨here, Int.le_refl e, fun e' above below => absurd below (Int.not_le.2 above)⟩
    | none =>
      rw [here] at found
      obtain ⟨grid, order, passed⟩ := ih found
      refine ⟨grid, by omega, fun e' above below => ?_⟩
      rcases Int.lt_or_eq_of_le below with before | rfl
      · exact passed e' above (by omega)
      · exact here

/-- The search does not pass a grid that meets the interval. -/
theorem exists_firstGrid (positive : 0 < m.units) {tries : Nat} {first : Int}
    (meets : m.Meets first) (least : first ≤ e) (most : e < first + tries) :
    ∃ x, firstGrid tie m tries e = some x := by
  induction tries generalizing e with
  | zero => omega
  | succ tries ih =>
    rw [firstGrid]
    cases here : m.onGrid? tie e with
    | some c => exact ⟨⟨c, e⟩, rfl⟩
    | none =>
      have other : first ≠ e := by
        rintro rfl
        obtain ⟨c, found⟩ := meets.exists_onGrid? positive tie
        rw [found] at here
        exact absurd here (Option.some_ne_none c)
      exact ih (by omega) (by omega)

/-- The grid where the search gives up is fine for every magnitude. -/
theorem fine_last (m : Magnitude) : m.Fine (-324) := by
  have gap := m.gap_pos
  have value : Nat.pow 10 (-324 : Int).toNat * quartersPerOne <
      Nat.pow 10 (-(-324) : Int).toNat := by
    decide +kernel
  unfold Fine
  calc Nat.pow 10 (-324 : Int).toNat * quartersPerOne
      < Nat.pow 10 (-(-324) : Int).toNat := value
    _ ≤ 3 * m.gap * Nat.pow 10 (-(-324) : Int).toNat := Nat.le_mul_of_pos_left _ (by omega)

/-- **What the search for the shortest decimal finds**: a member of the interval, on the first
grid that has one, which is not coarser than what is found on a fine grid. -/
theorem shortest_spec (tie : Tie) (positive : 0 < m.units) :
    m.onGrid? tie (m.shortest tie).exponent = some (m.shortest tie).coefficient ∧
      (m.shortest tie).exponent ≤ coarsest ∧
      ∀ e', (m.shortest tie).exponent < e' → e' ≤ coarsest → m.onGrid? tie e' = none := by
  obtain ⟨x, found⟩ : ∃ x, firstGrid tie m 634 coarsest = some x :=
    exists_firstGrid positive (m.fine_last.meets positive) (by decide) (by decide)
  have shortest : m.shortest tie = x := by
    rw [shortest, if_neg (Nat.ne_of_gt positive), found]
    rfl
  rw [shortest]
  exact firstGrid_spec found

/-- The grid of the shortest decimal is not finer than another one that meets the interval. -/
theorem Meets.le_exponent (meets : m.Meets e) (positive : 0 < m.units) (bound : e ≤ coarsest)
    (tie : Tie) : e ≤ (m.shortest tie).exponent := by
  refine Int.not_lt.1 fun finer => ?_
  obtain ⟨c, found⟩ := meets.exists_onGrid? positive tie
  rw [(shortest_spec tie positive).2.2 e finer bound] at found
  exact absurd found.symm (Option.some_ne_none c)

/-- Steps in quarter units, counted in units. -/
theorem mul_quarters (c p : Nat) : c * (p * quartersPerOne) = 4 * (c * p * unitsPerOne) := by
  rw [quartersPerOne, ← Nat.mul_assoc, Nat.mul_left_comm]

/-- **The shortest decimal rounds to its magnitude.** -/
theorem nearest_shortest (m : Magnitude) (tie : Tie) :
    nearest ((m.shortest tie).numerator * unitsPerOne) (m.shortest tie).denominator = m.units := by
  rcases Nat.eq_zero_or_pos m.units with zero | positive
  · rw [shortest, if_pos zero, zero, Scientific.numerator, Nat.zero_mul, Nat.zero_mul,
      nearest_zero]
  · have inside := covers_of_onGrid? (shortest_spec tie positive).1
    rw [mul_quarters] at inside
    exact (covers_iff (ten_pow_pos _)).1 inside

/-- The shortest decimal lies in the interval. -/
theorem covers_shortest (m : Magnitude) (tie : Tie) :
    m.covers (4 * ((m.shortest tie).numerator * unitsPerOne)) (m.shortest tie).denominator
      = true :=
  (covers_iff (ten_pow_pos _)).2 (m.nearest_shortest tie)

/-! ## The size of a coefficient -/

/-- The next grid is ten times as coarse. -/
theorem ten_pow_succ (e : Int) :
    Nat.pow 10 (e + 1).toNat * Nat.pow 10 (-e).toNat =
      10 * Nat.pow 10 e.toNat * Nat.pow 10 (-(e + 1)).toNat := by
  rcases Int.lt_or_le e 0 with negative | nonnegative
  · obtain ⟨n, rfl⟩ : ∃ n : Nat, e = -(n + 1) := ⟨(-e - 1).toNat, by omega⟩
    have here : (-(n + 1 : Int)).toNat = 0 := by omega
    have next : (-(n + 1 : Int) + 1).toNat = 0 := by omega
    have scale : (-(-(n + 1 : Int))).toNat = n + 1 := by omega
    have scale' : (-(-(n + 1 : Int) + 1)).toNat = n := by omega
    rw [here, next, scale, scale']
    exact (Nat.one_mul _).trans Nat.pow_succ'
  · obtain ⟨n, rfl⟩ : ∃ n : Nat, e = n := ⟨e.toNat, by omega⟩
    have next : (n + 1 : Int).toNat = n + 1 := by omega
    have scale : (-(n : Int)).toNat = 0 := by omega
    have scale' : (-(n + 1 : Int)).toNat = 0 := by omega
    rw [next, scale, scale', Int.toNat_natCast]
    exact congrArg (· * 1) Nat.pow_succ'

/-- Its steps are, too. -/
theorem next_step (e : Int) :
    Nat.pow 10 (e + 1).toNat * quartersPerOne * Nat.pow 10 (-e).toNat =
      10 * (Nat.pow 10 e.toNat * quartersPerOne) * Nat.pow 10 (-(e + 1)).toNat := by
  rw [Nat.mul_right_comm, ten_pow_succ, Nat.mul_right_comm, Nat.mul_assoc 10]

/-- No magnitude needs a grid coarser than the one where the search starts. -/
theorem not_fine_coarsest (positive : 0 < m.units) : ¬ m.Fine (coarsest + 1) := by
  have gap := gap_le_units (Nat.ne_of_gt positive)
  have limit := m.lt_limit
  have value : 3 * unitsLimit * Nat.pow 10 (-(coarsest + 1)).toNat ≤
      Nat.pow 10 (coarsest + 1).toNat * quartersPerOne := by
    decide +kernel
  refine Nat.not_lt.2 (Nat.le_trans (Nat.mul_le_mul_right _ ?_) value)
  omega

/-- The grid before that of the shortest decimal is not fine. -/
theorem not_fine_shortest (tie : Tie) (positive : 0 < m.units) :
    ¬ m.Fine ((m.shortest tie).exponent + 1) := by
  intro fine
  obtain ⟨-, bound, -⟩ := shortest_spec tie positive
  rcases Int.lt_or_eq_of_le bound with before | last
  · have := (fine.meets positive).le_exponent positive (by omega) tie
    omega
  · rw [last] at fine
    exact not_fine_coarsest positive fine

/-- **A shortest decimal has a coefficient of at most 57 bits**, since ten of its steps are not
smaller than the interval. -/
theorem coefficient_shortest_lt (tie : Tie) (positive : 0 < m.units) :
    (m.shortest tie).coefficient < Nat.pow 2 57 := by
  have inside := (le_of_covers (covers_of_onGrid? (shortest_spec tie positive).1)).2
  have coarse := Nat.not_lt.1 (not_fine_shortest tie positive)
  have few := steps_le (step_pos _) (ten_pow_pos _) inside coarse (next_step _)
  have value : 40 * Nat.pow 2 precision < 3 * Nat.pow 2 57 := by decide
  omega

end Magnitude

end HostPreflight.Double
