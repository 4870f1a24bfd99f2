import HostPreflight.Json.Record
import HostPreflight.Proofs.Double.Shortest

/-!
# Reading written decimals

The reader gathers the digits of a number into a whole number and divides it, as a double,
by a power of ten.  As long as the digits fit into a 64-bit word and the power of ten is a
double, this rounds twice: once where the digits become a double, and once in the division.

## Main definitions

* `Numeral.StandsFor n s e` — the digits of `n` are those of `s`, and its power of ten is `e`.
* `IsRead x` — the decimal `x` is read in two roundings.
* `Magnitude.Moderate m` — the magnitude `m` is neither very large nor very small.

## Main statements

* `toDouble?_of_standsFor` — what the reader makes of the digits.
* `exists_ofNat_div_ten_pow` — a whole number divided by a power of ten, in two roundings.
* `Magnitude.Moderate.isRead` — what the reader makes of a written double.
* `Magnitude.numeral_injective` — different magnitudes are written differently.
-/

namespace HostPreflight

namespace Decimal

/-! ## Digits -/

variable {n start : Nat} {ds ds' : List Digit}

theorem ofDigitsFrom_append :
    ofDigitsFrom start (ds ++ ds') = ofDigitsFrom (ofDigitsFrom start ds) ds' :=
  List.foldl_append

/-- Further digits do not make a number smaller. -/
theorem le_ofDigitsFrom (start : Nat) (ds : List Digit) : start ≤ ofDigitsFrom start ds := by
  induction ds generalizing start with
  | nil => exact Nat.le_refl start
  | cons d ds ih => exact Nat.le_trans (by omega) (ih (10 * start + d.val))

/-- Zeros multiply by powers of ten. -/
theorem ofDigitsFrom_zeros (start k : Nat) :
    ofDigitsFrom start (List.replicate k .zero) = start * Nat.pow 10 k := by
  induction k generalizing start with
  | zero => exact (Nat.mul_one start).symm
  | succ k ih =>
    have power : Nat.pow 10 (k + 1) = 10 * Nat.pow 10 k := Nat.pow_succ'
    have next := ih (10 * start)
    rw [List.replicate_succ, power, Nat.mul_left_comm, ← Nat.mul_assoc]
    exact next

/-- A number is at least the power of ten before its second digit. -/
theorem ten_pow_le_of_digits (positive : 0 < n) :
    Nat.pow 10 ((digits n).length - 1) ≤ n := by
  induction n using digits.induct with
  | case1 n small =>
    rw [digits, if_pos small]
    exact positive
  | case2 n large ih =>
    have rest : 0 < n / 10 := Nat.div_pos (Nat.le_of_not_lt large) (by decide)
    have some : 0 < (digits (n / 10)).length := List.length_pos_iff.2 (digits_ne_nil _)
    have length : (digits n).length - 1 = (digits (n / 10)).length - 1 + 1 := by
      rw [digits, if_neg large, List.length_append, List.length_singleton]
      omega
    have power : Nat.pow 10 ((digits (n / 10)).length - 1 + 1) =
        10 * Nat.pow 10 ((digits (n / 10)).length - 1) := Nat.pow_succ'
    have := ih rest
    rw [length, power]
    omega

/-- A numeral without sign, by the whole number that its digits are and its power of ten. -/
structure Numeral.StandsFor (n : Numeral) (significand : Nat) (e : Int) : Prop where
  sign : n.negative = false
  digits : ofDigits (n.whole ++ n.fraction) = significand
  power : n.exponent.getD 0 - n.fraction.length = e

end Decimal

open Decimal

namespace Double.Layout

variable {layout : Layout} {x : Scientific}

/-- A decimal with a negative power of ten is written with its own digits. -/
theorem standsFor_of_neg (negative : x.exponent < 0) :
    (layout.numeral false x).StandsFor x.coefficient x.exponent := by
  have some : 0 < (digits x.coefficient).length := List.length_pos_iff.2 (digits_ne_nil _)
  have value := ofDigits_digits x.coefficient
  unfold Layout.numeral
  simp only
  split
  · rw [Layout.spread, if_neg (by omega)]
    simp only
    split
    · refine ⟨rfl, ?_, ?_⟩
      · rw [List.take_append_drop, value]
      · simp only [Option.getD_none, List.length_drop]
        omega
    · refine ⟨rfl, ?_, ?_⟩
      · rw [ofDigits, ofDigitsFrom_append, ofDigitsFrom_append, ofDigitsFrom_zeros]
        exact (congrArg (ofDigitsFrom · _) (Nat.zero_mul _)).trans value
      · simp only [Option.getD_none, List.length_append, List.length_replicate]
        omega
  · refine ⟨rfl, ?_, ?_⟩
    · rw [List.take_append_drop, value]
    · simp only [Option.getD_some, List.length_drop]
      omega

/-- The report writes a decimal that is a whole number below `10 ^ 16` with one zero after the
point. -/
theorem standsFor_of_nonneg (nonneg : 0 ≤ x.exponent)
    (small : x.exponent + ((digits x.coefficient).length - 1 : Nat) < 16) :
    (Layout.json.numeral false x).StandsFor (10 * x.numerator) (-1) := by
  have positional : Layout.json.positional
      (x.exponent + ((digits x.coefficient).length - 1 : Nat)) = true := by
    simp only [Layout.json, decide_eq_true_eq]
    omega
  have value := ofDigits_digits x.coefficient
  rw [Layout.numeral, if_pos positional, Layout.spread, if_pos nonneg]
  refine ⟨rfl, ?_, rfl⟩
  have whole : ofDigitsFrom 0 (digits x.coefficient ++ List.replicate x.exponent.toNat .zero) =
      x.numerator := by
    rw [ofDigitsFrom_append, ofDigitsFrom_zeros]
    exact congrArg (· * _) value
  rw [ofDigits, ofDigitsFrom_append, whole]
  exact Nat.add_zero _

end Double.Layout

namespace Json

/-! ## The reader -/

/-- Digits that fit are all gathered. -/
theorem gather_eq {significand : Nat} {ds : List Digit}
    (fits : ofDigitsFrom significand ds < significandLimit) :
    gather significand ds = (ofDigitsFrom significand ds, []) := by
  induction ds generalizing significand with
  | nil => rfl
  | cons d ds ih =>
    have next : 10 * significand + d.val < significandLimit :=
      Nat.lt_of_le_of_lt (le_ofDigitsFrom _ ds) fits
    rw [gather, if_pos next]
    exact ih fits

/-- Digits that fit are gathered into the whole number that they are. -/
theorem toDouble?_of_standsFor {n : Numeral} {s : Nat} {e : Int} (h : n.StandsFor s e)
    (fits : s < significandLimit) : toDouble? n = scale? (.ofNat s) e := by
  obtain ⟨sign, digits, power⟩ := h
  rw [ofDigits, ofDigitsFrom_append] at digits
  have whole : gather 0 n.whole = (ofDigitsFrom 0 n.whole, []) :=
    gather_eq (Nat.lt_of_le_of_lt (le_ofDigitsFrom _ n.fraction) (digits ▸ fits))
  have fraction : gather (ofDigitsFrom 0 n.whole) n.fraction = (s, []) := by
    rw [gather_eq (digits.symm ▸ fits), digits]
  have shift : (([] : List Digit).length : Int)
      - (n.fraction.length - ([] : List Digit).length : Nat) + n.exponent.getD 0 = e := by
    simp only [List.length_nil]
    omega
  simp only [toDouble?, whole, fraction, shift, sign, Bool.false_eq_true, if_false]
  cases scale? (.ofNat s) e <;> rfl

/-- A negative power of ten that can be divided by in one step is divided by. -/
theorem scale?_neg (x : Double) {n : Nat} (positive : 0 < n) (bound : n ≤ largestPower) :
    scale? x (-n) = some (x / .ofNat (Nat.pow 10 n)) := by
  have negative : -(n : Int) < 0 := by omega
  have size : (-(n : Int)).natAbs = n := by omega
  rw [scale?, if_pos negative, size, divideByPower, if_pos bound]

end Json

namespace Double

/-! ## The two roundings -/

/-- A 64-bit word becomes a finite double. -/
theorem exists_ofNat {s : Nat} (word : s < Nat.pow 2 64) :
    ∃ a : Magnitude, ofNat s = .finite false a ∧ a.units = nearest (s * unitsPerOne) 1 := by
  have limit : Nat.pow 2 64 * unitsPerOne < unitsLimit := by decide +kernel
  have grid : IsGrid (Nat.pow 2 64 * unitsPerOne) := by decide +kernel
  have most : nearest (s * unitsPerOne) 1 ≤ Nat.pow 2 64 * unitsPerOne := by
    rw [← nearest_of_isGrid grid]
    exact nearest_mono 1 (Nat.mul_le_mul_right _ (Nat.le_of_lt word))
  exact ⟨_, ofUnits_of_lt (Nat.lt_of_le_of_lt most limit), rfl⟩

/-- The powers of ten up to `10 ^ 22` are doubles. -/
theorem exists_ofNat_ten_pow {n : Nat} (few : n ≤ 22) :
    ∃ b : Magnitude, ofNat (Nat.pow 10 n) = .finite false b ∧
      b.units = Nat.pow 10 n * unitsPerOne := by
  have odd : Nat.pow 5 n ≤ Nat.pow 2 precision :=
    Nat.le_trans (Nat.pow_le_pow_right (by decide) few) (by decide)
  have parts (l : Nat) : Nat.pow 10 n * Nat.pow 2 l = Nat.pow 5 n * Nat.pow 2 (n + l) := by
    have ten : Nat.pow 10 n = Nat.pow 5 n * Nat.pow 2 n := Nat.mul_pow 5 2 n
    have sum : Nat.pow 2 (n + l) = Nat.pow 2 n * Nat.pow 2 l := Nat.pow_add ..
    rw [ten, sum, Nat.mul_assoc]
  have grid : IsGrid (Nat.pow 10 n * unitsPerOne) := by
    unfold unitsPerOne
    rw [parts]
    exact isGrid_mul odd
  have small : nearest (Nat.pow 10 n * unitsPerOne) 1 < unitsLimit := by
    rw [nearest_of_isGrid grid]
    calc Nat.pow 10 n * unitsPerOne ≤ Nat.pow 10 22 * unitsPerOne :=
          Nat.mul_le_mul_right _ (Nat.pow_le_pow_right (by decide) few)
      _ < unitsLimit := by decide +kernel
  refine ⟨⟨_, isGrid_nearest _ 1, small⟩, ?_, nearest_of_isGrid grid⟩
  rw [ofNat, ofRatio, ofUnits_of_lt small]

/-- **A 64-bit word divided by a power of ten is rounded twice**: where it becomes a double,
and in the division. -/
theorem exists_ofNat_div_ten_pow {s n : Nat} (word : s < Nat.pow 2 64) (few : n ≤ 22) :
    ∃ y : Magnitude, ofNat s / ofNat (Nat.pow 10 n) = .finite false y ∧
      y.units = nearest (nearest (s * unitsPerOne) 1) (Nat.pow 10 n) := by
  obtain ⟨a, dividend, aUnits⟩ := exists_ofNat word
  obtain ⟨b, divisor, bUnits⟩ := exists_ofNat_ten_pow few
  have power : 0 < Nat.pow 10 n := ten_pow_pos n
  have positive : 0 < b.units := by
    rw [bUnits]
    exact Nat.mul_pos power unitsPerOne_pos
  have quotient : nearest (a.units * unitsPerOne) b.units = nearest a.units (Nat.pow 10 n) := by
    rw [bUnits, nearest_mul_right _ _ unitsPerOne_pos]
  have small : nearest (a.units * unitsPerOne) b.units < unitsLimit := by
    rw [quotient]
    calc nearest a.units (Nat.pow 10 n) ≤ nearest (Nat.pow 10 n * a.units) (Nat.pow 10 n) :=
          nearest_mono _ (Nat.le_mul_of_pos_left _ power)
      _ = a.units := nearest_mul_self power a.isGrid
      _ < unitsLimit := a.lt_limit
  rw [dividend, divisor, div_eq_ofUnits a positive, ofUnits_of_lt small]
  exact ⟨_, rfl, by rw [← aUnits]; exact quotient⟩

/-! ## Written doubles -/

namespace Magnitude

variable {m : Magnitude} {tie : Tie}

/-- Where the shortest decimal is a whole number, it is at most twice the magnitude. -/
theorem numerator_shortest_le (whole : 0 ≤ (m.shortest tie).exponent) :
    (m.shortest tie).numerator * unitsPerOne ≤ 2 * m.units := by
  rcases Nat.eq_zero_or_pos m.units with zero | positive
  · rw [shortest, if_pos zero, Scientific.numerator, Nat.zero_mul, Nat.zero_mul]
    exact Nat.zero_le _
  · have inside := (le_of_covers (m.covers_shortest tie)).2
    have gap := gap_le_units (Nat.ne_of_gt positive)
    rw [Scientific.denominator_of_nonneg whole, Nat.mul_one, high] at inside
    omega

/-- A whole number that stands for a magnitude up to `2 ^ 45` has few digits. -/
theorem numerator_le (small : m.units ≤ Nat.pow 2 45 * unitsPerOne)
    (nonneg : 0 ≤ (m.shortest tie).exponent) :
    (m.shortest tie).numerator ≤ Nat.pow 2 46 := by
  have twice := numerator_shortest_le nonneg
  have double : Nat.pow 2 46 = 2 * Nat.pow 2 45 := Nat.pow_succ'
  refine Nat.le_of_mul_le_mul_right ?_ unitsPerOne_pos
  rw [double, Nat.mul_assoc]
  omega

end Magnitude

end Double

namespace Json

open Double

variable {x : Scientific}

/-- What the reader makes of a decimal: its fraction, with the part above the line rounded. -/
def IsRead (x : Scientific) : Prop :=
  ∃ y : Magnitude, toDouble? (Layout.json.numeral false x) = some (.finite false y) ∧
    y.units = nearest (nearest (x.numerator * unitsPerOne) 1) x.denominator

/-- With places after the point the digits are those of the coefficient. -/
theorem isRead_of_neg (negative : x.exponent < 0) (places : -22 ≤ x.exponent)
    (short : x.coefficient < Nat.pow 2 64) : IsRead x := by
  obtain ⟨n, exponent⟩ := Scientific.exists_places negative
  obtain ⟨y, quotient, units⟩ := exists_ofNat_div_ten_pow (n := n) short (by omega)
  refine ⟨y, ?_, ?_⟩
  · rw [toDouble?_of_standsFor (Layout.standsFor_of_neg negative) short, exponent,
      scale?_neg _ (by omega) (by simp only [largestPower]; omega), quotient]
  · rw [Scientific.numerator_of_neg negative, Scientific.denominator_of_neg exponent, units]

/-- A whole number up to `2 ^ 46` has at most 16 digits. -/
theorem lead_lt (nonneg : 0 ≤ x.exponent) (positive : 0 < x.coefficient)
    (small : x.numerator ≤ Nat.pow 2 46) :
    x.exponent + ((digits x.coefficient).length - 1 : Nat) < 16 := by
  refine Int.not_le.1 fun long => ?_
  have sum : Nat.pow 10 (x.exponent.toNat + ((digits x.coefficient).length - 1)) =
      Nat.pow 10 x.exponent.toNat * Nat.pow 10 ((digits x.coefficient).length - 1) :=
    Nat.pow_add ..
  have least : Nat.pow 10 (x.exponent.toNat + ((digits x.coefficient).length - 1)) ≤
      x.numerator := by
    rw [sum, Nat.mul_comm]
    exact Nat.mul_le_mul_right _ (ten_pow_le_of_digits positive)
  have power : Nat.pow 10 16 ≤
      Nat.pow 10 (x.exponent.toNat + ((digits x.coefficient).length - 1)) :=
    Nat.pow_le_pow_right (by decide) (by omega)
  have value : Nat.pow 2 46 < Nat.pow 10 16 := by decide
  omega

/-- A whole number of few digits is read as it is. -/
theorem isRead_of_nonneg (nonneg : 0 ≤ x.exponent) (positive : 0 < x.coefficient)
    (small : x.numerator ≤ Nat.pow 2 46) : IsRead x := by
  have one := Scientific.denominator_of_nonneg nonneg
  have lead := lead_lt nonneg positive small
  have few : 10 * x.numerator ≤ Nat.pow 2 precision := by
    have value : 10 * Nat.pow 2 46 ≤ Nat.pow 2 precision := by decide
    omega
  have grid : IsGrid (x.numerator * unitsPerOne) := isGrid_whole (by omega)
  obtain ⟨y, quotient, units⟩ := exists_ofNat_div_ten_pow (s := 10 * x.numerator) (n := 1)
    (Nat.lt_of_le_of_lt few (by decide)) (by decide)
  refine ⟨y, ?_, ?_⟩
  · have read := scale?_neg (.ofNat (10 * x.numerator)) (n := 1) (by decide) (by decide)
    rw [toDouble?_of_standsFor (Layout.standsFor_of_nonneg nonneg lead)
      (Nat.lt_of_le_of_lt few (by decide))]
    exact read.trans (congrArg some quotient)
  · have ten : Nat.pow 10 1 = 10 := rfl
    rw [units, one, nearest_of_isGrid (isGrid_whole few), nearest_of_isGrid grid,
      nearest_of_isGrid grid, ten, Nat.mul_assoc, nearest_mul_self (by decide) grid]

/-- Zero is read as it is. -/
theorem isRead_zero : IsRead ⟨0, 0⟩ := by
  refine ⟨.zero, by decide +kernel, ?_⟩
  rw [Scientific.numerator, Nat.zero_mul, Nat.zero_mul, nearest_zero, nearest_zero]
  rfl

end Json

namespace Double.Magnitude

open Json

/-- A magnitude that is neither very large nor, unless it is zero, very small. -/
structure Moderate (m : Magnitude) : Prop where
  fine : 0 < m.units → m.Fine (-22)
  small : m.units < Nat.pow 2 45 * unitsPerOne

variable {m y : Magnitude}

/-- **What the reader makes of a written double.**  The shortest decimal is read in two
roundings. -/
theorem Moderate.isRead (moderate : m.Moderate) : IsRead (m.shortest .toEven) := by
  rcases Nat.eq_zero_or_pos m.units with zero | positive
  · rw [shortest, if_pos zero]
    exact isRead_zero
  have places := ((moderate.fine positive).meets positive).le_exponent positive (by decide) .toEven
  have short := coefficient_shortest_lt .toEven positive
  have some := (shortest_spec .toEven positive).1
  rcases Int.lt_or_le (m.shortest .toEven).exponent 0 with negative | nonneg
  · exact isRead_of_neg negative places (Nat.lt_trans short (by decide))
  · exact isRead_of_nonneg nonneg (coefficient_pos_of_onGrid? (Nat.ne_of_gt positive) some)
      (numerator_le (Nat.le_of_lt moderate.small) nonneg)

/-- The digits of a written magnitude and its power of ten are a decimal that rounds to it. -/
theorem exists_standsFor (small : m.units ≤ Nat.pow 2 45 * unitsPerOne) :
    ∃ s n : Nat, (m.numeral Layout.json false).StandsFor s (-n) ∧
      nearest (s * unitsPerOne) (Nat.pow 10 n) = m.units := by
  rcases Nat.eq_zero_or_pos m.units with zero | positive
  · refine ⟨0, 1, ?_, ?_⟩
    · rw [Magnitude.numeral, shortest, if_pos zero]
      have one : (digits 0).length = 1 := by
        rw [digits]
        rfl
      refine Layout.standsFor_of_nonneg (x := ⟨0, 0⟩) (Int.le_refl 0) ?_
      simp only [one]
      decide
    · rw [Nat.zero_mul, nearest_zero, zero]
  have rounded := m.nearest_shortest .toEven
  have some := (shortest_spec .toEven positive).1
  rcases Int.lt_or_le (m.shortest .toEven).exponent 0 with negative | nonneg
  · obtain ⟨n, exponent⟩ := Scientific.exists_places negative
    refine ⟨(m.shortest .toEven).coefficient, n, ?_, ?_⟩
    · rw [← exponent]
      exact Layout.standsFor_of_neg negative
    · rw [← Scientific.numerator_of_neg negative, ← Scientific.denominator_of_neg exponent,
        rounded]
  · have few := numerator_le small nonneg
    have positive' := coefficient_pos_of_onGrid? (Nat.ne_of_gt positive) some
    refine ⟨10 * (m.shortest .toEven).numerator, 1, ?_, ?_⟩
    · exact Layout.standsFor_of_nonneg nonneg (lead_lt nonneg positive' few)
    · have scaled := nearest_mul_right ((m.shortest .toEven).numerator * unitsPerOne) 1
        (show 0 < 10 by decide)
      rw [Nat.mul_comm _ 10, ← Nat.mul_assoc, Nat.one_mul,
        ← Scientific.denominator_of_nonneg nonneg, rounded] at scaled
      exact scaled

/-- Different magnitudes are written differently. -/
theorem numeral_injective (small : m.units ≤ Nat.pow 2 45 * unitsPerOne)
    (small' : y.units ≤ Nat.pow 2 45 * unitsPerOne)
    (same : m.numeral Layout.json false = y.numeral Layout.json false) : m = y := by
  obtain ⟨s, n, standsFor, rounded⟩ := exists_standsFor small
  obtain ⟨s', n', standsFor', rounded'⟩ := exists_standsFor small'
  rw [same] at standsFor
  obtain rfl : s = s' := standsFor.digits.symm.trans standsFor'.digits
  obtain rfl : n = n' := by
    have := standsFor.power.symm.trans standsFor'.power
    omega
  exact Magnitude.ext (rounded.symm.trans rounded')

end Double.Magnitude

end HostPreflight
