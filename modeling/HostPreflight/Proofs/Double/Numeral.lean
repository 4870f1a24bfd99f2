import HostPreflight.Double.Layout
import HostPreflight.Proofs.Json.Number
import Mathlib.Tactic.SplitIfs

/-!
# Numerals of doubles

The shortest decimal of a double that is not zero is not zero either, since the interval
that rounds to such a double does not reach down to zero.  So no layout ever writes a
zero before other whole digits, and what it writes is a number of the strict grammar.

## Main statements

* `coefficient_pos_of_onGrid?` — a decimal that stands for a positive magnitude is positive.
* `Magnitude.regular_numeral` — every layout writes regular numbers.
-/

namespace HostPreflight.Double

open Decimal

namespace Magnitude

/-- The gap to the next magnitude is no larger than the magnitude, unless that is zero. -/
theorem gap_le_units {m : Magnitude} (nonzero : m.units ≠ 0) : m.gap ≤ m.units := by
  have exponent : spacing m.units ≤ m.units.log2 := by
    simp only [spacing, precision]
    omega
  calc m.gap ≤ Nat.pow 2 m.units.log2 := Nat.pow_le_pow_right (by decide) exponent
    _ ≤ m.units := Nat.log2_self_le nonzero

/-- The interval that rounds to a positive magnitude does not reach down to zero. -/
theorem low_pos {m : Magnitude} (nonzero : m.units ≠ 0) : 0 < m.low := by
  have gap := gap_le_units nonzero
  have below : m.halfGapBelow ≤ 2 * m.gap := by
    unfold halfGapBelow
    split <;> omega
  unfold low
  omega

/-- Zero does not lie in the interval that rounds to a positive magnitude. -/
theorem covers_zero {m : Magnitude} (nonzero : m.units ≠ 0) {scale : Nat} (pos : 0 < scale) :
    m.covers 0 scale = false := by
  have product : 0 < m.low * scale := Nat.mul_pos (low_pos nonzero) pos
  unfold covers
  split
  · simp [Nat.not_le.mpr product]
  · simp

/-- A decimal that stands for a magnitude lies in the interval that rounds to it. -/
theorem covers_of_onGrid? {tie : Tie} {e : Int} {m : Magnitude} {c : Nat}
    (h : m.onGrid? tie e = some c) :
    m.covers (c * (Nat.pow 10 e.toNat * quartersPerOne)) (Nat.pow 10 (-e).toNat) = true := by
  unfold onGrid? at h
  -- the step is a large number; its value is hidden, since the kernel would compute with it
  obtain ⟨step, hidden⟩ : ∃ n, Nat.pow 10 e.toNat * quartersPerOne = n := ⟨_, rfl⟩
  rw [hidden] at h ⊢
  generalize Nat.pow 10 (-e).toNat = scale at h ⊢
  simp only at h
  generalize 4 * m.units * scale / step = below at h
  cases lower : m.covers (below * step) scale with
  | false =>
    cases upper : m.covers ((below + 1) * step) scale with
    | false => simp [lower, upper] at h
    | true =>
      obtain rfl : below + 1 = c := by simpa [lower, upper] using h
      exact upper
  | true =>
    cases upper : m.covers ((below + 1) * step) scale with
    | false =>
      obtain rfl : below = c := by simpa [lower, upper] using h
      exact lower
    | true =>
      have either : below = c ∨ below + 1 = c := by
        simp only [lower, upper] at h
        generalize compare (2 * (4 * m.units * scale)) ((2 * below + 1) * step) = order at h
        cases order with
        | lt => exact .inl (Option.some.inj h)
        | gt => exact .inr (Option.some.inj h)
        | eq =>
          cases tie with
          | up => exact .inr (Option.some.inj h)
          | toEven =>
            simp only at h
            split at h
            · exact .inl (Option.some.inj h)
            · exact .inr (Option.some.inj h)
      rcases either with rfl | rfl
      · exact lower
      · exact upper

/-- A decimal that stands for a positive magnitude is positive. -/
theorem coefficient_pos_of_onGrid? {tie : Tie} {e : Int} {m : Magnitude} {c : Nat}
    (nonzero : m.units ≠ 0) (h : m.onGrid? tie e = some c) : 0 < c := by
  rcases Nat.eq_zero_or_pos c with rfl | positive
  · have scale : 0 < Nat.pow 10 (-e).toNat := Nat.pow_pos (by decide)
    have inside := covers_of_onGrid? h
    rw [Nat.zero_mul, covers_zero nonzero scale] at inside
    exact nomatch inside
  · exact positive

/-- The first grid that meets the interval of a positive magnitude gives a positive
coefficient. -/
theorem coefficient_pos_of_firstGrid {tie : Tie} {m : Magnitude} (nonzero : m.units ≠ 0)
    {tries : Nat} {e : Int} {x : Scientific} (h : firstGrid tie m tries e = some x) :
    0 < x.coefficient := by
  induction tries generalizing e with
  | zero => exact nomatch h
  | succ tries ih =>
    rw [firstGrid] at h
    split at h
    · rename_i c found
      obtain rfl := Option.some.inj h
      exact coefficient_pos_of_onGrid? nonzero found
    · exact ih h

/-- Zero is written without a power of ten: no other decimal has the coefficient zero. -/
theorem exponent_shortest {tie : Tie} {m : Magnitude}
    (zero : (m.shortest tie).coefficient = 0) : (m.shortest tie).exponent = 0 := by
  unfold shortest at zero ⊢
  split
  · rfl
  · rename_i nonzero
    rw [if_neg nonzero] at zero
    cases found : firstGrid tie m 634 coarsest with
    | none => rfl
    | some x =>
      rw [found, Option.getD_some] at zero
      have := coefficient_pos_of_firstGrid nonzero found
      omega

end Magnitude

/-- Moving the point of the digits of a number leaves no zero before other digits,
provided that the point of zero stays where it is. -/
theorem regular_spread (layout : Layout) (negative : Bool) {n : Nat} {e : Int}
    (zero : n = 0 → e = 0) : (layout.spread negative (digits n) e).Regular := by
  have nonempty := digits_ne_nil n
  have only (h : (digits n).head? = some 0) : n = 0 ∧ e = 0 :=
    ⟨head?_digits_eq_zero h, zero (head?_digits_eq_zero h)⟩
  rw [Layout.spread]
  by_cases positive : 0 ≤ e
  · -- zeros are added at the end
    rw [if_pos positive]
    refine ⟨by simp [nonempty], fun h => ?_⟩
    rw [List.head?_append, Option.or_of_isSome (by simp [nonempty])] at h
    obtain ⟨rfl, rfl⟩ := only h
    simp [digits]
  · rw [if_neg positive]
    by_cases inside : (-e).toNat < (digits n).length
    · -- the point stands among the digits
      rw [if_pos inside]
      refine ⟨by simp [nonempty]; omega, fun h => ?_⟩
      rw [List.head?_take, if_neg (by omega)] at h
      have := (only h).2
      omega
    · -- the point stands before the digits
      rw [if_neg inside]
      exact ⟨List.cons_ne_nil 0 [], fun _ => rfl⟩

/-- A layout writes a decimal as a regular number, provided that zero has no power of ten. -/
theorem Layout.regular_numeral (layout : Layout) (negative : Bool) {x : Scientific}
    (zero : x.coefficient = 0 → x.exponent = 0) : (layout.numeral negative x).Regular := by
  unfold Layout.numeral
  simp only
  split
  · exact regular_spread layout negative zero
  · obtain ⟨d, ds, split⟩ := List.exists_cons_of_ne_nil (digits_ne_nil x.coefficient)
    rw [split]
    exact ⟨List.cons_ne_nil d [], fun _ => rfl⟩

/-- **Every layout writes magnitudes as regular numbers.** -/
theorem Magnitude.regular_numeral (layout : Layout) (negative : Bool) (m : Magnitude) :
    (m.numeral layout negative).Regular :=
  layout.regular_numeral negative exponent_shortest

end HostPreflight.Double
