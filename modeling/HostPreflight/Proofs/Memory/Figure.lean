import HostPreflight.Proofs.Double.TwoSteps
import HostPreflight.Proofs.Json.Reading
import HostPreflight.Proofs.Run.Resources

/-!
# The memory figure as a JSON number

A memory figure is the quotient of a 64-bit count of kilobytes and a million, so it lies
between a millionth and `2 ^ 45`.  There the reader gathers all digits of the written figure,
and it rounds twice where the exact value of the digits would be rounded once.

## Main statements

* `Magnitude.Moderate.coefficient_le` — millionths have short decimals.
* `FreeMemory.exists_gigabytes` — a memory figure is finite, and neither large nor small.
-/

namespace HostPreflight

open Double

namespace Double

/-- A positive number from zero on lies in the range of its bounds. -/
theorem exists_of_atMost {low high x : Double} (below : low.atMost x) (above : x.atMost high)
    (positive : low.isNegative = false) (some : 0 < low.extent)
    (finite : high.isNegative = false) (bound : high.extent < unitsLimit) :
    ∃ m : Magnitude, x = .finite false m ∧ low.extent ≤ m.units ∧ m.units ≤ high.extent := by
  obtain ⟨-, number, least⟩ := atMost_iff.1 below
  obtain ⟨-, -, most⟩ := atMost_iff.1 above
  rw [positive] at least
  rw [finite] at most
  generalize low.extent = a at least some ⊢
  generalize high.extent = b at most bound ⊢
  cases x with
  | nan => exact absurd rfl number
  | infinite negative =>
    cases negative <;> simp only [signed, isNegative, extent, Bool.false_eq_true, if_true,
      if_false] at least most <;> omega
  | finite negative m =>
    cases negative <;> simp only [signed, isNegative, extent, Bool.false_eq_true, if_true,
      if_false] at least most
    · exact ⟨m, rfl, Int.ofNat_le.1 least, Int.ofNat_le.1 most⟩
    · omega

/-- From a millionth on, the grid of `10 ^ -22` is fine. -/
theorem Magnitude.fine_of_le {m : Magnitude} (least : Nat.pow 2 1054 ≤ m.units) :
    m.Fine (-22) := by
  have exponent : 1002 ≤ spacing m.units := by
    calc 1002 = spacing (Nat.pow 2 1054) := by decide +kernel
      _ ≤ spacing m.units := spacing_mono least
  exact fine_of_spacing exponent (by decide +kernel)

/-- A fine grid of `10 ^ -22` needs gaps. -/
theorem Magnitude.Fine.gaps {m : Magnitude} (fine : m.Fine (-22)) : 0 < spacing m.units := by
  refine Nat.pos_of_ne_zero fun none => ?_
  have one : m.gap = 1 := by
    rw [gap, none]
  rw [Fine, one] at fine
  exact absurd fine (by decide +kernel)

/-- An interval that holds `k` millionths, for not too large a `k`, is less than two millionths
wide. -/
theorem Magnitude.lt_of_millionths {m : Magnitude} (positive : 0 < m.units)
    (gaps : 0 < spacing m.units) {k c : Nat} (few : k ≤ 9000000000000000)
    (lower : m.low * 1000000 ≤ 4 * (k * unitsPerOne))
    (upper : 4 * (c * unitsPerOne) ≤ m.high * 1000000) : c < k + 2 := by
  have significand : 4503599627370496 * m.gap ≤ m.units := pow_mul_gap_le gaps
  have low := low_mul positive 1000000
  have high := m.high_mul 1000000
  have half := m.halfGapBelow_eq
  have counts := Nat.mul_le_mul_right unitsPerOne few
  have width : m.gap * 1000000 < 2 * unitsPerOne := by omega
  refine Nat.lt_of_mul_lt_mul_right (a := unitsPerOne) ?_
  rw [Nat.add_mul]
  omega

/-- **Millionths have short decimals.**  A magnitude that `k` millionths round to has digits of
at most 53 bits, if `k` is a little smaller than that. -/
theorem Magnitude.Moderate.coefficient_le {m : Magnitude} (moderate : m.Moderate) {k : Nat}
    (few : k ≤ 9000000000000000) (once : nearest (k * unitsPerOne) 1000000 = m.units) :
    (m.shortest .toEven).coefficient ≤ Nat.pow 2 53 := by
  rcases Nat.eq_zero_or_pos m.units with zero | positive
  · rw [shortest, if_pos zero]
    exact Nat.zero_le _
  rcases Int.lt_or_le (m.shortest .toEven).exponent 0 with negative | nonneg
  · -- the grid of millionths meets the interval, so the decimal lies on it or on a coarser one
    have inside := (covers_iff (m := m) (x := k * unitsPerOne) (d := 1000000) (by decide)).2 once
    have meets : m.Meets (-6) := by
      have step : k * Nat.pow 10 (-6 : Int).toNat = k := Nat.mul_one k
      have scale : Nat.pow 10 (-(-6) : Int).toNat = 1000000 := rfl
      refine ⟨k, ?_⟩
      rw [mul_quarters, step, scale]
      exact inside
    have places := meets.le_exponent positive (by decide) .toEven
    obtain ⟨n, exponent⟩ := Scientific.exists_places negative
    have upper := (le_of_covers (m.covers_shortest .toEven)).2
    rw [Scientific.numerator_of_neg negative, Scientific.denominator_of_neg exponent] at upper
    have scale : m.high * Nat.pow 10 n ≤ m.high * 1000000 :=
      Nat.mul_le_mul_left _ (Nat.pow_le_pow_right (by decide) (show n ≤ 6 by omega))
    have next := lt_of_millionths positive (moderate.fine positive).gaps few
      (le_of_covers inside).1 (Nat.le_trans upper scale)
    have value : 9000000000000000 + 2 ≤ Nat.pow 2 53 := by decide
    omega
  · have whole := numerator_le (Nat.le_of_lt moderate.small) nonneg
    calc (m.shortest .toEven).coefficient
        ≤ (m.shortest .toEven).numerator := Nat.le_mul_of_pos_right _ (ten_pow_pos _)
      _ ≤ Nat.pow 2 46 := whole
      _ ≤ Nat.pow 2 53 := by decide

end Double

namespace FreeMemory

/-- The figure of one kilobyte. -/
theorem gigabytes_one : (gigabytes ⟨1⟩).isNegative = false ∧ 0 < (gigabytes ⟨1⟩).extent ∧
    Nat.pow 2 1054 ≤ (gigabytes ⟨1⟩).extent := by
  decide +kernel

/-- The figure of the largest count. -/
theorem gigabytes_largest : (gigabytes ⟨18446744073709551615⟩).isNegative = false ∧
    (gigabytes ⟨18446744073709551615⟩).extent < Nat.pow 2 45 * unitsPerOne := by
  decide +kernel

/-- **A memory figure is a finite number that is neither large nor small.** -/
theorem exists_gigabytes (memory : FreeMemory) :
    ∃ m : Magnitude, memory.gigabytes = .finite false m ∧ m.Moderate := by
  obtain ⟨kilobytes⟩ := memory
  rcases Nat.eq_zero_or_pos kilobytes.toNat with zero | some
  · obtain rfl : kilobytes = 0 := UInt64.toNat_inj.1 zero
    refine ⟨.zero, by decide +kernel, ⟨fun positive => absurd positive (Nat.lt_irrefl 0), ?_⟩⟩
    exact Nat.mul_pos (pow_two_pos 45) unitsPerOne_pos
  have least : gigabytes ⟨1⟩ |>.atMost (gigabytes ⟨kilobytes⟩) :=
    gigabytes_mono (UInt64.le_iff_toNat_le.2 some)
  have most : (gigabytes ⟨kilobytes⟩).atMost (gigabytes ⟨18446744073709551615⟩) :=
    gigabytes_mono (UInt64.le_iff_toNat_le.2 (Nat.le_of_lt_succ kilobytes.toNat_lt))
  obtain ⟨sign, positive, low⟩ := gigabytes_one
  obtain ⟨sign', high⟩ := gigabytes_largest
  have limit : Nat.pow 2 45 * unitsPerOne < unitsLimit := by decide +kernel
  obtain ⟨m, value, above, below⟩ :=
    exists_of_atMost least most sign positive sign' (Nat.lt_trans high limit)
  exact ⟨m, value, fun _ => Magnitude.fine_of_le (Nat.le_trans low above),
    Nat.lt_of_le_of_lt below high⟩

end FreeMemory

end HostPreflight
