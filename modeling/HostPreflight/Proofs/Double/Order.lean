import HostPreflight.Double.Arithmetic

/-!
# Rounding keeps the order

A larger quotient never rounds to a smaller count.  Within one spacing of the grid this is
the order of whole numbers; where the spacing changes, a power of two stands between the
two counts.  Every operation that rounds once therefore keeps the order of its arguments,
also where it overflows.

Counting to an infinity as well puts all of this on natural numbers: `Double.extent` is the
distance from zero, with the first count that is too large in the place of an infinity.

## Main definitions

* `signed` — a count with a sign.
* `extent` — how far a number lies from zero.
* `scaled d u` — the count after a division by the magnitude `d`.

## Main statements

* `roundHalfEven_mono`, `nearest_mono` — rounding keeps the order of quotients.
* `ofNat_eq_finite` — numbers of at most 53 bits are doubles.
* `atMost_trans`, `atMost_ofNat`, `atMost_div` — the order of doubles, and the operations
  that keep it.
-/

namespace HostPreflight

/-- Rounding does not go below the whole part of a quotient. -/
theorem div_le_roundHalfEven (a b : Nat) : a / b ≤ roundHalfEven a b := by
  unfold roundHalfEven
  split <;> omega

/-- A larger quotient does not round to a smaller number. -/
theorem roundHalfEven_mono {a a' : Nat} (b : Nat) (h : a ≤ a') :
    roundHalfEven a b ≤ roundHalfEven a' b := by
  have quotients : a / b ≤ a' / b := Nat.div_le_div_right h
  rcases Nat.lt_or_eq_of_le quotients with lt | same
  · calc roundHalfEven a b ≤ a / b + 1 := roundHalfEven_le a b
      _ ≤ a' / b := lt
      _ ≤ roundHalfEven a' b := div_le_roundHalfEven a' b
  · have remainders : a % b ≤ a' % b := by
      have first := Nat.div_add_mod a b
      have second := Nat.div_add_mod a' b
      rw [same] at first
      omega
    unfold roundHalfEven
    rw [same]
    split <;> split <;> omega

namespace Double

/-! ## The grid -/

/-- The gaps do not become smaller as the counts become larger. -/
theorem spacing_mono {n m : Nat} (h : n ≤ m) : spacing n ≤ spacing m := by
  have digits : n.log2 ≤ m.log2 := by
    rcases Nat.eq_zero_or_pos n with rfl | positive
    · simp
    · exact (Nat.le_log2 (by omega)).2 (Nat.le_trans (Nat.log2_self_le (by omega)) h)
  unfold spacing
  omega

/-- What rounding yields is at most the power of two above. -/
theorem nearest_le (a b : Nat) : nearest a b ≤ Nat.pow 2 (precision + spacing (a / b)) := by
  have rounded : roundHalfEven a (b * Nat.pow 2 (spacing (a / b))) ≤ Nat.pow 2 precision := by
    apply Nat.le_trans (roundHalfEven_le ..)
    rw [← Nat.div_div_eq_div_mul]
    exact div_gap_lt (a / b)
  calc nearest a b ≤ Nat.pow 2 precision * Nat.pow 2 (spacing (a / b)) :=
        Nat.mul_le_mul_right _ rounded
    _ = Nat.pow 2 (precision + spacing (a / b)) := (Nat.pow_add ..).symm

/-- Where there are gaps, a count is at least the power of two below. -/
theorem pow_mul_gap_le {q : Nat} (gaps : 0 < spacing q) :
    Nat.pow 2 (precision - 1) * Nat.pow 2 (spacing q) ≤ q := by
  have nonzero : q ≠ 0 := by
    intro zero
    simp [zero, spacing, precision] at gaps
  have exponent : precision - 1 + spacing q = q.log2 := by
    unfold spacing precision at gaps ⊢
    omega
  calc Nat.pow 2 (precision - 1) * Nat.pow 2 (spacing q)
      = Nat.pow 2 q.log2 := by rw [← exponent]; exact (Nat.pow_add ..).symm
    _ ≤ q := Nat.log2_self_le nonzero

/-- Where there are gaps, what rounding yields is at least the power of two below. -/
theorem le_nearest {a b : Nat} (gaps : 0 < spacing (a / b)) :
    Nat.pow 2 (precision - 1 + spacing (a / b)) ≤ nearest a b := by
  have significand : Nat.pow 2 (precision - 1) ≤ a / b / Nat.pow 2 (spacing (a / b)) := by
    rw [Nat.le_div_iff_mul_le (pow_two_pos _)]
    exact pow_mul_gap_le gaps
  calc Nat.pow 2 (precision - 1 + spacing (a / b))
      = Nat.pow 2 (precision - 1) * Nat.pow 2 (spacing (a / b)) := Nat.pow_add ..
    _ ≤ a / b / Nat.pow 2 (spacing (a / b)) * Nat.pow 2 (spacing (a / b)) :=
        Nat.mul_le_mul_right _ significand
    _ ≤ nearest a b := by
        rw [Nat.div_div_eq_div_mul]
        exact Nat.mul_le_mul_right _ (div_le_roundHalfEven ..)

/-- A larger quotient does not round to a smaller count. -/
theorem nearest_mono {a a' : Nat} (b : Nat) (h : a ≤ a') : nearest a b ≤ nearest a' b := by
  have quotients : a / b ≤ a' / b := Nat.div_le_div_right h
  rcases Nat.lt_or_eq_of_le (spacing_mono quotients) with wider | same
  · -- a power of two stands between
    calc nearest a b ≤ Nat.pow 2 (precision + spacing (a / b)) := nearest_le a b
      _ ≤ Nat.pow 2 (precision - 1 + spacing (a' / b)) := by
          apply Nat.pow_le_pow_right (by decide)
          unfold precision
          omega
      _ ≤ nearest a' b := le_nearest (by omega)
  · unfold nearest
    rw [same]
    exact Nat.mul_le_mul_right _ (roundHalfEven_mono _ h)

/-- Nothing rounds to nothing. -/
@[simp] theorem nearest_zero (b : Nat) : nearest 0 b = 0 := by
  simp [nearest, roundHalfEven]

/-- A count on the grid is not rounded. -/
theorem nearest_of_isGrid {n : Nat} (grid : IsGrid n) : nearest n 1 = n := by
  have whole : n % Nat.pow 2 (spacing n) = 0 := Nat.mod_eq_zero_of_dvd grid
  have kept : roundHalfEven n (Nat.pow 2 (spacing n)) = n / Nat.pow 2 (spacing n) := by
    have gap := pow_two_pos (spacing n)
    unfold roundHalfEven
    rw [whole, if_neg (by omega)]
  rw [nearest, Nat.div_one, Nat.one_mul, kept]
  exact Nat.div_mul_cancel grid

/-! ## Positions -/

/-- A count with a sign. -/
def signed (negative : Bool) (n : Nat) : Int := if negative then -n else n

/-- A map of counts that keeps order and zero keeps the order of signed counts. -/
theorem signed_mono {f : Nat → Nat} (mono : ∀ {a b : Nat}, a ≤ b → f a ≤ f b) (zero : f 0 = 0)
    {p q : Bool} {a b : Nat} (h : signed p a ≤ signed q b) : signed p (f a) ≤ signed q (f b) := by
  cases p <;> cases q <;> simp only [signed, Bool.false_eq_true, if_false, if_true] at h ⊢
  · have := mono (show a ≤ b by omega)
    omega
  · obtain ⟨rfl, rfl⟩ : a = 0 ∧ b = 0 := by omega
    omega
  · omega
  · have := mono (show b ≤ a by omega)
    omega

/-- How far a number lies from zero, with the first count that is too large in the place of
an infinity. -/
def extent : Double → Nat
  | .finite _ m => m.units
  | .infinite _ => unitsLimit
  | .nan => 0

theorem position?_nan : position? .nan = none := rfl

/-- A number stands at its signed extent. -/
theorem position?_eq {x : Double} (number : x ≠ .nan) :
    x.position? = some (signed x.isNegative x.extent) := by
  cases x with
  | finite negative m => cases negative <;> rfl
  | infinite negative => cases negative <;> rfl
  | nan => exact absurd rfl number

/-- The comparison is the one of signed extents. -/
theorem atMost_iff {x y : Double} :
    x.atMost y ↔ x ≠ .nan ∧ y ≠ .nan ∧
      signed x.isNegative x.extent ≤ signed y.isNegative y.extent := by
  by_cases here : x = .nan
  · rw [here, atMost, position?_nan]
    exact iff_of_false Bool.false_ne_true fun both => both.1 rfl
  · rw [atMost, position?_eq here]
    by_cases there : y = .nan
    · rw [there, position?_nan]
      exact iff_of_false Bool.false_ne_true fun both => both.2.1 rfl
    · rw [position?_eq there]
      simp [here, there]

/-- The order of doubles is transitive. -/
theorem atMost_trans {x y z : Double} (h : x.atMost y) (h' : y.atMost z) : x.atMost z := by
  rw [atMost_iff] at h h' ⊢
  exact ⟨h.1, h'.2.1, Int.le_trans h.2.2 h'.2.2⟩

/-- A rounded number of units has the sign that it is given, and the rounded count, up to
the limit, as its extent. -/
theorem ofUnits_extent (negative : Bool) (a b : Nat) :
    ofUnits negative a b ≠ .nan ∧ (ofUnits negative a b).isNegative = negative ∧
      (ofUnits negative a b).extent = min (nearest a b) unitsLimit := by
  unfold ofUnits Magnitude.ofUnits?
  by_cases h : nearest a b < unitsLimit
  · rw [dif_pos h]
    exact ⟨nofun, rfl, (Nat.min_eq_left (Nat.le_of_lt h)).symm⟩
  · rw [dif_neg h]
    exact ⟨nofun, rfl, (Nat.min_eq_right (Nat.le_of_not_lt h)).symm⟩

/-! ## Operations -/

/-- A number of few digits stays below a power of two when both are shifted. -/
theorem mul_pow_lt {n p l : Nat} (h : n ≤ Nat.pow 2 p) (digits : p < l) (e : Nat) :
    n * Nat.pow 2 e < Nat.pow 2 (l + e) := by
  have sum : Nat.pow 2 (l + e) = Nat.pow 2 l * Nat.pow 2 e := Nat.pow_add ..
  rw [sum]
  apply Nat.mul_lt_mul_of_pos_right _ (pow_two_pos e)
  exact Nat.lt_of_le_of_lt h (Nat.pow_lt_pow_right (by decide) digits)

/-- A representable count of units is not rounded. -/
theorem Magnitude.ofUnits?_of_isGrid {u : Nat} (grid : IsGrid u) (small : u < unitsLimit) :
    Magnitude.ofUnits? u 1 = some ⟨u, grid, small⟩ := by
  have kept := nearest_of_isGrid grid
  have below : nearest u 1 < unitsLimit := Nat.lt_of_le_of_lt (Nat.le_of_eq kept) small
  exact (dif_pos below).trans (congrArg some (Magnitude.ext kept))

/-- A rounded number of units is the finite number of its magnitude, if there is one. -/
theorem ofUnits_of_some {negative : Bool} {a b : Nat} {m : Magnitude}
    (found : Magnitude.ofUnits? a b = some m) : ofUnits negative a b = .finite negative m := by
  unfold ofUnits
  rw [found]

/-- A natural number of at most 53 bits lies on the grid. -/
theorem isGrid_whole {n : Nat} (h : n ≤ Nat.pow 2 precision) : IsGrid (n * unitsPerOne) := by
  unfold unitsPerOne
  exact isGrid_mul h

/-- A natural number of at most 53 bits is a double. -/
theorem ofNat_eq_finite {n : Nat} (h : n ≤ Nat.pow 2 precision) :
    ∃ m : Magnitude, ofNat n = .finite false m ∧ m.units = n * unitsPerOne := by
  have grid := isGrid_whole h
  have small : n * unitsPerOne < unitsLimit := by
    unfold unitsPerOne unitsLimit
    exact mul_pow_lt h (by decide) leastPower
  have found := Magnitude.ofUnits?_of_isGrid grid small
  have rounded : ofUnits false (n * unitsPerOne) 1 = _ := ofUnits_of_some found
  exact ⟨⟨n * unitsPerOne, grid, small⟩, rounded, rfl⟩

/-- Larger natural numbers do not become smaller doubles. -/
theorem atMost_ofNat {a b : Nat} (h : a ≤ b) : (ofNat a).atMost (ofNat b) := by
  obtain ⟨number, sign, extent⟩ := ofUnits_extent false (a * unitsPerOne) 1
  obtain ⟨number', sign', extent'⟩ := ofUnits_extent false (b * unitsPerOne) 1
  refine atMost_iff.2 ⟨number, number', ?_⟩
  have ordered := nearest_mono 1 (Nat.mul_le_mul_right unitsPerOne h)
  unfold ofNat ofRatio
  rw [sign, sign', extent, extent']
  simp only [signed, Bool.false_eq_true, if_false]
  omega

/-- The extent after a division by a magnitude: an infinity stays one. -/
def scaled (d : Magnitude) (u : Nat) : Nat :=
  if u < unitsLimit then min (nearest (u * unitsPerOne) d.units) unitsLimit else unitsLimit

theorem scaled_zero (d : Magnitude) : scaled d 0 = 0 := by
  rw [scaled, if_pos unitsLimit_pos, Nat.zero_mul, nearest_zero, Nat.zero_min]

theorem scaled_mono (d : Magnitude) {u v : Nat} (h : u ≤ v) : scaled d u ≤ scaled d v := by
  have ordered := nearest_mono d.units (Nat.mul_le_mul_right unitsPerOne h)
  unfold scaled
  split <;> split <;> omega

/-- Dividing by a positive number keeps the sign and scales the extent. -/
theorem div_extent {d : Magnitude} (positive : 0 < d.units) {x : Double} (number : x ≠ .nan) :
    x / .finite false d ≠ .nan ∧ (x / .finite false d).isNegative = x.isNegative ∧
      (x / .finite false d).extent = scaled d x.extent := by
  cases x with
  | nan => exact absurd rfl number
  | infinite negative =>
    have quotient : (.infinite negative : Double) / .finite false d = .infinite negative := by
      cases negative <;> rfl
    rw [quotient]
    exact ⟨nofun, rfl, (if_neg (Nat.lt_irrefl _)).symm⟩
  | finite negative m =>
    have quotient : (.finite negative m : Double) / .finite false d =
        ofUnits negative (m.units * unitsPerOne) d.units := by
      cases negative <;> exact if_neg (Nat.ne_of_gt positive)
    rw [quotient]
    obtain ⟨number, sign, extent⟩ := ofUnits_extent negative (m.units * unitsPerOne) d.units
    exact ⟨number, sign, extent.trans (if_pos m.lt_limit).symm⟩

/-- Dividing by a positive number keeps the order. -/
theorem atMost_div {d : Magnitude} (positive : 0 < d.units) {x y : Double} (h : x.atMost y) :
    (x / .finite false d).atMost (y / .finite false d) := by
  obtain ⟨number, number', ordered⟩ := atMost_iff.1 h
  obtain ⟨first, sign, extent⟩ := div_extent positive number
  obtain ⟨second, sign', extent'⟩ := div_extent positive number'
  refine atMost_iff.2 ⟨first, second, ?_⟩
  rw [sign, sign', extent, extent']
  exact signed_mono (fun h => scaled_mono d h) (scaled_zero d) ordered

end Double

end HostPreflight
