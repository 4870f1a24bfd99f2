import HostPreflight.Json.Parser

/-!
# Numbers in JSON texts

The strict grammar of numbers: at least one whole digit, and no zero before others.
A number that keeps to it is read back from its text, wherever a character follows
that cannot be part of it.

## Main definitions

* `Numeral.Regular` — the numbers of the strict grammar.
* `EndsNumber` — a text that cannot continue a number.

## Main statements

* `numeral_text` — reading the text of a regular number gives the number back.
* `regular_ofNat` — counts are regular.
-/

namespace HostPreflight

open Decimal

/-- A number of the strict grammar: it has a whole digit, and a zero is the only one. -/
structure Decimal.Numeral.Regular (n : Numeral) : Prop where
  whole_ne_nil : n.whole ≠ []
  length_of_zero : n.whole.head? = some 0 → n.whole.length = 1

namespace Decimal

/-- The first digit of a number is zero only for zero itself. -/
theorem head?_digits_eq_zero {n : Nat} (h : (digits n).head? = some 0) : n = 0 := by
  induction n using digits.induct with
  | case1 n small =>
    rw [digits, if_pos small, List.head?_cons, Option.some.injEq] at h
    have value : n % 10 = 0 := congrArg Fin.val h
    omega
  | case2 n large ih =>
    obtain ⟨d, others, split⟩ := List.exists_cons_of_ne_nil (digits_ne_nil (n / 10))
    rw [digits, if_neg large, split, List.cons_append, List.head?_cons] at h
    have := ih (by rw [split, List.head?_cons, h])
    omega

/-- Only zero has a zero in front, and it has no other digit. -/
theorem length_digits_of_zero {n : Nat} (h : (digits n).head? = some 0) :
    (digits n).length = 1 := by
  rw [head?_digits_eq_zero h, digits]
  rfl

/-- Counts are regular. -/
theorem regular_ofNat (n : Nat) : (Numeral.ofNat n).Regular :=
  ⟨digits_ne_nil n, length_digits_of_zero⟩

end Decimal

namespace Json

/-! ## Digits -/

/-- A text that does not start with a digit. -/
def NoDigit (rest : List Char) : Prop := ∀ c ∈ rest.head?, Digit.ofChar? c = none

/-- Digits are split off up to the first character that is none. -/
theorem leadingDigits_append (ds : List Digit) {rest : List Char} (h : NoDigit rest) :
    leadingDigits (ds.map Digit.char ++ rest) = (ds, rest) := by
  induction ds with
  | nil =>
    cases rest with
    | nil => rfl
    | cons c cs =>
      have other : Digit.ofChar? c = none := h c rfl
      simp [leadingDigits, other]
  | cons d ds ih => simp [leadingDigits, ih]

/-! ## Parts of a number -/

/-- A text that cannot continue a number. -/
structure EndsNumber (rest : List Char) : Prop where
  noDigit : NoDigit rest
  noPoint : rest.head? ≠ some '.'
  noPower : rest.head? ≠ some 'e' ∧ rest.head? ≠ some 'E'

/-- Digits after the point are read back, and their absence too. -/
theorem fraction_append (ds : List Digit) {rest : List Char} (digit : NoDigit rest)
    (point : rest.head? ≠ some '.') :
    fraction ((if ds.isEmpty then [] else '.' :: ds.map Digit.char) ++ rest) = some (ds, rest) := by
  cases ds with
  | nil =>
    cases rest with
    | nil => rfl
    | cons c cs =>
      have other : c ≠ '.' := by simpa using point
      simp only [List.isEmpty_nil, if_true, List.nil_append]
      unfold fraction
      split
      · rename_i same
        exact absurd (List.cons.inj same).1 other
      · rfl
  | cons d ds =>
    simp only [List.isEmpty_cons, Bool.false_eq_true, if_false, List.cons_append, fraction]
    rw [leadingDigits_append _ digit]
    rfl

/-- A signed power of ten is read back. -/
theorem signedPower_append (e : Int) {rest : List Char} (digit : NoDigit rest) :
    signedPower ((if e < 0 then '-' else '+') :: (digits e.natAbs).map Digit.char ++ rest) =
      some (some e, rest) := by
  have read (negative : Bool) :
      powerDigits negative ((digits e.natAbs).map Digit.char ++ rest) =
        some (some (if negative then -(e.natAbs : Int) else e.natAbs), rest) := by
    rw [powerDigits, leadingDigits_append _ digit]
    simp [digits_ne_nil, ofDigits_digits]
  by_cases negative : e < 0
  · simp only [negative, if_true, List.cons_append, signedPower, read]
    congr
    omega
  · simp only [negative, if_false, List.cons_append, signedPower, read]
    congr
    simp only [Bool.false_eq_true, if_false]
    omega

/-- The text of a power of ten, if there is one. -/
def powerText : Option Int → List Char
  | none => []
  | some e => Numeral.exponentText e

/-- A power of ten is read back, and its absence too. -/
theorem power_append (exponent : Option Int) {rest : List Char} (ends : EndsNumber rest) :
    power (powerText exponent ++ rest) = some (exponent, rest) := by
  cases exponent with
  | none =>
    cases rest with
    | nil => rfl
    | cons c cs =>
      have small : c ≠ 'e' := by simpa using ends.noPower.1
      have large : c ≠ 'E' := by simpa using ends.noPower.2
      simp only [powerText, List.nil_append]
      unfold power
      split
      · rename_i same
        exact absurd (List.cons.inj same).1 small
      · rename_i same
        exact absurd (List.cons.inj same).1 large
      · rfl
  | some e =>
    simp only [powerText, Numeral.exponentText, List.cons_append, power]
    exact signedPower_append e ends.noDigit

/-! ## Whole numbers -/

/-- What follows the whole digits of a number. -/
def tailText (n : Numeral) : List Char :=
  (if n.fraction.isEmpty then [] else '.' :: n.fraction.map Digit.char) ++ powerText n.exponent

/-- No part of a number after its whole digits starts with a digit. -/
theorem noDigit_tailText (n : Numeral) {rest : List Char} (ends : EndsNumber rest) :
    NoDigit (tailText n ++ rest) := by
  obtain ⟨negative, whole, fraction, exponent⟩ := n
  intro c h
  cases fraction with
  | cons d ds =>
    obtain rfl : '.' = c := by simpa [tailText] using h
    decide
  | nil =>
    cases exponent with
    | some e =>
      obtain rfl : 'e' = c := by simpa [tailText, powerText, Numeral.exponentText] using h
      decide
    | none => exact ends.noDigit c (by simpa [tailText, powerText] using h)

/-- No part of a number after the point starts with another one. -/
theorem noPoint_power (exponent : Option Int) {rest : List Char} (ends : EndsNumber rest) :
    (powerText exponent ++ rest).head? ≠ some '.' := by
  cases exponent with
  | none => exact ends.noPoint
  | some e => simp [powerText, Numeral.exponentText]

/-- A power of ten does not start with a digit. -/
theorem noDigit_power (exponent : Option Int) {rest : List Char} (ends : EndsNumber rest) :
    NoDigit (powerText exponent ++ rest) := by
  have h := noDigit_tailText { negative := false, whole := [], exponent } ends
  simpa [tailText] using h

/-- The digits of a regular number are read back, with what follows them. -/
theorem magnitude_append {n : Numeral} (regular : n.Regular) {rest : List Char}
    (ends : EndsNumber rest) :
    magnitude n.negative (n.whole.map Digit.char ++ (tailText n ++ rest)) = some (n, rest) := by
  have zero : (n.whole.head? == some 0 && n.whole.length != 1) = false := by
    cases first : n.whole.head? == some 0 with
    | false => rfl
    | true => simp [regular.length_of_zero (by simpa using first)]
  have whole : n.whole.isEmpty = false := by simpa using regular.whole_ne_nil
  rw [magnitude, leadingDigits_append _ (noDigit_tailText n ends), tailText]
  simp only [whole, zero, Bool.or_self, List.append_assoc]
  rw [fraction_append _ (noDigit_power _ ends) (noPoint_power _ ends)]
  simp [power_append _ ends]

/-- A number that starts with a digit has no sign. -/
theorem numeral_digit (d : Digit) (cs : List Char) :
    numeral (d.char :: cs) = magnitude false (d.char :: cs) := by
  have unsigned : d.char ≠ '-' := by
    revert d
    decide
  unfold numeral
  split
  · rename_i same
    exact absurd (List.cons.inj same).1 unsigned
  · rfl

/-- The text of a regular number is read back, wherever it ends. -/
theorem numeral_text {n : Numeral} (regular : n.Regular) {rest : List Char}
    (ends : EndsNumber rest) : numeral (n.text ++ rest) = some (n, rest) := by
  have text : n.text ++ rest =
      (if n.negative then ['-'] else []) ++ (n.whole.map Digit.char ++ (tailText n ++ rest)) := by
    simp only [Numeral.text, tailText, List.append_assoc]
    rfl
  have read := magnitude_append regular ends
  rw [text]
  cases sign : n.negative with
  | true =>
    rw [sign] at read
    exact read
  | false =>
    obtain ⟨d, ds, split⟩ := List.exists_cons_of_ne_nil regular.whole_ne_nil
    rw [sign, split] at read
    simp only [split, Bool.false_eq_true, if_false, List.nil_append, List.map_cons,
      List.cons_append] at read ⊢
    rw [numeral_digit, read]

end Json

end HostPreflight
