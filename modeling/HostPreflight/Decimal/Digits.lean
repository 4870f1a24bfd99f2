/-!
# Decimal digits

Digits of a natural number, written and read.  Reading takes the form in which
the kernel and its tools write counts: one `+` at most, then ASCII digits only,
with a limit on the value.

## Main definitions

* `Digit` — a decimal digit; `Digit.char` and `Digit.ofChar?`.
* `digits n` — the digits of `n`, most significant first, without leading zeros.
* `ofDigits ds` — the number that a row of digits stands for.
* `unsigned? limit cs` — the number written by `cs`, if it is below `limit`.
-/

namespace HostPreflight.Decimal

/-- A decimal digit. -/
abbrev Digit := Fin 10

/-- The digit zero. -/
abbrev Digit.zero : Digit := 0

/-- The ASCII character of a digit. -/
def Digit.char (d : Digit) : Char := Char.ofNat ('0'.toNat + d.val)

/-- The digit that an ASCII character stands for. -/
def Digit.ofChar? (c : Char) : Option Digit :=
  let n := c.toNat
  if h : '0'.toNat ≤ n ∧ n ≤ '9'.toNat then
    some ⟨n - '0'.toNat, by
      have h9 : '9'.toNat = '0'.toNat + 9 := rfl
      omega⟩
  else none

@[simp] theorem Digit.ofChar?_char (d : Digit) : Digit.ofChar? d.char = some d := by
  revert d
  decide

/-- The number that a row of digits stands for, after `start` has been read. -/
def ofDigitsFrom (start : Nat) (ds : List Digit) : Nat :=
  ds.foldl (fun n d => 10 * n + d.val) start

/-- The number that a row of digits stands for. -/
def ofDigits (ds : List Digit) : Nat := ofDigitsFrom 0 ds

/-- The digits of `n`, most significant first, without leading zeros; one digit
for zero. -/
def digits (n : Nat) : List Digit :=
  if n < 10 then [Fin.ofNat 10 n] else digits (n / 10) ++ [Fin.ofNat 10 n]

/-- Writing a number and reading its digits gives the number back. -/
theorem ofDigits_digits (n : Nat) : ofDigits (digits n) = n := by
  induction n using digits.induct with
  | case1 n h =>
    rw [digits, if_pos h]
    simp [ofDigits, ofDigitsFrom, Fin.ofNat, Nat.mod_eq_of_lt h]
  | case2 n h ih =>
    rw [digits, if_neg h]
    simp only [ofDigits, ofDigitsFrom, List.foldl_append, List.foldl_cons, List.foldl_nil] at ih ⊢
    rw [ih]
    simp only [Fin.ofNat]
    omega

/-- A number always has a digit. -/
theorem digits_ne_nil (n : Nat) : digits n ≠ [] := by
  unfold digits
  split <;> simp

/-- The decimal text of a number. -/
def text (n : Nat) : String := String.ofList ((digits n).map Digit.char)

/-- The digits that a text consists of; none if another character occurs in it. -/
def digits? (cs : List Char) : Option (List Digit) := cs.mapM Digit.ofChar?

/-- The number written by `cs`: one `+` at most, then one or more ASCII digits,
with a value below `limit`.  Leading zeros are allowed. -/
def unsigned? (limit : Nat) (cs : List Char) : Option Nat := do
  let body := match cs with
    | '+' :: rest => rest
    | _ => cs
  let ds ← digits? body
  if ds.isEmpty then none
  else if ofDigits ds < limit then some (ofDigits ds)
  else none

end HostPreflight.Decimal
