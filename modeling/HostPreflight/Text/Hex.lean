/-!
# Hexadecimal digits

Hexadecimal numbers in lower case, as the two kinds of escapes write them.

## Main definitions

* `hexDigit d` and `hexValue? c` — one digit, written and read.
* `lastHexDigit n` and `hex n` — the last digit and the digits of `n` without leading zeros.
-/

namespace HostPreflight.Text

/-- The hexadecimal digit `d` in lower case. -/
def hexDigit (d : Fin 16) : Char :=
  if d.val < 10 then Char.ofNat ('0'.toNat + d.val) else Char.ofNat ('a'.toNat + d.val - 10)

/-- The value of a hexadecimal digit of either case. -/
def hexValue? (c : Char) : Option Nat :=
  let n := c.toNat
  if '0'.toNat ≤ n ∧ n ≤ '9'.toNat then some (n - '0'.toNat)
  else if 'a'.toNat ≤ n ∧ n ≤ 'f'.toNat then some (n - 'a'.toNat + 10)
  else if 'A'.toNat ≤ n ∧ n ≤ 'F'.toNat then some (n - 'A'.toNat + 10)
  else none

@[simp] theorem hexValue?_hexDigit (d : Fin 16) : hexValue? (hexDigit d) = some d.val := by
  revert d
  decide

/-- The last hexadecimal digit of `n`. -/
def lastHexDigit (n : Nat) : Char := hexDigit (Fin.ofNat 16 n)

/-- The hexadecimal digits of `n`, most significant first, without leading zeros. -/
def hex (n : Nat) : List Char :=
  if n < 16 then [lastHexDigit n] else hex (n / 16) ++ [lastHexDigit n]

end HostPreflight.Text
