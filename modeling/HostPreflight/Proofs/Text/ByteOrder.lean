import HostPreflight.Proofs.Text.Utf8
import Mathlib.Tactic.SplitIfs

/-!
# The order of texts and of their octets

Texts are ordered by the numbers of their characters, and lists of octets by the octets.
UTF-8 keeps the order: the first octet of a character grows with the character or tells as
much of it, and the octets that follow are the digits of what it does not tell.

## Main definitions

* `leading n`, `trailing more n` — the first and the last octets of a character.

## Main statements

* `encode_lt_encode` — of two texts, the smaller one has the smaller octets.
-/

namespace HostPreflight.Text.Utf8

/-! ## The octets of a character -/

/-- The last `more` octets of the character with the number `n`. -/
def trailing : Nat → Nat → List UInt8
  | 0, _ => []
  | more + 1, n => UInt8.ofNat (n / Nat.pow 64 more % 64 + 0x80) :: trailing more n

/-- How many octets follow the first octet of the character with the number `n`. -/
def trailingCount (n : Nat) : Nat :=
  if n ≤ 0x7F then 0 else if n ≤ 0x7FF then 1 else if n ≤ 0xFFFF then 2 else 3

/-- The first octet of the character with the number `n`.  What is added to the digit says
how many octets follow. -/
def leading (n : Nat) : Nat :=
  n / Nat.pow 64 (trailingCount n) + [0x00, 0xC0, 0xE0, 0xF0].getD (trailingCount n) 0

/-- A character has its first octet and those that follow. -/
theorem utf8EncodeChar_eq_cons (c : Char) :
    String.utf8EncodeChar c =
      UInt8.ofNat (leading c.val.toNat) :: trailing (trailingCount c.val.toNat) c.val.toNat := by
  have valid := c.valid
  simp only [UInt32.isValidChar, Nat.isValidChar] at valid
  unfold String.utf8EncodeChar leading trailingCount
  generalize c.val.toNat = n at valid ⊢
  dsimp only
  split_ifs with one two three
  · simp [trailing]
  · have fits : n / 64 % 32 = n / 64 := by omega
    simp [trailing, fits]
  · have fits : n / 4096 % 16 = n / 4096 := by omega
    simp [trailing, fits]
  · have fits : n / 262144 % 8 = n / 262144 := by omega
    simp [trailing, fits]

/-- The first octet is one. -/
theorem leading_lt {n : Nat} (valid : n < 0x110000) : leading n < 256 := by
  unfold leading trailingCount
  split_ifs <;> simp <;> omega

/-! ## The order -/

variable {m n : Nat} {a b : List UInt8}

/-- Of two lists of octets, the first octets decide unless they are the same. -/
theorem ofNat_cons_lt (fits : n < 256) (order : m < n ∨ m = n ∧ a < b) :
    UInt8.ofNat m :: a < UInt8.ofNat n :: b := by
  rw [List.cons_lt_cons_iff]
  rcases order with lt | ⟨rfl, rest⟩
  · left
    rw [UInt8.lt_iff_toNat_lt, toNat_octet (by omega), toNat_octet fits]
    exact lt
  · exact .inr ⟨rfl, rest⟩

/-- First octets grow with the character.  Where they do not, as many octets follow, and the
characters differ only in what these tell. -/
theorem leading_lt_or_eq (lt : m < n) :
    leading m < leading n ∨ leading m = leading n ∧ trailingCount m = trailingCount n ∧
      m / Nat.pow 64 (trailingCount n) = n / Nat.pow 64 (trailingCount n) := by
  unfold leading trailingCount
  -- four ranges of numbers for each character, and in each of them fixed powers of 64
  split_ifs <;> simp <;> omega

/-- The octets that follow are digits of the character, the most significant one first. -/
theorem trailing_append_lt {more : Nat} (lt : m < n)
    (same : m / Nat.pow 64 more = n / Nat.pow 64 more) (a b : List UInt8) :
    trailing more m ++ a < trailing more n ++ b := by
  induction more with
  | zero => exact absurd same (by simp [Nat.ne_of_lt lt])
  | succ more ih =>
    have le : m / Nat.pow 64 more ≤ n / Nat.pow 64 more :=
      Nat.div_le_div_right (Nat.le_of_lt lt)
    have power : Nat.pow 64 (more + 1) = Nat.pow 64 more * 64 := rfl
    rw [power, ← Nat.div_div_eq_div_mul, ← Nat.div_div_eq_div_mul] at same
    refine ofNat_cons_lt (by omega) ?_
    by_cases equal : m / Nat.pow 64 more = n / Nat.pow 64 more
    · exact .inr ⟨by rw [equal], ih equal⟩
    · left
      omega

/-- The octets of a smaller character are smaller, whatever octets come behind. -/
theorem utf8EncodeChar_append_lt {c d : Char} (lt : c < d) (a b : List UInt8) :
    String.utf8EncodeChar c ++ a < String.utf8EncodeChar d ++ b := by
  have valid := d.valid
  have lt : c.val.toNat < d.val.toNat := lt
  simp only [UInt32.isValidChar, Nat.isValidChar] at valid
  rw [utf8EncodeChar_eq_cons, utf8EncodeChar_eq_cons, List.cons_append, List.cons_append]
  refine ofNat_cons_lt (leading_lt (by omega)) ?_
  rcases leading_lt_or_eq lt with first | ⟨first, count, same⟩
  · exact .inl first
  · rw [count]
    exact .inr ⟨first, trailing_append_lt lt same a b⟩

/-- **UTF-8 keeps the order**: of two texts, the smaller one has the smaller octets. -/
theorem encode_lt_encode {cs ds : List Char} (lt : cs < ds) : encode cs < encode ds := by
  induction lt with
  | @nil d ds =>
    rw [encode, encode, List.flatMap_nil, List.flatMap_cons, utf8EncodeChar_eq_cons]
    exact List.nil_lt_cons _ _
  | rel lt => exact utf8EncodeChar_append_lt lt _ _
  | cons _ ih => exact List.append_left_lt ih

end HostPreflight.Text.Utf8
