import HostPreflight.Double.Layout
import HostPreflight.Text.Quoted
import Mathlib.Tactic.SplitIfs

/-!
# Texts on one line

Numbers and quoted texts hold no line feed, whatever is written or quoted, and joining texts
brings none in.

## Main definitions

* `OneLine text` — a text without a line feed.

## Main statements

* `oneLine_decimal`, `oneLine_double` — numbers are written on one line.
* `oneLine_quoted` — so is every text in double quotes.
* `newline_notMem_intercalate` — pieces on one line, joined on one line, stay there.
-/

namespace HostPreflight

open Decimal Text

/-- A text without a line feed. -/
def OneLine (text : String) : Prop := '\n' ∉ text.toList

instance (text : String) : Decidable (OneLine text) := inferInstanceAs (Decidable (¬ _))

/-- A text of two pieces stands on one line if both pieces do. -/
@[simp] theorem oneLine_append {a b : String} : OneLine (a ++ b) ↔ OneLine a ∧ OneLine b := by
  simp [OneLine]

theorem oneLine_ofList {cs : List Char} : OneLine (String.ofList cs) ↔ '\n' ∉ cs := by
  simp [OneLine]

/-! ## Numbers -/

namespace Decimal

/-- No digit is a line feed. -/
theorem newline_notMem_digits (ds : List Digit) : '\n' ∉ ds.map Digit.char := by
  have apart : ∀ d : Digit, d.char ≠ '\n' := by decide
  intro mem
  obtain ⟨d, -, same⟩ := List.mem_map.1 mem
  exact apart d same

/-- Beside digits, a numeral holds signs, a point and a letter. -/
theorem Numeral.newline_notMem_text (n : Numeral) : '\n' ∉ n.text := by
  have power (e : Int) : '\n' ∉ exponentText e := by
    have digits := newline_notMem_digits (digits e.natAbs)
    unfold exponentText
    split <;> simp [digits]
  simp only [text, List.mem_append, not_or]
  refine ⟨⟨⟨?_, newline_notMem_digits n.whole⟩, ?_⟩, ?_⟩
  · split <;> decide
  · split
    · exact List.not_mem_nil
    · simp [newline_notMem_digits n.fraction]
  · split
    · exact List.not_mem_nil
    · exact power _

end Decimal

/-- A count is written on one line. -/
@[simp] theorem oneLine_decimal (n : Nat) : OneLine (Decimal.text n) :=
  oneLine_ofList.2 (newline_notMem_digits _)

/-- A double is written on one line, be it a number or not. -/
@[simp] theorem oneLine_double (x : Double) : OneLine x.text := by
  cases x with
  | finite negative m => exact oneLine_ofList.2 (Numeral.newline_notMem_text _)
  | infinite negative => cases negative <;> decide
  | nan => decide

/-! ## Joined and quoted texts -/

namespace Text

/-- Pieces that stand on one line do so when they are joined. -/
theorem newline_notMem_intercalate {separator : List Char} {pieces : List (List Char)}
    (apart : '\n' ∉ separator) (plain : ∀ piece ∈ pieces, '\n' ∉ piece) :
    '\n' ∉ separator.intercalate pieces := by
  induction pieces with
  | nil => exact List.not_mem_nil
  | cons first others ih =>
    have rest := ih fun piece mem => plain piece (List.mem_cons_of_mem first mem)
    have start := plain first List.mem_cons_self
    cases others with
    | nil => rwa [List.intercalate_singleton]
    | cons second others =>
      rw [List.intercalate_cons_cons]
      simp only [List.mem_append, not_or]
      exact ⟨⟨start, apart⟩, rest⟩

/-- No hexadecimal digit is a line feed. -/
theorem newline_notMem_hex (n : Nat) : '\n' ∉ hex n := by
  have apart : ∀ d : Fin 16, '\n' ≠ hexDigit d := by decide
  induction n using hex.induct with
  | case1 n small =>
    rw [hex, if_pos small]
    simpa [lastHexDigit] using apart _
  | case2 n large ih =>
    rw [hex, if_neg large]
    simpa [lastHexDigit, ih] using apart _

/-- A line feed is spelled out, and what is spelled out holds none. -/
theorem newline_notMem_quoteChar (c : Char) : '\n' ∉ quoteChar c := by
  unfold quoteChar
  split_ifs with zero tab ret newline backslash quote hidden
  · decide
  · decide
  · decide
  · decide
  · decide
  · decide
  · simp [newline_notMem_hex]
  · simpa using Ne.symm newline

/-- A text in double quotes stands on one line. -/
theorem oneLine_quoted (cs : List Char) : OneLine (String.ofList (quoted cs)) := by
  have inside : '\n' ∉ cs.flatMap quoteChar := by
    intro mem
    obtain ⟨c, -, mem⟩ := List.mem_flatMap.1 mem
    exact newline_notMem_quoteChar c mem
  rw [oneLine_ofList]
  simp [quoted, inside]

end Text

end HostPreflight
