import HostPreflight.Text.Fields

/-!
# Pieces and words

What it means that a text contains a marker, and when a text has a word.  A line
with a marker always has a word: the marker itself is not blank.

## Main statements

* `containsPiece_iff` — the search for a piece is the relation of an infix.
* `flatten_fields` — fields hold every character but the ones that separate them.
* `words_eq_nil_iff` — only blank texts have no words.
-/

namespace HostPreflight.Text

variable {p : Char → Bool} {c : Char} {part cs : List Char}

/-- A piece is found exactly where it is an infix. -/
theorem containsPiece_iff : containsPiece part cs = true ↔ part <:+: cs := by
  induction cs with
  | nil => simp [containsPiece]
  | cons c cs ih => simp [containsPiece, List.infix_cons_iff, ih]

/-- The fields of a text, one after another, are the text without its separators. -/
theorem flatten_fields (p : Char → Bool) (cs : List Char) :
    (fields p cs).flatten = cs.filter fun c => !p c := by
  induction cs with
  | nil => rfl
  | cons c cs ih =>
    by_cases hc : p c
    · simp [fields_cons_of hc, hc, ih]
    · have hc : p c = false := by simpa using hc
      obtain ⟨first, others, split⟩ := List.exists_cons_of_ne_nil (fields_ne_nil p cs)
      rw [split] at ih
      rw [fields_cons_of_not hc split, List.filter_cons_of_pos (by simp [hc]), ← ih]
      rfl

/-- Only a text of blanks has no words. -/
theorem words_eq_nil_iff : words cs = [] ↔ ∀ c ∈ cs, isBlank c := by
  have flat := flatten_fields isBlank cs
  rw [words, List.filter_eq_nil_iff]
  constructor
  · intro h
    have empty : (fields isBlank cs).flatten = [] := by
      rw [List.flatten_eq_nil_iff]
      simpa using h
    rw [empty] at flat
    simpa using flat.symm
  · intro h
    have empty : (fields isBlank cs).flatten = [] := by
      rw [flat, List.filter_eq_nil_iff]
      simpa using h
    simpa using List.flatten_eq_nil_iff.1 empty

/-- A text that contains a piece with a visible character has a word. -/
theorem words_ne_nil_of_infix (h : part <:+: cs) (mem : c ∈ part) (hc : isBlank c = false) :
    words cs ≠ [] := by
  intro empty
  have blank := words_eq_nil_iff.1 empty c (h.subset mem)
  simp [hc] at blank

end HostPreflight.Text
