import HostPreflight.Text.Blank

/-!
# Fields, words and lines

Three ways to cut a text into pieces.  All of them rest on `fields`, which cuts
at every character of a class and keeps the empty pieces.

## Main definitions

* `fields p cs` — the stretches between the characters that satisfy `p`.
* `words cs` — the non-empty stretches between blank characters.
* `lines cs` — the lines of a text: each ends at a line feed, and a carriage
  return right before that line feed belongs to the line's end.

## Main statements

* `fields_append_cons` — a character of the class cuts a text in two, whose fields
  do not depend on each other; everything else about fields follows from it.
-/

namespace HostPreflight.Text

/-- The stretches between the characters that satisfy `p`: always one more than
there are such characters. -/
def fields (p : Char → Bool) : List Char → List (List Char)
  | [] => [[]]
  | c :: cs =>
    if p c then [] :: fields p cs
    else
      match fields p cs with
      | [] => [[c]]
      | first :: others => (c :: first) :: others

@[simp] theorem fields_nil (p : Char → Bool) : fields p [] = [[]] := rfl

variable {p : Char → Bool} {c : Char} {cs : List Char}

/-- A character of the class ends a field. -/
theorem fields_cons_of (h : p c) : fields p (c :: cs) = [] :: fields p cs := by
  simp [fields, h]

/-- There is always a first field. -/
theorem fields_ne_nil (p : Char → Bool) (cs : List Char) : fields p cs ≠ [] := by
  cases cs with
  | nil => simp
  | cons c cs =>
    unfold fields
    split
    · simp
    · split <;> simp

/-- Any other character stands at the front of the first field. -/
theorem fields_cons_of_not (h : p c = false) {first : List Char} {others : List (List Char)}
    (split : fields p cs = first :: others) : fields p (c :: cs) = (c :: first) :: others := by
  simp [fields, h, split]

/-- A character of the class cuts a text in two, whose fields do not depend on
each other. -/
theorem fields_append_cons (h : p c) (a b : List Char) :
    fields p (a ++ c :: b) = fields p a ++ fields p b := by
  induction a with
  | nil => simp [fields_cons_of h]
  | cons x a ih =>
    by_cases hx : p x
    · simp [fields_cons_of hx, ih]
    · obtain ⟨first, others, split⟩ := List.exists_cons_of_ne_nil (fields_ne_nil p a)
      have hx : p x = false := by simpa using hx
      rw [List.cons_append, fields_cons_of_not hx split,
        fields_cons_of_not hx (by rw [ih, split, List.cons_append]), List.cons_append]

/-- No field holds a character of the class. -/
theorem not_of_mem_fields {field : List Char} (mem : field ∈ fields p cs) (hc : c ∈ field) :
    p c = false := by
  induction cs generalizing field with
  | nil =>
    simp only [fields_nil, List.mem_singleton] at mem
    simp [mem] at hc
  | cons x cs ih =>
    by_cases hx : p x
    · rw [fields_cons_of hx] at mem
      rcases List.mem_cons.1 mem with rfl | mem
      · simp at hc
      · exact ih mem hc
    · have hx : p x = false := by simpa using hx
      obtain ⟨first, others, split⟩ := List.exists_cons_of_ne_nil (fields_ne_nil p cs)
      rw [fields_cons_of_not hx split] at mem
      rcases List.mem_cons.1 mem with rfl | mem
      · rcases List.mem_cons.1 hc with rfl | hc
        · exact hx
        · exact ih (split ▸ List.mem_cons_self) hc
      · exact ih (split ▸ List.mem_cons_of_mem _ mem) hc

/-- There is one field more than there are characters of the class. -/
theorem length_fields (p : Char → Bool) (cs : List Char) :
    (fields p cs).length = cs.countP p + 1 := by
  induction cs with
  | nil => rfl
  | cons x cs ih =>
    by_cases hx : p x
    · simp [fields_cons_of hx, hx, ih]
    · have hx : p x = false := by simpa using hx
      obtain ⟨first, others, split⟩ := List.exists_cons_of_ne_nil (fields_ne_nil p cs)
      rw [split] at ih
      rw [fields_cons_of_not hx split, List.countP_cons_of_neg (by simp [hx])]
      simpa using ih

/-! ## Words -/

/-- The words of a text: its non-empty stretches between blank characters. -/
def words (cs : List Char) : List (List Char) :=
  (fields isBlank cs).filter fun word => !word.isEmpty

/-- No word is empty. -/
theorem ne_nil_of_mem_words {cs word : List Char} (h : word ∈ words cs) : word ≠ [] := by
  simp only [words, List.mem_filter, Bool.not_eq_true', List.isEmpty_eq_false_iff] at h
  exact h.2

/-- No word holds a blank. -/
theorem isBlank_of_mem_word {word : List Char} (h : word ∈ words cs) (hc : c ∈ word) :
    isBlank c = false :=
  not_of_mem_fields (List.mem_filter.1 h).1 hc

/-- A blank cuts a text in two, whose words do not depend on each other. -/
theorem words_append_cons (h : isBlank c) (a b : List Char) :
    words (a ++ c :: b) = words a ++ words b := by
  simp [words, fields_append_cons h]

/-! ## Lines -/

/-- A line without the carriage return that ends it. -/
def dropReturn (line : List Char) : List Char :=
  if line.getLast? = some '\r' then line.dropLast else line

/-- The lines of a text.  What follows the last line feed is a line of its own
unless it is empty, and keeps a carriage return at its end. -/
def lines (cs : List Char) : List (List Char) :=
  let pieces := fields (· == '\n') cs
  let rest := pieces.getLast?.getD []
  pieces.dropLast.map dropReturn ++ if rest.isEmpty then [] else [rest]

@[simp] theorem lines_nil : lines [] = [] := rfl

/-- Whether `part` occurs in a text as a contiguous piece. -/
def containsPiece (part : List Char) : List Char → Bool
  | [] => part.isEmpty
  | c :: cs => part.isPrefixOf (c :: cs) || containsPiece part cs

end HostPreflight.Text
