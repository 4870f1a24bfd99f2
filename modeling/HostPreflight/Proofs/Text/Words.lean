import HostPreflight.Proofs.Text.Piece

/-!
# Words and the blanks between them

A text that is laid out from words, with blanks between them and perhaps around them, has
exactly these words, whatever the blanks are; and every text is laid out from its words.

## Main definitions

* `IsWord` — a word: not empty, and without blanks.
* `Spaced ws cs` — the text `cs` is laid out from the words `ws`.

## Main statements

* `Spaced.words_eq` — a text has the words from which it is laid out.
* `spaced_iff` — the computed words are the ones from which a text is laid out.
-/

namespace HostPreflight.Text

/-- A word: not empty, and without blanks. -/
structure IsWord (word : List Char) : Prop where
  nonempty : word ≠ []
  visible : ∀ c ∈ word, isBlank c = false

instance (word : List Char) : Decidable (IsWord word) :=
  decidable_of_iff (word ≠ [] ∧ word.all fun c => !isBlank c)
    ⟨fun ⟨nonempty, visible⟩ => ⟨nonempty, by simpa using visible⟩,
      fun ⟨nonempty, visible⟩ => ⟨nonempty, by simpa using visible⟩⟩

/-- A text that is laid out from words, with blanks between them.  There may be blanks in
front of the first word and behind the last one. -/
inductive Spaced : List (List Char) → List Char → Prop where
  | blank {gap : List Char} (blank : ∀ c ∈ gap, isBlank c) : Spaced [] gap
  | last {gap word : List Char} (blank : ∀ c ∈ gap, isBlank c) (visible : IsWord word) :
      Spaced [word] (gap ++ word)
  | cons {gap word : List Char} {c : Char} {words : List (List Char)} {rest : List Char}
      (blank : ∀ c ∈ gap, isBlank c) (visible : IsWord word) (apart : isBlank c)
      (others : Spaced words rest) : Spaced (word :: words) (gap ++ word ++ c :: rest)

variable {word gap cs : List Char} {ws : List (List Char)}

/-- A text in which nothing separates fields is one field. -/
theorem fields_of_forall_not {p : Char → Bool} (h : ∀ c ∈ cs, p c = false) :
    fields p cs = [cs] := by
  induction cs with
  | nil => rfl
  | cons c cs ih =>
    exact fields_cons_of_not (h c (List.mem_cons_self ..))
      (ih fun d mem => h d (List.mem_cons_of_mem c mem))

/-- A text without a mark is one field between such marks. -/
theorem fields_of_notMem {mark : Char} (plain : mark ∉ cs) : fields (· == mark) cs = [cs] := by
  refine fields_of_forall_not fun c mem => ?_
  simpa using fun (same : c = mark) => plain (same ▸ mem)

/-- A word on its own is the only word of its text. -/
theorem IsWord.words_eq (h : IsWord word) : words word = [word] := by
  rw [words, fields_of_forall_not h.visible, List.filter_cons_of_pos, List.filter_nil]
  simpa using h.nonempty

/-- Blanks in front belong to no word. -/
theorem words_append_of_blank (blank : ∀ c ∈ gap, isBlank c) (cs : List Char) :
    words (gap ++ cs) = words cs := by
  induction gap with
  | nil => rfl
  | cons c gap ih =>
    have first := words_append_cons (blank c (List.mem_cons_self ..)) [] (gap ++ cs)
    rw [List.nil_append] at first
    rw [List.cons_append, first, ih fun d mem => blank d (List.mem_cons_of_mem c mem)]
    rfl

/-- A gap cuts a text in two, whose words do not depend on each other. -/
theorem words_append_gap (some : gap ≠ []) (blank : ∀ c ∈ gap, isBlank c) (a b : List Char) :
    words (a ++ gap ++ b) = words a ++ words b := by
  obtain ⟨c, rest, rfl⟩ := List.exists_cons_of_ne_nil some
  have blank' : ∀ d ∈ rest, isBlank d := fun d mem => blank d (List.mem_cons_of_mem c mem)
  rw [List.append_assoc, List.cons_append, words_append_cons (blank c List.mem_cons_self),
    words_append_of_blank blank']

/-- A text has exactly the words from which it is laid out. -/
theorem Spaced.words_eq (h : Spaced ws cs) : words cs = ws := by
  induction h with
  | blank blank => exact words_eq_nil_iff.2 blank
  | last blank visible => rw [words_append_of_blank blank, visible.words_eq]
  | cons blank visible apart others ih =>
    rw [words_append_cons apart, words_append_of_blank blank, visible.words_eq, ih,
      List.singleton_append]

/-- Words that are joined by blanks are laid out. -/
theorem spaced_intercalate (visible : ∀ word ∈ ws, IsWord word) :
    Spaced ws ([' '].intercalate ws) := by
  have none : ∀ c ∈ ([] : List Char), isBlank c := nofun
  induction ws with
  | nil => exact .blank none
  | cons word ws ih =>
    have first := visible word List.mem_cons_self
    have others := ih fun other mem => visible other (List.mem_cons_of_mem word mem)
    cases ws with
    | nil =>
      rw [List.intercalate_singleton]
      exact .last none first
    | cons second ws =>
      rw [List.intercalate_cons_cons, List.append_assoc]
      exact .cons none first (by decide) others

/-! ## Every text is laid out from its words -/

variable {c : Char}

/-- A blank in front makes a gap wider. -/
theorem blank_cons (hc : isBlank c) (blank : ∀ d ∈ gap, isBlank d) : ∀ d ∈ c :: gap, isBlank d := by
  intro d mem
  rcases List.mem_cons.1 mem with rfl | mem
  · exact hc
  · exact blank d mem

/-- A visible character is a word. -/
theorem isWord_singleton (hc : isBlank c = false) : IsWord [c] where
  nonempty := List.cons_ne_nil c []
  visible := by simpa using hc

/-- A visible character in front makes a word longer. -/
theorem IsWord.cons (hc : isBlank c = false) (h : IsWord word) : IsWord (c :: word) where
  nonempty := List.cons_ne_nil c word
  visible := by
    intro d mem
    rcases List.mem_cons.1 mem with rfl | mem
    · exact hc
    · exact h.visible d mem

/-- A blank in front of a text leaves its words as they are. -/
theorem Spaced.cons_blank (hc : isBlank c) (h : Spaced ws cs) : Spaced ws (c :: cs) := by
  cases h with
  | blank blank => exact .blank (blank_cons hc blank)
  | last blank visible =>
    rw [← List.cons_append]
    exact .last (blank_cons hc blank) visible
  | cons blank visible apart others =>
    rw [← List.cons_append, ← List.cons_append]
    exact .cons (blank_cons hc blank) visible apart others

/-- A visible character in front of a text starts a word or makes the first one longer. -/
theorem Spaced.cons_visible (hc : isBlank c = false) (h : Spaced ws cs) :
    ∃ ws', Spaced ws' (c :: cs) := by
  have none : ∀ d ∈ ([] : List Char), isBlank d := fun d mem => absurd mem List.not_mem_nil
  -- behind a gap the character is a word of its own, otherwise it belongs to the first word
  cases h with
  | blank blank =>
    cases cs with
    | nil => exact ⟨[[c]], .last none (isWord_singleton hc)⟩
    | cons d gap =>
      have others : Spaced [] gap := .blank fun e mem => blank e (List.mem_cons_of_mem d mem)
      exact ⟨[[c]], .cons none (isWord_singleton hc) (blank d List.mem_cons_self) others⟩
  | @last gap word blank visible =>
    cases gap with
    | nil => exact ⟨[c :: word], .last none (visible.cons hc)⟩
    | cons d gap =>
      have others : Spaced [word] (gap ++ word) :=
        .last (fun e mem => blank e (List.mem_cons_of_mem d mem)) visible
      exact ⟨[c] :: [word],
        .cons none (isWord_singleton hc) (blank d List.mem_cons_self) others⟩
  | @cons gap word e words rest blank visible apart others =>
    cases gap with
    | nil => exact ⟨(c :: word) :: words, .cons none (visible.cons hc) apart others⟩
    | cons d gap =>
      have others' : Spaced (word :: words) (gap ++ word ++ e :: rest) :=
        .cons (fun f mem => blank f (List.mem_cons_of_mem d mem)) visible apart others
      exact ⟨[c] :: word :: words,
        .cons none (isWord_singleton hc) (blank d List.mem_cons_self) others'⟩

/-- Every text is laid out from words. -/
theorem exists_spaced (cs : List Char) : ∃ ws, Spaced ws cs := by
  induction cs with
  | nil => exact ⟨[], .blank fun c mem => absurd mem List.not_mem_nil⟩
  | cons c cs ih =>
    obtain ⟨ws, laidOut⟩ := ih
    by_cases hc : isBlank c
    · exact ⟨ws, laidOut.cons_blank hc⟩
    · exact laidOut.cons_visible (by simpa using hc)

/-- **A text is laid out from the words that are computed for it**, and from no others. -/
theorem spaced_iff : Spaced ws cs ↔ words cs = ws := by
  constructor
  · exact Spaced.words_eq
  · rintro rfl
    obtain ⟨ws, laidOut⟩ := exists_spaced cs
    rw [laidOut.words_eq]
    exact laidOut

end HostPreflight.Text
