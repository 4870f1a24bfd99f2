import HostPreflight.Proofs.Text.Words

/-!
# Blanks around a word

Trimming finds the word that stands between blanks.

## Main definitions

* `Padded word cs` — the text `cs` is `word` with blanks around it.

## Main statements

* `IsWord.padded_iff` — trimming yields a word exactly if the text is that word with blanks
  around it.
-/

namespace HostPreflight.Text

/-- A text that is another one with blanks around it. -/
inductive Padded (word : List Char) : List Char → Prop where
  | intro {front back : List Char} (blankFront : ∀ c ∈ front, isBlank c)
      (blankBack : ∀ c ∈ back, isBlank c) : Padded word (front ++ word ++ back)

variable {word gap cs : List Char}

/-- Blanks at the start are trimmed. -/
theorem trimStart_append_of_blank (blank : ∀ c ∈ gap, isBlank c) (cs : List Char) :
    trimStart (gap ++ cs) = trimStart cs :=
  List.dropWhile_append_of_pos blank

/-- A text with a visible character at its start is not trimmed there. -/
theorem trimStart_of_visible {c : Char} (hc : isBlank c = false) (cs : List Char) :
    trimStart (c :: cs) = c :: cs :=
  List.dropWhile_cons_of_neg (by simp [hc])

/-- A word has nothing to trim at its start, whatever stands behind it. -/
theorem IsWord.trimStart_append (h : IsWord word) (cs : List Char) :
    trimStart (word ++ cs) = word ++ cs := by
  cases word with
  | nil => exact absurd rfl h.nonempty
  | cons c word => exact trimStart_of_visible (h.visible c List.mem_cons_self) _

/-- A word read backwards is a word. -/
theorem IsWord.reverse (h : IsWord word) : IsWord word.reverse where
  nonempty := by simpa using h.nonempty
  visible := fun c mem => h.visible c (List.mem_reverse.1 mem)

/-- Trimming yields the word between blanks. -/
theorem IsWord.trim_of_padded (h : IsWord word) (padded : Padded word cs) : trim cs = word := by
  obtain @⟨front, back, blankFront, blankBack⟩ := padded
  have blankBack' : ∀ c ∈ back.reverse, isBlank c :=
    fun c mem => blankBack c (List.mem_reverse.1 mem)
  have start : trimStart (front ++ word ++ back) = word ++ back := by
    rw [List.append_assoc, trimStart_append_of_blank blankFront, h.trimStart_append]
  have backwards : trimStart (back.reverse ++ word.reverse) = word.reverse := by
    have whole := h.reverse.trimStart_append []
    rw [List.append_nil] at whole
    rw [trimStart_append_of_blank blankBack', whole]
  rw [trim, start, trimEnd, List.reverse_append, backwards, List.reverse_reverse]

/-- A blank behind a text is trimmed. -/
theorem trim_append_blank {c : Char} (blank : isBlank c) (cs : List Char) :
    trim (cs ++ [c]) = trim cs := by
  unfold trim trimEnd trimStart
  rw [List.dropWhile_append]
  split
  · next empty =>
    rw [List.isEmpty_iff.1 empty, List.dropWhile_cons_of_pos blank]
    rfl
  · rw [List.reverse_append, List.reverse_singleton, List.singleton_append,
      List.dropWhile_cons_of_pos blank]

/-- What is left of a text at its start is what follows its blanks. -/
theorem exists_blank_append_trimStart (cs : List Char) :
    ∃ gap, (∀ c ∈ gap, isBlank c) ∧ cs = gap ++ trimStart cs :=
  ⟨cs.takeWhile isBlank, List.all_eq_true.1 List.all_takeWhile,
    List.takeWhile_append_dropWhile.symm⟩

/-- A text is what trimming leaves of it, with blanks around it. -/
theorem padded_trim (cs : List Char) : Padded (trim cs) cs := by
  obtain ⟨front, blankFront, start⟩ := exists_blank_append_trimStart cs
  obtain ⟨back, blankBack, backwards⟩ := exists_blank_append_trimStart (trimStart cs).reverse
  have ended : trimStart cs = trim cs ++ back.reverse := by
    rw [trim, trimEnd, ← List.reverse_append, ← backwards, List.reverse_reverse]
  have blankBack' : ∀ c ∈ back.reverse, isBlank c :=
    fun c mem => blankBack c (List.mem_reverse.1 mem)
  have whole : cs = front ++ trim cs ++ back.reverse := by
    rw [List.append_assoc, ← ended, ← start]
  have padded : Padded (trim cs) (front ++ trim cs ++ back.reverse) :=
    .intro blankFront blankBack'
  rwa [← whole] at padded

/-- **Trimming yields a word exactly if the text is that word with blanks around it.** -/
theorem IsWord.padded_iff (h : IsWord word) : Padded word cs ↔ trim cs = word := by
  constructor
  · exact h.trim_of_padded
  · rintro rfl
    exact padded_trim cs

end HostPreflight.Text
