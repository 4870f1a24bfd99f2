import HostPreflight.Proofs.Text.Words

/-!
# The fields and the lines of a text

Two relations say what it means that a text is cut into pieces, without saying how the
pieces are found.  Each holds of exactly one list of pieces, the one that is computed.

## Main definitions

* `Separated p cs fs` — the text `cs` consists of the fields `fs`, between which characters
  that satisfy `p` stand.
* `HasLines cs ls` — the text `cs` has the lines `ls`.

## Main statements

* `separated_iff` — the computed fields are the ones that a text has.
* `hasLines_iff` — the computed lines are the ones that a text has.
-/

namespace HostPreflight.Text

variable {p : Char → Bool} {cs line rest : List Char} {fs ls : List (List Char)}

/-! ## Fields -/

/-- A text consists of fields without characters of a class, between which single characters
of that class stand. -/
inductive Separated (p : Char → Bool) : List Char → List (List Char) → Prop where
  | last {field : List Char} (plain : ∀ c ∈ field, p c = false) : Separated p field [field]
  | cons {field rest : List Char} {c : Char} {others : List (List Char)}
      (plain : ∀ c ∈ field, p c = false) (separator : p c) (apart : Separated p rest others) :
      Separated p (field ++ c :: rest) (field :: others)

/-- A text has the fields of which it consists. -/
theorem Separated.fields_eq (h : Separated p cs fs) : fields p cs = fs := by
  induction h with
  | last plain => exact fields_of_forall_not plain
  | cons plain separator _ ih =>
    rw [fields_append_cons separator, fields_of_forall_not plain, ih, List.singleton_append]

/-- A character of no separator stands at the front of the first field. -/
theorem Separated.cons_of_not {c : Char} (hc : p c = false) (h : Separated p cs fs) :
    ∃ field others, fs = field :: others ∧ Separated p (c :: cs) ((c :: field) :: others) := by
  have plain {field : List Char} (rest : ∀ d ∈ field, p d = false) :
      ∀ d ∈ c :: field, p d = false := by
    intro d mem
    rcases List.mem_cons.1 mem with rfl | mem
    · exact hc
    · exact rest d mem
  cases h with
  | last rest => exact ⟨_, [], rfl, .last (plain rest)⟩
  | cons rest separator apart => exact ⟨_, _, rfl, .cons (plain rest) separator apart⟩

/-- A text consists of the fields that it has. -/
theorem separated_fields (p : Char → Bool) (cs : List Char) : Separated p cs (fields p cs) := by
  induction cs with
  | nil => exact .last (fun c mem => absurd mem List.not_mem_nil)
  | cons c cs ih =>
    by_cases hc : p c
    · rw [fields_cons_of hc]
      have empty : ∀ d ∈ ([] : List Char), p d = false := nofun
      exact .cons empty hc ih
    · have hc : p c = false := by simpa using hc
      obtain ⟨field, others, split, longer⟩ := ih.cons_of_not hc
      rw [fields_cons_of_not hc split]
      exact longer

/-- **A text consists of the fields that are computed for it**, and of no others. -/
theorem separated_iff : Separated p cs fs ↔ fields p cs = fs := by
  constructor
  · exact Separated.fields_eq
  · rintro rfl
    exact separated_fields p cs

/-- A character of no separator behind a text stands at the end of its last field. -/
theorem exists_fields_append_singleton {c : Char} (hc : p c = false) (cs : List Char) :
    ∃ front last, fields p cs = front ++ [last] ∧
      fields p (cs ++ [c]) = front ++ [last ++ [c]] := by
  induction cs with
  | nil => exact ⟨[], [], rfl, fields_cons_of_not hc rfl⟩
  | cons d cs ih =>
    obtain ⟨front, last, split, longer⟩ := ih
    by_cases hd : p d
    · refine ⟨[] :: front, last, ?_, ?_⟩
      · rw [fields_cons_of hd, split, List.cons_append]
      · rw [List.cons_append, fields_cons_of hd, longer, List.cons_append]
    · have hd : p d = false := by simpa using hd
      cases front with
      | nil => exact ⟨[], d :: last, fields_cons_of_not hd split, fields_cons_of_not hd longer⟩
      | cons field front =>
        exact ⟨(d :: field) :: front, last, fields_cons_of_not hd split,
          fields_cons_of_not hd longer⟩

/-! ## Lines -/

/-- A text has lines: each ends at a line feed, or at a carriage return right before one.
What stands behind the last line feed is a line of its own unless it is empty. -/
inductive HasLines : List Char → List (List Char) → Prop where
  | nil : HasLines [] []
  | last {line : List Char} (some : line ≠ []) (plain : '\n' ∉ line) : HasLines line [line]
  | feed {line rest : List Char} {others : List (List Char)} (plain : '\n' ∉ line)
      (noReturn : line.getLast? ≠ some '\r') (below : HasLines rest others) :
      HasLines (line ++ '\n' :: rest) (line :: others)
  | returnFeed {line rest : List Char} {others : List (List Char)} (plain : '\n' ∉ line)
      (below : HasLines rest others) : HasLines (line ++ '\r' :: '\n' :: rest) (line :: others)

/-- Texts without line feeds, each with one behind it, are told apart at them. -/
theorem fields_flatMap_line {texts : List (List Char)} (plain : ∀ text ∈ texts, '\n' ∉ text) :
    fields (· == '\n') (texts.flatMap fun text => text ++ ['\n']) = texts ++ [[]] := by
  induction texts with
  | nil => rfl
  | cons text texts ih =>
    have first := fields_of_notMem (plain text List.mem_cons_self)
    have rest := ih fun other mem => plain other (List.mem_cons_of_mem text mem)
    rw [List.flatMap_cons, List.append_assoc, List.singleton_append,
      fields_append_cons (by decide), first, rest, List.singleton_append, List.cons_append]

/-- The first line feed ends the first line. -/
theorem lines_append_newline (plain : '\n' ∉ line) (rest : List Char) :
    lines (line ++ '\n' :: rest) = dropReturn line :: lines rest := by
  obtain ⟨first, others, split⟩ := List.exists_cons_of_ne_nil (fields_ne_nil (· == '\n') rest)
  unfold lines
  rw [fields_append_cons (by decide), fields_of_notMem plain, split]
  simp

/-- Texts without line feeds, each with one behind it, are the lines that they make together,
but for a carriage return at their ends. -/
theorem lines_flatMap_line {texts : List (List Char)} (plain : ∀ text ∈ texts, '\n' ∉ text) :
    lines (texts.flatMap fun text => text ++ ['\n']) = texts.map dropReturn := by
  induction texts with
  | nil => rfl
  | cons text texts ih =>
    have rest := ih fun other mem => plain other (List.mem_cons_of_mem text mem)
    rw [List.flatMap_cons, List.append_assoc, List.singleton_append,
      lines_append_newline (plain text List.mem_cons_self), rest, List.map_cons]

/-- A line feed cuts a text in two, whose lines do not depend on each other. -/
theorem lines_append_feed (front back : List Char) :
    lines (front ++ '\n' :: back) = lines (front ++ ['\n']) ++ lines back := by
  obtain ⟨first, others, split⟩ := List.exists_cons_of_ne_nil (fields_ne_nil (· == '\n') back)
  unfold lines
  rw [fields_append_cons (by decide), fields_append_cons (by decide), split]
  simp [List.getLast?_cons]

/-- A text without a line feed is its only line unless it is empty. -/
theorem lines_of_newline_notMem (some : line ≠ []) (plain : '\n' ∉ line) :
    lines line = [line] := by
  unfold lines
  rw [fields_of_notMem plain]
  simp [some]

/-- A carriage return at the end of a line is dropped. -/
theorem dropReturn_append (line : List Char) : dropReturn (line ++ ['\r']) = line := by
  simp [dropReturn]

/-- A line that does not end in a carriage return is kept. -/
theorem dropReturn_of_ne (noReturn : line.getLast? ≠ some '\r') : dropReturn line = line :=
  if_neg noReturn

/-- A text has the lines that are computed. -/
theorem HasLines.lines_eq (h : HasLines cs ls) : lines cs = ls := by
  induction h with
  | nil => rfl
  | last some plain => exact lines_of_newline_notMem some plain
  | feed plain noReturn _ ih => rw [lines_append_newline plain, dropReturn_of_ne noReturn, ih]
  | @returnFeed line rest others plain _ ih =>
    have plain' : '\n' ∉ line ++ ['\r'] := by simpa using plain
    have split : line ++ '\r' :: '\n' :: rest = (line ++ ['\r']) ++ '\n' :: rest := by simp
    rw [split, lines_append_newline plain', dropReturn_append, ih]

/-- A line and a line feed in front of a text put that line in front of its lines. -/
theorem HasLines.append_newline (plain : '\n' ∉ line) (h : HasLines rest ls) :
    HasLines (line ++ '\n' :: rest) (dropReturn line :: ls) := by
  by_cases ended : line.getLast? = some '\r'
  · obtain ⟨front, rfl⟩ := List.getLast?_eq_some_iff.1 ended
    have plain' : '\n' ∉ front := by simpa using plain
    have split : front ++ ['\r'] ++ '\n' :: rest = front ++ '\r' :: '\n' :: rest := by simp
    rw [split, dropReturn_append]
    exact .returnFeed plain' h
  · rw [dropReturn_of_ne ended]
    exact .feed plain ended h

/-- Every text has lines: it is cut at its first line feed, and the rest is shorter. -/
theorem exists_hasLines (cs : List Char) : ∃ ls, HasLines cs ls := by
  by_cases feed : '\n' ∈ cs
  · obtain ⟨line, rest, split, plain⟩ := List.eq_append_cons_of_mem feed
    have shorter : rest.length < cs.length := by
      rw [split, List.length_append, List.length_cons]
      omega
    obtain ⟨ls, below⟩ := exists_hasLines rest
    exact ⟨dropReturn line :: ls, split ▸ below.append_newline plain⟩
  · by_cases empty : cs = []
    · exact ⟨[], empty ▸ .nil⟩
    · exact ⟨[cs], .last empty feed⟩
termination_by cs.length

/-- **A text has the lines that are computed for it**, and no others. -/
theorem hasLines_iff : HasLines cs ls ↔ lines cs = ls := by
  constructor
  · exact HasLines.lines_eq
  · rintro rfl
    obtain ⟨ls, h⟩ := exists_hasLines cs
    rw [h.lines_eq]
    exact h

end HostPreflight.Text
