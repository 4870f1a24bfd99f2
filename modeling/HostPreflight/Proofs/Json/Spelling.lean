import HostPreflight.Proofs.Json.Literal
import HostPreflight.Proofs.Json.Number
import Mathlib.Data.List.DropRight

/-!
# The texts of a JSON value

A value has many texts: blanks may stand before and after every part.  The relation
between values and texts is given by its grammar, and the reader is shown to read every
text of the grammar as the value that it spells.  A layout is then right as soon as all
that it writes is in the grammar.

## Main definitions

* `Spaces` — a row of blanks.
* `Spells v cs` — a text without blanks around it spells a value.
* `SpellsItems`, `SpellsMembers` — a row with commas spells the parts of a value.

## Main statements

* `value_of_spells` — the reader reads a text as the value that it spells.
* `parseChars?_of_spells` — so does the reader of whole texts, with blanks around it.
-/

namespace HostPreflight.Json

open Decimal

/-! ## Blanks -/

/-- A row of blanks. -/
def Spaces (cs : List Char) : Prop := ∀ c ∈ cs, isSpace c = true

/-- No blanks are a row of blanks. -/
theorem spaces_nil : Spaces [] := fun _ h => nomatch h

/-- Blanks are skipped. -/
theorem skip_spaces {before : List Char} (spaces : Spaces before) (cs : List Char) :
    skip (before ++ cs) = skip cs :=
  List.dropWhile_append_of_pos spaces

/-- What is not blank is not skipped. -/
theorem skip_cons {c : Char} (h : isSpace c = false) (cs : List Char) :
    skip (c :: cs) = c :: cs :=
  List.dropWhile_cons_of_neg (by simp [h])

/-- No number goes on with another mark than a digit, a point or a power of ten. -/
theorem endsNumber_cons {c : Char} (digit : Digit.ofChar? c = none) (point : c ≠ '.')
    (power : c ≠ 'e' ∧ c ≠ 'E') (cs : List Char) : EndsNumber (c :: cs) where
  noDigit d h := by
    obtain rfl : c = d := by simpa using h
    exact digit
  noPoint := by simpa using point
  noPower := by simpa using power

/-- Blanks end a number. -/
theorem endsNumber_spaces {after rest : List Char} (spaces : Spaces after)
    (ends : EndsNumber rest) : EndsNumber (after ++ rest) := by
  cases after with
  | nil => exact ends
  | cons c cs =>
    have blank : ((c = ' ' ∨ c = '\t') ∨ c = '\n') ∨ c = '\r' := by
      simpa [isSpace] using spaces c List.mem_cons_self
    rcases blank with ((rfl | rfl) | rfl) | rfl <;>
      exact endsNumber_cons (by decide) (by decide) (by decide) _

/-! ## The grammar -/

mutual

/-- The text `cs` spells the value, without blanks around it. -/
inductive Spells : Json → List Char → Prop
  | null : Spells .null ['n', 'u', 'l', 'l']
  | isTrue : Spells (.bool true) ['t', 'r', 'u', 'e']
  | isFalse : Spells (.bool false) ['f', 'a', 'l', 's', 'e']
  | number {n : Numeral} (regular : n.Regular) : Spells (.number n) n.text
  | string (s : Literal) : Spells (.string s) (literalText s)
  | noItems {inner : List Char} (spaces : Spaces inner) :
    Spells (.array []) ('[' :: (inner ++ [']']))
  | items {vs : List Json} {cs : List Char} (row : SpellsItems vs cs) :
    Spells (.array vs) ('[' :: (cs ++ [']']))
  | noMembers {inner : List Char} (spaces : Spaces inner) :
    Spells (.object []) ('\x7b' :: (inner ++ ['\x7d']))
  | members {ms : List (Literal × Json)} {cs : List Char} (row : SpellsMembers ms cs) :
    Spells (.object ms) ('\x7b' :: (cs ++ ['\x7d']))

/-- The text spells items with commas between them and blanks around them. -/
inductive SpellsItems : List Json → List Char → Prop
  | last {v : Json} {before cs after : List Char} (opening : Spaces before)
    (item : Spells v cs) (closing : Spaces after) :
    SpellsItems [v] (before ++ (cs ++ after))
  | cons {v : Json} {vs : List Json} {before cs after others : List Char}
    (opening : Spaces before) (item : Spells v cs) (closing : Spaces after)
    (row : SpellsItems vs others) :
    SpellsItems (v :: vs) (before ++ (cs ++ (after ++ ',' :: others)))

/-- The text spells members with commas between them and blanks around their parts. -/
inductive SpellsMembers : List (Literal × Json) → List Char → Prop
  | last {name : Literal} {v : Json} {before named gap cs after : List Char}
    (opening : Spaces before) (colon : Spaces named) (inner : Spaces gap)
    (item : Spells v cs) (closing : Spaces after) :
    SpellsMembers [(name, v)]
      (before ++ (literalText name ++ (named ++ ':' :: (gap ++ (cs ++ after)))))
  | cons {name : Literal} {v : Json} {ms : List (Literal × Json)}
    {before named gap cs after others : List Char}
    (opening : Spaces before) (colon : Spaces named) (inner : Spaces gap)
    (item : Spells v cs) (closing : Spaces after) (row : SpellsMembers ms others) :
    SpellsMembers ((name, v) :: ms)
      (before ++ (literalText name ++
        (named ++ ':' :: (gap ++ (cs ++ (after ++ ',' :: others))))))

end

/-! ## First characters -/

/-- A character that can start a value: neither blank nor the end of an array. -/
structure Starts (c : Char) : Prop where
  visible : isSpace c = false
  notEnd : c ≠ ']'

/-- A digit can start a value. -/
theorem starts_digit (d : Digit) : Starts d.char := by
  have h : ∀ d : Digit, isSpace d.char = false ∧ d.char ≠ ']' := by decide
  exact ⟨(h d).1, (h d).2⟩

/-- A number starts with a digit or with its sign. -/
theorem text_eq_cons {n : Numeral} (regular : n.Regular) :
    ∃ c cs, n.text = c :: cs ∧ ((∃ d : Digit, c = d.char) ∨ c = '-') := by
  obtain ⟨d, ds, split⟩ := List.exists_cons_of_ne_nil regular.whole_ne_nil
  cases sign : n.negative with
  | true => exact ⟨'-', _, by rw [Numeral.text, sign]; rfl, .inr rfl⟩
  | false => exact ⟨d.char, _, by rw [Numeral.text, sign, split]; rfl, .inl ⟨d, rfl⟩⟩

/-- A text of a value starts with a character that can start a value. -/
theorem Spells.eq_cons {v : Json} {cs : List Char} (h : Spells v cs) :
    ∃ c others, cs = c :: others ∧ Starts c := by
  cases h with
  | null => exact ⟨_, _, rfl, by decide, by decide⟩
  | isTrue => exact ⟨_, _, rfl, by decide, by decide⟩
  | isFalse => exact ⟨_, _, rfl, by decide, by decide⟩
  | number regular =>
    obtain ⟨c, others, text, ⟨d, rfl⟩ | rfl⟩ := text_eq_cons regular
    · exact ⟨_, others, text, starts_digit d⟩
    · exact ⟨_, others, text, by decide, by decide⟩
  | string s => exact ⟨_, _, literalText_eq s, by decide, by decide⟩
  | noItems => exact ⟨_, _, rfl, by decide, by decide⟩
  | items => exact ⟨_, _, rfl, by decide, by decide⟩
  | noMembers => exact ⟨_, _, rfl, by decide, by decide⟩
  | members => exact ⟨_, _, rfl, by decide, by decide⟩

/-- A row of items starts, after blanks, with a character that can start a value. -/
theorem SpellsItems.skip_eq_cons {vs : List Json} {cs : List Char} (h : SpellsItems vs cs)
    (rest : List Char) : ∃ c others, skip (cs ++ rest) = c :: others ∧ Starts c := by
  cases h with
  | last opening item closing =>
    obtain ⟨c, others, rfl, starts⟩ := item.eq_cons
    rw [List.append_assoc, skip_spaces opening]
    exact ⟨c, _, skip_cons starts.visible _, starts⟩
  | cons opening item closing row =>
    obtain ⟨c, others, rfl, starts⟩ := item.eq_cons
    rw [List.append_assoc, skip_spaces opening]
    exact ⟨c, _, skip_cons starts.visible _, starts⟩

/-! ## Steps of the reader -/

/-- Blanks are skipped at once. -/
theorem skip_skip (cs : List Char) : skip (skip cs) = skip cs :=
  List.dropWhile_idempotent ..

/-- A value is read in the same way without the blanks before it. -/
theorem value_skip (fuel : Nat) (cs : List Char) : value fuel (skip cs) = value fuel cs := by
  cases fuel with
  | zero => rfl
  | succ fuel => rw [value, value, skip_skip]

/-- A value is read in the same way with blanks before it. -/
theorem value_spaces {before : List Char} (spaces : Spaces before) (fuel : Nat)
    (cs : List Char) : value fuel (before ++ cs) = value fuel cs := by
  rw [← value_skip, skip_spaces spaces, value_skip]

/-- Items are read in the same way without the blanks before them. -/
theorem items_skip (fuel : Nat) (cs : List Char) : items fuel (skip cs) = items fuel cs := by
  cases fuel with
  | zero => rfl
  | succ fuel => rw [items, items, value_skip]

/-- Members are read in the same way without the blanks before them. -/
theorem members_skip (fuel : Nat) (cs : List Char) :
    members fuel (skip cs) = members fuel cs := by
  cases fuel with
  | zero => rfl
  | succ fuel => rw [members, members, skip_skip]

/-- What starts like a number is read as a number. -/
theorem value_numeral {c : Char} (h : (∃ d : Digit, c = d.char) ∨ c = '-') (fuel : Nat)
    (cs : List Char) :
    value (fuel + 1) (c :: cs) = (numeral (c :: cs)).map fun (n, rest) => (.number n, rest) := by
  have unfolded : value (fuel + 1) (c :: cs) = (do
      let (n, rest) ← numeral (c :: cs)
      return (.number n, rest)) := by
    rcases h with ⟨⟨d, small⟩, rfl⟩ | rfl
    · rcases d with _ | _ | _ | _ | _ | _ | _ | _ | _ | _ | d <;> first | rfl | omega
    · rfl
  rw [unfolded]
  cases numeral (c :: cs) <;> rfl

/-- What starts with a quote is read as a literal. -/
theorem value_literal (fuel : Nat) (cs : List Char) :
    value (fuel + 1) ('"' :: cs) = (literal cs).map fun (s, rest) => (.string s, rest) := by
  have unfolded : value (fuel + 1) ('"' :: cs) = (do
      let (s, rest) ← literal cs
      return (.string s, rest)) := rfl
  rw [unfolded]
  cases literal cs <;> rfl

/-- An array that ends at once has no items. -/
theorem value_noItems {cs rest : List Char} (first : skip cs = ']' :: rest) (fuel : Nat) :
    value (fuel + 1) ('[' :: cs) = some (.array [], rest) := by
  rw [value, skip_cons (by decide)]
  simp only [first]

/-- What opens like an array, and does not end at once, is read as items. -/
theorem value_array {cs others : List Char} {c : Char} (first : skip cs = c :: others)
    (open_ : c ≠ ']') (fuel : Nat) :
    value (fuel + 1) ('[' :: cs) =
      (items fuel cs).map fun (vs, rest) => (.array vs, rest) := by
  have unfolded : value (fuel + 1) ('[' :: cs) = (do
      let (vs, rest) ← items fuel (skip cs)
      return (.array vs, rest)) := by
    rw [value, skip_cons (by decide)]
    simp only [first]
    split
    · rename_i same
      exact absurd (List.cons.inj same).1 open_
    · rfl
  rw [unfolded, items_skip]
  cases items fuel cs <;> rfl

/-- An object that ends at once has no members. -/
theorem value_noMembers {cs rest : List Char} (first : skip cs = '\x7d' :: rest) (fuel : Nat) :
    value (fuel + 1) ('\x7b' :: cs) = some (.object [], rest) := by
  rw [value, skip_cons (by decide)]
  simp only [first]

/-- What opens like an object, and does not end at once, is read as members. -/
theorem value_object {cs others : List Char} (first : skip cs = '"' :: others) (fuel : Nat) :
    value (fuel + 1) ('\x7b' :: cs) =
      (members fuel cs).map fun (ms, rest) => (.object ms, rest) := by
  have unfolded : value (fuel + 1) ('\x7b' :: cs) = (do
      let (ms, rest) ← members fuel (skip cs)
      return (.object ms, rest)) := by
    rw [value, skip_cons (by decide)]
    simp only [first]
    rfl
  rw [unfolded, members_skip]
  cases members fuel cs <;> rfl

/-- A bracket after an item ends the items. -/
theorem items_last {fuel : Nat} {cs closing rest : List Char} {v : Json}
    (item : value fuel cs = some (v, closing)) (next : skip closing = ']' :: rest) :
    items (fuel + 1) cs = some ([v], rest) := by
  rw [items, item]
  simp [next]

/-- A comma after an item leads to more of them. -/
theorem items_cons {fuel : Nat} {cs closing others rest : List Char} {v : Json}
    {vs : List Json} (item : value fuel cs = some (v, closing))
    (next : skip closing = ',' :: others) (row : items fuel others = some (vs, rest)) :
    items (fuel + 1) cs = some (v :: vs, rest) := by
  rw [items, item]
  simp [next, row]

/-- A brace after a member ends the members. -/
theorem members_last {fuel : Nat} {cs body colon cs' closing rest : List Char}
    {name : Literal} {v : Json} (quote : skip cs = '"' :: body)
    (named : literal body = some (name, colon)) (gap : skip colon = ':' :: cs')
    (item : value fuel cs' = some (v, closing)) (next : skip closing = '\x7d' :: rest) :
    members (fuel + 1) cs = some ([(name, v)], rest) := by
  rw [members]
  simp [quote, named, gap, item, next]

/-- A comma after a member leads to more of them. -/
theorem members_cons {fuel : Nat} {cs body colon cs' closing others rest : List Char}
    {name : Literal} {v : Json} {ms : List (Literal × Json)} (quote : skip cs = '"' :: body)
    (named : literal body = some (name, colon)) (gap : skip colon = ':' :: cs')
    (item : value fuel cs' = some (v, closing)) (next : skip closing = ',' :: others)
    (row : members fuel others = some (ms, rest)) :
    members (fuel + 1) cs = some ((name, v) :: ms, rest) := by
  rw [members]
  simp [quote, named, gap, item, next, row]

/-! ## Reading what is spelled -/

/-- A mark that is neither blank nor part of a number, after blanks, ends a number. -/
theorem endsNumber_mark {after : List Char} (spaces : Spaces after) {c : Char}
    (mark : c = ',' ∨ c = ']' ∨ c = '\x7d') (cs : List Char) : EndsNumber (after ++ c :: cs) := by
  apply endsNumber_spaces spaces
  rcases mark with rfl | rfl | rfl <;>
    exact endsNumber_cons (by decide) (by decide) (by decide) _

/-- A mark after blanks is what is left when they are skipped. -/
theorem skip_mark {after : List Char} (spaces : Spaces after) {c : Char}
    (visible : isSpace c = false) (cs : List Char) : skip (after ++ c :: cs) = c :: cs := by
  rw [skip_spaces spaces, skip_cons visible]

/-- A row of members starts, after blanks, with a quote. -/
theorem SpellsMembers.skip_eq_cons {ms : List (Literal × Json)} {cs : List Char}
    (h : SpellsMembers ms cs) (rest : List Char) :
    ∃ others, skip (cs ++ rest) = '"' :: others := by
  cases h with
  | last opening =>
    rw [List.append_assoc, skip_spaces opening, literalText_eq]
    exact ⟨_, skip_cons (by decide) _⟩
  | cons opening =>
    rw [List.append_assoc, skip_spaces opening, literalText_eq]
    exact ⟨_, skip_cons (by decide) _⟩

-- The induction follows the grammar.  Each level of nesting costs a step of fuel, and so
-- does each part of a row, whose text is longer than the part by one character at least:
-- hence the length of the text bounds the fuel that is used.
mutual

/-- The reader reads a text as the value that it spells. -/
theorem value_of_spells {v : Json} {cs rest : List Char} {fuel : Nat} (h : Spells v cs)
    (ends : EndsNumber rest) (enough : cs.length < fuel) :
    value fuel (cs ++ rest) = some (v, rest) := by
  obtain ⟨fuel, rfl⟩ : ∃ n, fuel = n + 1 := ⟨fuel - 1, by omega⟩
  cases h with
  | null => rfl
  | isTrue => rfl
  | isFalse => rfl
  | number regular =>
    obtain ⟨c, others, text, head⟩ := text_eq_cons regular
    have read := numeral_text regular ends
    rw [text, List.cons_append] at read ⊢
    rw [value_numeral head, read, Option.map_some]
  | string s =>
    rw [literalText_eq, List.cons_append, value_literal, literal_bodyText, Option.map_some]
  | noItems spaces =>
    rw [List.cons_append, List.append_assoc]
    exact value_noItems (skip_mark spaces (by decide) rest) fuel
  | items row =>
    simp only [List.cons_append, List.append_assoc, List.nil_append, List.length_cons,
      List.length_append, List.length_nil] at enough ⊢
    obtain ⟨c, others, first, starts⟩ := row.skip_eq_cons (']' :: rest)
    rw [value_array first starts.notEnd, items_of_spells row (by omega), Option.map_some]
  | noMembers spaces =>
    rw [List.cons_append, List.append_assoc]
    exact value_noMembers (skip_mark spaces (by decide) rest) fuel
  | members row =>
    simp only [List.cons_append, List.append_assoc, List.nil_append, List.length_cons,
      List.length_append, List.length_nil] at enough ⊢
    obtain ⟨others, first⟩ := row.skip_eq_cons ('\x7d' :: rest)
    rw [value_object first, members_of_spells row (by omega), Option.map_some]

/-- The reader reads a row as the items that it spells. -/
theorem items_of_spells {vs : List Json} {cs rest : List Char} {fuel : Nat}
    (h : SpellsItems vs cs) (enough : cs.length + 1 < fuel) :
    items fuel (cs ++ ']' :: rest) = some (vs, rest) := by
  obtain ⟨fuel, rfl⟩ : ∃ n, fuel = n + 1 := ⟨fuel - 1, by omega⟩
  cases h with
  | @last v before cs after opening item closing =>
    simp only [List.append_assoc, List.length_append] at enough ⊢
    have read : value fuel (cs ++ (after ++ ']' :: rest)) = some (v, after ++ ']' :: rest) :=
      value_of_spells item (endsNumber_mark closing (by simp) rest) (by omega)
    rw [← value_spaces opening] at read
    exact items_last read (skip_mark closing (by decide) rest)
  | @cons v vs before cs after others opening item closing row =>
    simp only [List.append_assoc, List.length_append, List.cons_append,
      List.length_cons] at enough ⊢
    have read : value fuel (cs ++ (after ++ ',' :: (others ++ ']' :: rest))) =
        some (v, after ++ ',' :: (others ++ ']' :: rest)) :=
      value_of_spells item (endsNumber_mark closing (by simp) _) (by omega)
    rw [← value_spaces opening] at read
    exact items_cons read (skip_mark closing (by decide) _) (items_of_spells row (by omega))

/-- The reader reads a row as the members that it spells. -/
theorem members_of_spells {ms : List (Literal × Json)} {cs rest : List Char} {fuel : Nat}
    (h : SpellsMembers ms cs) (enough : cs.length + 1 < fuel) :
    members fuel (cs ++ '\x7d' :: rest) = some (ms, rest) := by
  obtain ⟨fuel, rfl⟩ : ∃ n, fuel = n + 1 := ⟨fuel - 1, by omega⟩
  cases h with
  | @last name v before named gap cs after opening colon inner item closing =>
    simp only [List.append_assoc, List.length_append, List.cons_append,
      List.length_cons, literalText_eq] at enough ⊢
    have read : value fuel (cs ++ (after ++ '\x7d' :: rest)) =
        some (v, after ++ '\x7d' :: rest) :=
      value_of_spells item (endsNumber_mark closing (by simp) rest) (by omega)
    rw [← value_spaces inner] at read
    exact members_last (skip_mark opening (by decide) _) (literal_bodyText _ _)
      (skip_mark colon (by decide) _) read (skip_mark closing (by decide) rest)
  | @cons name v ms before named gap cs after others opening colon inner item closing row =>
    simp only [List.append_assoc, List.length_append, List.cons_append,
      List.length_cons, literalText_eq] at enough ⊢
    have read : value fuel (cs ++ (after ++ ',' :: (others ++ '\x7d' :: rest))) =
        some (v, after ++ ',' :: (others ++ '\x7d' :: rest)) :=
      value_of_spells item (endsNumber_mark closing (by simp) _) (by omega)
    rw [← value_spaces inner] at read
    exact members_cons (skip_mark opening (by decide) _) (literal_bodyText _ _)
      (skip_mark colon (by decide) _) read (skip_mark closing (by decide) _)
      (members_of_spells row (by omega))

end

/-- A whole text that spells a value is read as that value, with blanks around it. -/
theorem parseChars?_of_spells {v : Json} {cs before after : List Char}
    (opening : Spaces before) (h : Spells v cs) (closing : Spaces after) :
    parseChars? (before ++ (cs ++ after)) = some v := by
  have ends : EndsNumber (after ++ []) :=
    endsNumber_spaces closing ⟨nofun, nofun, nofun, nofun⟩
  rw [List.append_nil] at ends
  have read : value ((before ++ (cs ++ after)).length + 1) (cs ++ after) = some (v, after) :=
    value_of_spells h ends (by simp only [List.length_append]; omega)
  have left : skip after = [] := List.dropWhile_eq_nil_iff.mpr closing
  rw [parseChars?, value_spaces opening, read]
  simp [left]

end HostPreflight.Json
