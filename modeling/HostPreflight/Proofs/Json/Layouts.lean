import HostPreflight.Json.Printer
import HostPreflight.Proofs.Json.Spelling

/-!
# The two layouts

Both layouts write texts of the grammar, so what they write is read back.  The layouts
differ in the blanks that they put between the parts of a value, and the grammar leaves
these free.

## Main definitions

* `Json.Regular` — the values whose numbers keep to the strict grammar.

## Main statements

* `parse?_compact`, `parse?_pretty` — a regular value is read back from either layout.
-/

namespace HostPreflight.Json

open Decimal

/-- A value all of whose numbers keep to the strict grammar. -/
inductive Regular : Json → Prop
  | null : Regular .null
  | bool (b : Bool) : Regular (.bool b)
  | number {n : Numeral} (regular : n.Regular) : Regular (.number n)
  | string (s : Literal) : Regular (.string s)
  | array {vs : List Json} (items : ∀ v ∈ vs, Regular v) : Regular (.array vs)
  | object {ms : List (Literal × Json)} (members : ∀ m ∈ ms, Regular m.2) :
    Regular (.object ms)

/-! ## Rows

A layout writes a row part by part: the same blanks before each, and a comma between two.
This is all that a row has to do to be in the grammar. -/

section Rows

variable {before after : List Char}

/-- A row that is written item by item spells its items if each item's text does. -/
theorem spellsItems_of (row : List Json → List Char) (part : Json → List Char)
    (one : ∀ v, row [v] = before ++ part v)
    (more : ∀ v w ws, row (v :: w :: ws) = before ++ part v ++ ',' :: row (w :: ws))
    (opening : Spaces before) (closing : Spaces after) {vs : List Json} (nonempty : vs ≠ [])
    (h : ∀ v ∈ vs, Spells v (part v)) : SpellsItems vs (row vs ++ after) := by
  induction vs with
  | nil => exact absurd rfl nonempty
  | cons v vs ih =>
    have item := h v List.mem_cons_self
    cases vs with
    | nil =>
      rw [one, List.append_assoc]
      exact .last opening item closing
    | cons w ws =>
      have others := ih (List.cons_ne_nil w ws) fun v mem => h v (List.mem_cons_of_mem _ mem)
      rw [more]
      simpa using SpellsItems.cons opening item spaces_nil others

/-- A row that is written member by member spells its members if each value's text does. -/
theorem spellsMembers_of (row : List (Literal × Json) → List Char) (part : Json → List Char)
    {gap : List Char}
    (one : ∀ m, row [m] = before ++ literalText m.1 ++ ':' :: (gap ++ part m.2))
    (more : ∀ m w ws, row (m :: w :: ws) =
      before ++ literalText m.1 ++ ':' :: (gap ++ part m.2) ++ ',' :: row (w :: ws))
    (opening : Spaces before) (inner : Spaces gap) (closing : Spaces after)
    {ms : List (Literal × Json)} (nonempty : ms ≠ []) (h : ∀ m ∈ ms, Spells m.2 (part m.2)) :
    SpellsMembers ms (row ms ++ after) := by
  induction ms with
  | nil => exact absurd rfl nonempty
  | cons m ms ih =>
    have item := h m List.mem_cons_self
    cases ms with
    | nil =>
      have last : SpellsMembers [m]
          (before ++ (literalText m.1 ++ ([] ++ ':' :: (gap ++ (part m.2 ++ after))))) :=
        .last opening spaces_nil inner item closing
      rw [one]
      simpa using last
    | cons w ws =>
      have others := ih (List.cons_ne_nil w ws) fun m mem => h m (List.mem_cons_of_mem _ mem)
      have all : SpellsMembers (m :: w :: ws)
          (before ++ (literalText m.1 ++
            ([] ++ ':' :: (gap ++ (part m.2 ++ ([] ++ ',' :: (row (w :: ws) ++ after))))))) :=
        .cons opening spaces_nil inner item spaces_nil others
      rw [more]
      simpa using all

end Rows

/-- A new line is a row of blanks. -/
theorem spaces_newline (level : Nat) : Spaces (newline level) := by
  intro c h
  rcases List.mem_cons.mp h with rfl | h
  · decide
  · rw [List.eq_of_mem_replicate h]
    decide

/-- The blank after a colon. -/
theorem spaces_blank : Spaces [' '] := by
  simp [Spaces, isSpace]

/-! ## Values -/

/-- The layout without blanks spells the value. -/
theorem spells_compactText {v : Json} (h : v.Regular) : Spells v (compactText v) := by
  induction h with
  | null => exact .null
  | bool b =>
    cases b with
    | true => exact .isTrue
    | false => exact .isFalse
  | number regular => exact .number regular
  | string s => exact .string s
  | @array vs _ ih =>
    cases vs with
    | nil => exact .noItems spaces_nil
    | cons v vs =>
      have row := spellsItems_of compactItems compactText (fun _ => rfl)
        (fun _ _ _ => rfl) spaces_nil spaces_nil (List.cons_ne_nil v vs) ih
      simpa [compactText] using Spells.items row
  | @object ms _ ih =>
    cases ms with
    | nil => exact .noMembers spaces_nil
    | cons m ms =>
      have row := spellsMembers_of compactMembers compactText (fun _ => rfl)
        (fun _ _ _ => rfl) spaces_nil spaces_nil spaces_nil (List.cons_ne_nil m ms) ih
      simpa [compactText] using Spells.members row

/-- The layout in lines spells the value, at every level of indentation. -/
theorem spells_prettyText {v : Json} (h : v.Regular) (level : Nat) :
    Spells v (prettyText level v) := by
  induction h generalizing level with
  | null => exact .null
  | bool b =>
    cases b with
    | true => exact .isTrue
    | false => exact .isFalse
  | number regular => exact .number regular
  | string s => exact .string s
  | @array vs _ ih =>
    cases vs with
    | nil => exact .noItems spaces_nil
    | cons v vs =>
      have row := spellsItems_of (prettyItems (level + 1)) (prettyText (level + 1))
        (fun _ => rfl) (fun _ _ _ => rfl) (spaces_newline (level + 1)) (spaces_newline level)
        (List.cons_ne_nil v vs) fun v mem => ih v mem (level + 1)
      simpa [prettyText] using Spells.items row
  | @object ms _ ih =>
    cases ms with
    | nil => exact .noMembers spaces_nil
    | cons m ms =>
      have row := spellsMembers_of (prettyMembers (level + 1)) (prettyText (level + 1))
        (fun _ => rfl) (fun _ _ _ => rfl) (spaces_newline (level + 1)) spaces_blank
        (spaces_newline level) (List.cons_ne_nil m ms) fun m mem => ih m mem (level + 1)
      simpa [prettyText] using Spells.members row

/-- A value is read from every text that spells it. -/
theorem parse?_of_spells {v : Json} {cs : List Char} (h : Spells v cs) :
    parse? (String.ofList cs) = some v := by
  rw [parse?, String.toList_ofList]
  simpa using parseChars?_of_spells spaces_nil h spaces_nil

/-- **A regular value is read back from the layout without blanks.** -/
theorem parse?_compact {v : Json} (h : v.Regular) : parse? v.compact = some v :=
  parse?_of_spells (spells_compactText h)

/-- **A regular value is read back from the layout in lines.** -/
theorem parse?_pretty {v : Json} (h : v.Regular) : parse? v.pretty = some v :=
  parse?_of_spells (spells_prettyText h 0)

end HostPreflight.Json
