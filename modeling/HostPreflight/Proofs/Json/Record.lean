import HostPreflight.Json.Record
import HostPreflight.Proofs.Json.Layouts
import Mathlib.Data.List.Nodup

/-!
# Decoding what was encoded

One statement for each way in which a typed value is put together from others: if the
parts are decoded from their JSON values, so is the whole.  A type then has its own
statement by naming its parts.

## Main statements

* `fields?_of_subset`, `fields?_record` — fields of a record with distinct names are found.
* `list?_map` — a list is decoded item by item.
* `optional_ofOption` — an optional field is decoded, null when it is absent.
* `regular_record` — a record of regular values is regular.
-/

namespace HostPreflight.Json

/-! ## Decoding -/

/-- What is encoded item by item is decoded item by item. -/
theorem mapM_map_of {α β : Type} {encode : α → β} {decode : β → Option α}
    (h : ∀ a, decode (encode a) = some a) (as : List α) :
    (as.map encode).mapM decode = some as := by
  have step : decode ∘ encode = fun a => some a := funext h
  rw [List.mapM_map, step]
  simpa using List.mapM_pure (m := Option) (l := as) (f := id)

variable {α : Type} {encode : α → Json} {decode : Json → Option α}

/-- A list is decoded item by item. -/
theorem list?_map (h : ∀ a, decode (encode a) = some a) (as : List α) :
    list? decode (.array (as.map encode)) = some as :=
  mapM_map_of h as

/-- An optional field is decoded, null when it is absent, provided that null encodes
nothing else. -/
theorem optional_ofOption (null : decode .null = none) {x : Option α}
    (h : ∀ a ∈ x, decode (encode a) = some a) :
    optional decode (some (ofOption encode x)) = some x := by
  cases x with
  | none => rfl
  | some a =>
    have item := h a rfl
    rw [ofOption]
    cases value : encode a <;> rw [value] at item
    case null => exact absurd (null.symm.trans item) (by simp)
    all_goals exact congrArg (Option.map some) item

/-- A field that has to be there is decoded by itself. -/
@[simp] theorem required_some (v : Json) : required decode (some v) = decode v := rfl

/-- A text is decoded. -/
@[simp] theorem text?_text (s : String) : text? (.text s) = some s := rfl

/-- A 64-bit count is decoded. -/
@[simp] theorem word64?_count (n : UInt64) : word64? (.count n.toNat) = some n := by
  have bound : n.toNat < UInt64.size := n.toNat_lt_size
  simp only [word64?, count, count?, Decimal.Numeral.toNat?_ofNat, Option.bind_eq_bind,
    Option.bind_some]
  rw [if_pos bound, Option.map_some, UInt64.ofNat_toNat]

/-- The first member of a name is found. -/
theorem lookup_of_mem {members : List (String × Json)}
    (distinct : (members.map Prod.fst).Nodup) {m : String × Json} (h : m ∈ members) :
    members.lookup m.1 = some m.2 := by
  induction members with
  | nil => exact nomatch h
  | cons first others ih =>
    have fresh := (List.nodup_cons.mp distinct).1
    rcases List.mem_cons.mp h with rfl | later
    · exact List.lookup_cons_self
    · have other : m.1 ≠ first.1 := fun same => fresh (same ▸ List.mem_map_of_mem later)
      rw [List.lookup_cons, beq_false_of_ne other]
      exact ih (List.nodup_cons.mp distinct).2 later

/-- Some of the fields of a record with distinct names are found, each with its own value. -/
theorem fields?_of_subset {members chosen : List (String × Json)}
    (distinct : (members.map Prod.fst).Nodup) (h : chosen ⊆ members) :
    fields? (chosen.map Prod.fst) (record members) = some (chosen.map fun m => some m.2) := by
  have once (name : String) : members.countP (fun m => m.1 == name) ≤ 1 := by
    have count := List.nodup_iff_count_le_one.mp distinct name
    rwa [List.count, List.countP_map] at count
  have none_twice : ((chosen.map Prod.fst).any fun name =>
      decide (1 < members.countP fun m => m.1 == name)) = false := by
    simpa using fun name value _ => once name
  have found : ((chosen.map Prod.fst).map fun name => members.lookup name) =
      chosen.map fun m => some m.2 := by
    rw [List.map_map]
    exact List.map_congr_left fun m mem => lookup_of_mem distinct (h mem)
  simp only [fields?, record]
  rw [mapM_map_of]
  · simp only [Option.bind_eq_bind, Option.bind_some, none_twice, found]
    rfl
  · exact fun _ => rfl

/-- The fields of a record with distinct names are found, each with its own value. -/
theorem fields?_record {names : List String} {members : List (String × Json)}
    (distinct : names.Nodup) (named : members.map Prod.fst = names) :
    fields? names (record members) = some (members.map fun m => some m.2) := by
  subst named
  exact fields?_of_subset distinct (List.Subset.refl members)

/-! ## Regular values -/

/-- A text is regular. -/
theorem regular_text (s : String) : (text s).Regular := .string (some s)

/-- A count is regular. -/
theorem regular_count (n : Nat) : (count n).Regular := .number (Decimal.regular_ofNat n)

/-- An optional field is regular if what it encodes is. -/
theorem regular_ofOption (h : ∀ a, (encode a).Regular) (x : Option α) :
    (ofOption encode x).Regular := by
  cases x with
  | none => exact .null
  | some a => exact h a

/-- A list is regular if its items are. -/
theorem regular_list (h : ∀ a, (encode a).Regular) (as : List α) :
    (Json.array (as.map encode)).Regular := by
  refine .array fun v mem => ?_
  obtain ⟨a, -, rfl⟩ := List.mem_map.mp mem
  exact h a

/-- A record is regular if its values are. -/
theorem regular_record {members : List (String × Json)} (h : ∀ m ∈ members, m.2.Regular) :
    (record members).Regular := by
  refine .object fun m mem => ?_
  obtain ⟨named, inside, rfl⟩ := List.mem_map.mp mem
  exact h named inside

end HostPreflight.Json
