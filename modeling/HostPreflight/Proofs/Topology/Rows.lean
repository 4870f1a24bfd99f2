import HostPreflight.Proofs.Decimal.Count
import HostPreflight.Proofs.Text.Lines
import HostPreflight.Proofs.Text.Trim
import HostPreflight.Topology

/-!
# The rows of a processor listing

Which lines of a listing are rows, said by their shape: the first two fields between commas
hold an id each, and nothing else of the line matters.  Reading a listing accepts exactly
these lines, in order, and counts all others.

## Main definitions

* `HoldsId field a` — the field holds the id `a`.
* `IsRow line a b` — the line is a row with the ids `a` and `b`.
* `Lists ls pairs skipped` — the lines `ls` list the pairs of ids, besides other lines.

## Main statements

* `ofLine?_eq_some_iff` — a line is read as a pair exactly if it is a row with these ids.
* `lists_iff` — lines list exactly what is read from them.
* `ofListing_lists` — the pairs, the skipped lines and the verdict of a listing.
-/

namespace HostPreflight

open Decimal Text

/-- A field holds an id: a number below `2 ^ 32`, perhaps with blanks around it. -/
inductive HoldsId : List Char → Nat → Prop where
  | intro {word field : List Char} {id : Nat} (padded : Padded word field)
      (writes : Writes word id) (small : id < UInt32.size) : HoldsId field id

/-- A line is a row: its first two fields between commas hold ids.  A line without a comma
has one field only. -/
inductive IsRow : List Char → Nat → Nat → Prop where
  | intro {line first second : List Char} {others : List (List Char)} {a b : Nat}
      (separated : Separated (· == ',') line (first :: second :: others))
      (physical : HoldsId first a) (logical : HoldsId second b) : IsRow line a b

/-- Lines list the ids of the rows among them, in order; the lines that are no rows are
counted. -/
inductive Lists : List (List Char) → List (Nat × Nat) → Nat → Prop where
  | nil : Lists [] [] 0
  | row {line : List Char} {ls : List (List Char)} {a b : Nat} {pairs : List (Nat × Nat)}
      {skipped : Nat} (row : IsRow line a b) (below : Lists ls pairs skipped) :
      Lists (line :: ls) ((a, b) :: pairs) skipped
  | other {line : List Char} {ls : List (List Char)} {pairs : List (Nat × Nat)} {skipped : Nat}
      (noRow : ∀ a b, ¬ IsRow line a b) (below : Lists ls pairs skipped) :
      Lists (line :: ls) pairs (skipped + 1)

namespace CorePair

/-- The two ids as numbers. -/
def ids (pair : CorePair) : Nat × Nat := (pair.physical.toNat, pair.logical.toNat)

variable {field line : List Char} {a b : Nat}

/-- A field is read as the id that it holds. -/
theorem id?_eq_some_iff {id : UInt32} : id? field = some id ↔ HoldsId field id.toNat := by
  simp only [id?, Option.map_eq_some_iff, unsigned?_eq_some_iff]
  constructor
  · rintro ⟨n, ⟨writes, small⟩, rfl⟩
    rw [UInt32.toNat_ofNat_of_lt' small]
    exact .intro (padded_trim field) writes small
  · intro holds
    obtain ⟨padded, writes, small⟩ := holds
    rw [writes.isWord.trim_of_padded padded]
    exact ⟨id.toNat, ⟨writes, small⟩, UInt32.ofNat_toNat⟩

/-- An id that a field holds fits into a word. -/
theorem exists_id_of_holdsId (h : HoldsId field a) : ∃ id : UInt32, id.toNat = a := by
  obtain ⟨padded, writes, small⟩ := h
  exact ⟨UInt32.ofNat a, UInt32.toNat_ofNat_of_lt' small⟩

/-- A line is read as a pair exactly if its first two fields are read as its ids. -/
theorem ofLine?_eq_some_iff_fields {pair : CorePair} :
    ofLine? line = some pair ↔
      ∃ first second others, fields (· == ',') line = first :: second :: others ∧
        id? first = some pair.physical ∧ id? second = some pair.logical := by
  obtain ⟨physical, logical⟩ := pair
  unfold ofLine?
  split
  · next first second others split =>
    constructor
    · intro h
      obtain ⟨a, readFirst, h⟩ := Option.bind_eq_some_iff.1 h
      obtain ⟨b, readSecond, h⟩ := Option.bind_eq_some_iff.1 h
      obtain ⟨rfl, rfl⟩ := CorePair.mk.inj (Option.some.inj h)
      exact ⟨first, second, others, split, readFirst, readSecond⟩
    · rintro ⟨first', second', others', split', readFirst, readSecond⟩
      obtain ⟨rfl, h⟩ := List.cons_eq_cons.1 (split.symm.trans split')
      obtain ⟨rfl, rfl⟩ := List.cons_eq_cons.1 h
      simp [readFirst, readSecond]
  · next few =>
    refine iff_of_false nofun ?_
    rintro ⟨first, second, others, split, -⟩
    exact few first second others split

/-- **A line is read as a pair exactly if it is a row with these ids.** -/
theorem ofLine?_eq_some_iff {pair : CorePair} :
    ofLine? line = some pair ↔ IsRow line pair.physical.toNat pair.logical.toNat := by
  rw [ofLine?_eq_some_iff_fields]
  constructor
  · rintro ⟨first, second, others, split, readFirst, readSecond⟩
    exact .intro (separated_iff.2 split) (id?_eq_some_iff.1 readFirst)
      (id?_eq_some_iff.1 readSecond)
  · intro row
    cases row with
    | intro separated physical logical =>
      exact ⟨_, _, _, separated_iff.1 separated, id?_eq_some_iff.2 physical,
        id?_eq_some_iff.2 logical⟩

/-- A line with two ids is a row exactly if it is read as some pair with these ids. -/
theorem isRow_iff : IsRow line a b ↔ ∃ pair, ofLine? line = some pair ∧ pair.ids = (a, b) := by
  constructor
  · intro row
    cases row with
    | intro separated physical logical =>
      obtain ⟨id, rfl⟩ := exists_id_of_holdsId physical
      obtain ⟨id', rfl⟩ := exists_id_of_holdsId logical
      exact ⟨⟨id, id'⟩, ofLine?_eq_some_iff.2 (.intro separated physical logical), rfl⟩
  · rintro ⟨pair, read, same⟩
    obtain ⟨rfl, rfl⟩ := Prod.mk.inj same
    exact ofLine?_eq_some_iff.1 read

/-- A line is not read exactly if it is no row. -/
theorem ofLine?_eq_none_iff : ofLine? line = none ↔ ∀ a b, ¬ IsRow line a b := by
  simp only [isRow_iff, not_exists, not_and]
  constructor
  · intro unread a b pair read
    exact nomatch unread.symm.trans read
  · intro noRow
    refine Option.eq_none_iff_forall_ne_some.2 fun pair read => ?_
    exact noRow _ _ pair read rfl

/-- A blank behind a line that is not a comma makes no difference to how the line is read. -/
theorem ofLine?_append_blank {c : Char} (blank : isBlank c) (apart : c ≠ ',') (line : List Char) :
    ofLine? (line ++ [c]) = ofLine? line := by
  have inside : (c == ',') = false := by simpa using apart
  have trimmed (field : List Char) : id? (field ++ [c]) = id? field := by
    rw [id?, id?, trim_append_blank blank]
  obtain ⟨front, last, split, longer⟩ :=
    exists_fields_append_singleton (p := (· == ',')) inside line
  unfold ofLine?
  rw [split, longer]
  match front with
  | [] => rfl
  | [first] => simp [trimmed]
  | first :: second :: others => rfl

/-- A line is read alike with and without the carriage return that ends it. -/
theorem ofLine?_dropReturn (line : List Char) : ofLine? (dropReturn line) = ofLine? line := by
  by_cases ended : line.getLast? = some '\r'
  · obtain ⟨front, rfl⟩ := List.getLast?_eq_some_iff.1 ended
    rw [dropReturn_append, ofLine?_append_blank (by decide) (by decide)]
  · rw [dropReturn_of_ne ended]

/-- The ids of a pair differ as words exactly if they differ as numbers. -/
theorem isSibling_iff (pair : CorePair) :
    pair.isSibling ↔ pair.physical.toNat ≠ pair.logical.toNat := by
  simp [isSibling, UInt32.toNat_inj]

end CorePair

/-- **Lines list exactly what is read from them.** -/
theorem lists_iff {ls : List (List Char)} {pairs : List (Nat × Nat)} {skipped : Nat} :
    Lists ls pairs skipped ↔
      pairs = (ls.filterMap CorePair.ofLine?).map CorePair.ids ∧
        skipped = (ls.filter fun line => (CorePair.ofLine? line).isNone).length := by
  constructor
  · intro h
    induction h with
    | nil => exact ⟨rfl, rfl⟩
    | row row _ ih =>
      obtain ⟨pair, read, same⟩ := CorePair.isRow_iff.1 row
      simp [read, same, ih]
    | other noRow _ ih =>
      have unread := CorePair.ofLine?_eq_none_iff.2 noRow
      simp [unread, ih]
  · rintro ⟨rfl, rfl⟩
    induction ls with
    | nil => exact .nil
    | cons line ls ih =>
      cases read : CorePair.ofLine? line with
      | none =>
        rw [List.filterMap_cons_none read, List.filter_cons_of_pos (by simp [read])]
        exact .other (CorePair.ofLine?_eq_none_iff.1 read) ih
      | some pair =>
        rw [List.filterMap_cons_some read, List.filter_cons_of_neg (by simp [read])]
        exact .row (CorePair.ofLine?_eq_some_iff.1 read) ih

/-- Every line is listed or counted. -/
theorem Lists.length_add {ls : List (List Char)} {pairs : List (Nat × Nat)} {skipped : Nat}
    (h : Lists ls pairs skipped) : pairs.length + skipped = ls.length := by
  induction h with
  | nil => rfl
  | row _ _ ih =>
    simp only [List.length_cons]
    omega
  | other _ _ ih =>
    simp only [List.length_cons]
    omega

namespace CpuTopology

/-- A listing is known once it is known how its lines are read. -/
theorem ofListing_of_lines {α : Type} {cs : List Char} {ls : List α}
    {read : α → Option CorePair} (listed : (lines cs).map CorePair.ofLine? = ls.map read) :
    ofListing (String.ofList cs) =
      ⟨ls.filterMap read, (ls.filter fun line => (read line).isNone).length⟩ := by
  have pairs : (lines cs).filterMap CorePair.ofLine? = ls.filterMap read := by
    have same := congrArg (List.filterMap id) listed
    rwa [List.filterMap_map, List.filterMap_map] at same
  have skipped : ((lines cs).filter fun line => (CorePair.ofLine? line).isNone).length =
      (ls.filter fun line => (read line).isNone).length := by
    have same := congrArg (List.countP Option.isNone) listed
    rwa [List.countP_map, List.countP_map, List.countP_eq_length_filter,
      List.countP_eq_length_filter] at same
  rw [ofListing, skippedLines, String.toList_ofList, pairs, skipped]

/-- Multithreading is on exactly if some line is a row with differing ids. -/
theorem hyperthreading_ofListing_iff (listing : String) :
    (ofListing listing).hyperthreading ↔
      ∃ line ∈ lines listing.toList, ∃ a b, IsRow line a b ∧ a ≠ b := by
  simp only [hyperthreading, ofListing, List.any_eq_true, List.mem_filterMap]
  constructor
  · rintro ⟨pair, ⟨line, mem, read⟩, differ⟩
    exact ⟨line, mem, _, _, CorePair.ofLine?_eq_some_iff.1 read, pair.isSibling_iff.1 differ⟩
  · rintro ⟨line, mem, a, b, row, differ⟩
    obtain ⟨pair, read, same⟩ := CorePair.isRow_iff.1 row
    obtain ⟨rfl, rfl⟩ := Prod.mk.inj same
    exact ⟨pair, ⟨line, mem, read⟩, pair.isSibling_iff.2 differ⟩

/-- **Reading a listing accepts exactly its rows.**  A listing has lines, and has them in one
way only.  They list in one way only, and what they list are the pairs that are read, in
order, besides as many other lines as are skipped, so that every line is one or the other.
Multithreading is taken to be on exactly if some line is a row with differing ids. -/
theorem ofListing_lists (listing : String) :
    ∃ ls, (∀ other, HasLines listing.toList other ↔ other = ls) ∧
      (∀ pairs skipped, Lists ls pairs skipped ↔
        pairs = (ofListing listing).pairs.map CorePair.ids ∧
          skipped = (ofListing listing).skipped) ∧
      (ofListing listing).pairs.length + (ofListing listing).skipped = ls.length ∧
      ((ofListing listing).hyperthreading ↔
        ∃ line ∈ ls, ∃ a b, IsRow line a b ∧ a ≠ b) := by
  have listed : Lists (lines listing.toList) ((ofListing listing).pairs.map CorePair.ids)
      (ofListing listing).skipped := lists_iff.2 ⟨rfl, rfl⟩
  refine ⟨lines listing.toList, ?_, ?_, ?_, hyperthreading_ofListing_iff listing⟩
  · intro other
    rw [hasLines_iff, eq_comm]
  · intro pairs skipped
    exact lists_iff
  · have total := listed.length_add
    rwa [List.length_map] at total

/-- Signs, leading zeros and blanks make no difference to a row; a number of 33 bits, a second
sign, a missing field and an empty one do. -/
example :
    ofListing "+07,\u2003 007 \r\n4294967296,0\n++1,1\n5\n,\n4294967295,0,x\r" =
      ⟨[⟨7, 7⟩, ⟨4294967295, 0⟩], 4⟩ := by
  decide +kernel

end CpuTopology

end HostPreflight
