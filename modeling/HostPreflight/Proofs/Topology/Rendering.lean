import HostPreflight.Proofs.Text.OneLine
import HostPreflight.Proofs.Topology.Rows

/-!
# Listings that are written and read back

A listing is read back from the rows that it is written as, in order and with every id, and
the lines that stand between the rows neither add a pair nor take one away.

## Main definitions

* `CorePair.row` — a pair as the listing program writes it.
* `mixed pairs noise` — the rows of some pairs, with other lines before them.
* `render pairs noise` — the listing of these lines.

## Main statements

* `CorePair.isRow_row` — what a pair is written as is a row with its ids.
* `filterMap_mixed`, `length_unread_mixed` — rows are read and other lines are counted.
* `ofListing_render` — a listing is read back, whatever other lines it holds.
-/

namespace HostPreflight

open Decimal Text

namespace CorePair

/-- The columns of a row after the two ids, as they are written for a host with one socket. -/
def columns : List Char := ",0,0,,0,0,0,0".toList

/-- A pair as the listing program writes it: the two ids, and further columns. -/
def row (pair : CorePair) : List Char :=
  (Decimal.text pair.physical.toNat).toList
    ++ ',' :: ((Decimal.text pair.logical.toNat).toList ++ columns)

variable (pair : CorePair)

/-- A written id holds no comma. -/
theorem comma_notMem_text (n : Nat) : ∀ c ∈ (Decimal.text n).toList, (c == ',') = false := by
  have apart : ∀ d : Digit, (d.char == ',') = false := by decide
  intro c mem
  rw [Decimal.text, String.toList_ofList] at mem
  obtain ⟨d, -, rfl⟩ := List.mem_map.1 mem
  exact apart d

/-- A written id is held by its field. -/
theorem holdsId_text (id : UInt32) : HoldsId (Decimal.text id.toNat).toList id.toNat := by
  have alone : Padded (Decimal.text id.toNat).toList ([] ++ (Decimal.text id.toNat).toList ++ []) :=
    .intro nofun nofun
  rw [List.nil_append, List.append_nil] at alone
  exact .intro alone (writes_text _) id.toNat_lt

/-- What a pair is written as is a row with its ids. -/
theorem isRow_row : IsRow pair.row pair.physical.toNat pair.logical.toNat := by
  have comma : (',' == ',') = true := rfl
  have others := separated_fields (· == ',') "0,0,,0,0,0,0".toList
  have rest := Separated.cons (comma_notMem_text pair.logical.toNat) comma others
  have whole := Separated.cons (comma_notMem_text pair.physical.toNat) comma rest
  exact .intro whole (holdsId_text _) (holdsId_text _)

/-- A pair is read back from its row. -/
@[simp] theorem ofLine?_row : ofLine? pair.row = some pair := ofLine?_eq_some_iff.2 pair.isRow_row

/-- A row stands on one line. -/
theorem newline_notMem_row : '\n' ∉ pair.row := by
  have physical : '\n' ∉ (Decimal.text pair.physical.toNat).toList := oneLine_decimal _
  have logical : '\n' ∉ (Decimal.text pair.logical.toNat).toList := oneLine_decimal _
  have further : '\n' ∉ columns := by decide
  simp [row, physical, logical, further]

end CorePair

namespace CpuTopology

/-- The rows of some pairs in order, with one line of noise before each of them as long as
there is any. -/
def mixed : List CorePair → List (List Char) → List (List Char)
  | [], _ => []
  | pair :: pairs, [] => pair.row :: mixed pairs []
  | pair :: pairs, line :: noise => line :: pair.row :: mixed pairs noise

/-- The listing of these lines. -/
def render (pairs : List CorePair) (noise : List (List Char)) : String :=
  String.ofList ((mixed pairs noise).flatMap fun line => line ++ ['\n'])

variable {pairs : List CorePair} {noise : List (List Char)}

/-- What holds of all rows and of all noise holds of all lines. -/
theorem forall_mem_mixed {p : List Char → Prop} (row : ∀ pair : CorePair, p pair.row)
    (other : ∀ line ∈ noise, p line) : ∀ line ∈ mixed pairs noise, p line := by
  induction pairs generalizing noise with
  | nil => exact nofun
  | cons pair pairs ih =>
    cases noise with
    | nil => simpa [mixed, row pair] using ih other
    | cons first noise =>
      have rest := ih fun line mem => other line (List.mem_cons_of_mem first mem)
      simpa [mixed, row pair, other first List.mem_cons_self] using rest

/-- The rows are read, each as the pair that it was written for. -/
theorem filterMap_mixed (unread : ∀ line ∈ noise, CorePair.ofLine? line = none) :
    (mixed pairs noise).filterMap CorePair.ofLine? = pairs := by
  induction pairs generalizing noise with
  | nil => rfl
  | cons pair pairs ih =>
    cases noise with
    | nil => simp [mixed, ih unread]
    | cons first noise =>
      have rest := ih fun line mem => unread line (List.mem_cons_of_mem first mem)
      simp [mixed, unread first List.mem_cons_self, rest]

/-- The other lines are counted, as many as there are pairs for. -/
theorem length_unread_mixed (unread : ∀ line ∈ noise, CorePair.ofLine? line = none) :
    ((mixed pairs noise).filter fun line => (CorePair.ofLine? line).isNone).length =
      min noise.length pairs.length := by
  induction pairs generalizing noise with
  | nil => simp [mixed]
  | cons pair pairs ih =>
    cases noise with
    | nil => simpa [mixed] using ih unread
    | cons first noise =>
      have rest := ih fun line mem => unread line (List.mem_cons_of_mem first mem)
      simp [mixed, unread first List.mem_cons_self, rest, Nat.succ_min_succ]

/-- **A listing is read back, whatever other lines it holds.**  The pairs are those for which
the rows were written, in order; every other line is skipped, and multithreading is on exactly
if some pair has differing ids. -/
theorem ofListing_render (plain : ∀ line ∈ noise, '\n' ∉ line)
    (noRow : ∀ line ∈ noise, ∀ a b, ¬ IsRow line a b) :
    (ofListing (render pairs noise)).pairs = pairs ∧
      (ofListing (render pairs noise)).skipped = min noise.length pairs.length ∧
      ((ofListing (render pairs noise)).hyperthreading ↔
        ∃ pair ∈ pairs, pair.physical ≠ pair.logical) := by
  have unread : ∀ line ∈ noise, CorePair.ofLine? line = none :=
    fun line mem => CorePair.ofLine?_eq_none_iff.2 (noRow line mem)
  have feeds : ∀ line ∈ mixed pairs noise, '\n' ∉ line :=
    forall_mem_mixed CorePair.newline_notMem_row plain
  have listed : (lines ((mixed pairs noise).flatMap fun line => line ++ ['\n'])).map
      CorePair.ofLine? = (mixed pairs noise).map CorePair.ofLine? := by
    rw [lines_flatMap_line feeds, List.map_map]
    exact List.map_congr_left fun line _ => CorePair.ofLine?_dropReturn line
  rw [render, ofListing_of_lines listed, filterMap_mixed unread, length_unread_mixed unread]
  refine ⟨rfl, rfl, ?_⟩
  simp [hyperthreading, CorePair.isSibling]

/-- The largest id among comments, broken rows, an id of 33 bits and a carriage return. -/
theorem ofListing_render_noisy :
    let noise := ["#7,7".toList, "4294967296,0".toList, "".toList, "1;2,3\r".toList, "-1,1".toList]
    let pairs : List CorePair := [⟨4294967295, 4294967295⟩, ⟨10, 10⟩, ⟨0, 4294967295⟩]
    (∀ line ∈ noise, '\n' ∉ line) ∧ (∀ line ∈ noise, ∀ a b, ¬ IsRow line a b) ∧
      (ofListing (render pairs noise)).pairs = pairs ∧
      (ofListing (render pairs noise)).skipped = 3 ∧
      (ofListing (render pairs noise)).hyperthreading := by
  intro noise pairs
  have plain : ∀ line ∈ noise, '\n' ∉ line := by decide
  have unread : ∀ line ∈ noise, CorePair.ofLine? line = none := by decide +kernel
  have noRow : ∀ line ∈ noise, ∀ a b, ¬ IsRow line a b :=
    fun line mem => CorePair.ofLine?_eq_none_iff.1 (unread line mem)
  obtain ⟨read, skipped, on⟩ : (ofListing (render pairs noise)).pairs = pairs ∧ _ ∧ _ :=
    ofListing_render plain noRow
  exact ⟨plain, noRow, read, skipped, on.2 ⟨⟨0, 4294967295⟩, by decide, by decide⟩⟩

end CpuTopology

end HostPreflight
