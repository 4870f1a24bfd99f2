import HostPreflight.Memory
import HostPreflight.Proofs.Decimal.Count
import HostPreflight.Proofs.Text.Lines

/-!
# One word of the memory table

Of a memory table one word is read: the second one of the second line.  What stands around
it makes no difference, and it must be a count of 64 bits.  If it is not, the complaint says
which of the three came first: no such line, no such word, no such count.

## Main definitions

* `SecondLine table line`, `SecondWord line word` — the two places.
* `FreeMemory.Reads table result` — which result a table calls for.
* `TableParts` — a table in parts; `TableParts.Tells n` — its second word is `n`.

## Main statements

* `ofMeminfo_eq_iff` — a table is read as it calls for.
* `TableParts.Tells.ofMeminfo_eq` — a table built around a count is read as that count.
* `ofMeminfo_reads_one_word` — both, with the wording of the complaints.
-/

namespace HostPreflight

open Decimal Text

/-! ## Places -/

/-- The second line of a table. -/
def SecondLine (table : String) (line : List Char) : Prop :=
  ∃ ls, HasLines table.toList ls ∧ ls[1]? = some line

/-- The second word of a line. -/
def SecondWord (line word : List Char) : Prop := ∃ ws, Spaced ws line ∧ ws[1]? = some word

theorem secondLine_iff {table : String} {line : List Char} :
    SecondLine table line ↔ (lines table.toList)[1]? = some line := by
  simp [SecondLine, hasLines_iff]

theorem secondWord_iff {line word : List Char} :
    SecondWord line word ↔ (words line)[1]? = some word := by
  simp [SecondWord, spaced_iff]

namespace FreeMemory

/-! ## Results -/

/-- Which result a table calls for. -/
inductive Reads (table : String) : Except MeminfoFault FreeMemory → Prop where
  | missingLine (short : ∀ line, ¬ SecondLine table line) : Reads table (.error .missingLine)
  | missingValue {line : List Char} (second : SecondLine table line)
      (short : ∀ word, ¬ SecondWord line word) : Reads table (.error (.missingValue line))
  | notNumeric {line word : List Char} (second : SecondLine table line)
      (value : SecondWord line word) (wrong : ∀ n < UInt64.size, ¬ Writes word n) :
      Reads table (.error (.notNumeric word))
  | count {line word : List Char} {memory : FreeMemory} (second : SecondLine table line)
      (value : SecondWord line word) (writes : Writes word memory.kilobytes.toNat) :
      Reads table (.ok memory)

variable {table : String} {line word : List Char}

/-- Without a second line there is nothing to read. -/
theorem ofMeminfo_of_noLine (short : (lines table.toList)[1]? = none) :
    ofMeminfo table = .error .missingLine := by
  rw [ofMeminfo, short]

/-- Without a second word there is no value. -/
theorem ofMeminfo_of_noWord (second : (lines table.toList)[1]? = some line)
    (short : (words line)[1]? = none) : ofMeminfo table = .error (.missingValue line) := by
  simp only [ofMeminfo, second, short]

/-- A second word that is not read as a count is the complaint. -/
theorem ofMeminfo_of_noCount (second : (lines table.toList)[1]? = some line)
    (value : (words line)[1]? = some word) (wrong : unsigned? UInt64.size word = none) :
    ofMeminfo table = .error (.notNumeric word) := by
  simp only [ofMeminfo, second, value, wrong]

/-- A second word that is read as a count is the result. -/
theorem ofMeminfo_of_count {n : Nat} (second : (lines table.toList)[1]? = some line)
    (value : (words line)[1]? = some word) (count : unsigned? UInt64.size word = some n) :
    ofMeminfo table = .ok ⟨UInt64.ofNat n⟩ := by
  simp only [ofMeminfo, second, value, count]

/-- A result that a table calls for is the one that is read. -/
theorem Reads.ofMeminfo_eq {result : Except MeminfoFault FreeMemory} (h : Reads table result) :
    ofMeminfo table = result := by
  cases h with
  | missingLine short =>
    refine ofMeminfo_of_noLine (Option.eq_none_iff_forall_ne_some.2 fun line second => ?_)
    exact short line (secondLine_iff.2 second)
  | missingValue second short =>
    refine ofMeminfo_of_noWord (secondLine_iff.1 second) ?_
    refine Option.eq_none_iff_forall_ne_some.2 fun word value => ?_
    exact short word (secondWord_iff.2 value)
  | notNumeric second value wrong =>
    exact ofMeminfo_of_noCount (secondLine_iff.1 second) (secondWord_iff.1 value)
      (unsigned?_eq_none_iff.2 wrong)
  | @count _ _ memory second value writes =>
    have count := unsigned?_eq_some_iff.2 ⟨writes, memory.kilobytes.toNat_lt_size⟩
    rw [ofMeminfo_of_count (secondLine_iff.1 second) (secondWord_iff.1 value) count,
      UInt64.ofNat_toNat]

/-- What is read is called for. -/
theorem reads_ofMeminfo (table : String) : Reads table (ofMeminfo table) := by
  cases second : (lines table.toList)[1]? with
  | none =>
    rw [ofMeminfo_of_noLine second]
    refine .missingLine fun line there => ?_
    exact nomatch second.symm.trans (secondLine_iff.1 there)
  | some line =>
    have second' := secondLine_iff.2 second
    cases value : (words line)[1]? with
    | none =>
      rw [ofMeminfo_of_noWord second value]
      refine .missingValue second' fun word there => ?_
      exact nomatch value.symm.trans (secondWord_iff.1 there)
    | some word =>
      have value' := secondWord_iff.2 value
      cases count : unsigned? UInt64.size word with
      | none =>
        rw [ofMeminfo_of_noCount second value count]
        exact .notNumeric second' value' (unsigned?_eq_none_iff.1 count)
      | some n =>
        obtain ⟨writes, small⟩ := unsigned?_eq_some_iff.1 count
        rw [ofMeminfo_of_count second value count]
        refine .count second' value' ?_
        rwa [UInt64.toNat_ofNat_of_lt' small]

/-- **A table is read as it calls for**, and in no other way. -/
theorem ofMeminfo_eq_iff {result : Except MeminfoFault FreeMemory} :
    ofMeminfo table = result ↔ Reads table result := by
  constructor
  · rintro rfl
    exact reads_ofMeminfo table
  · exact Reads.ofMeminfo_eq

/-- Only the second line of a table matters. -/
theorem ofMeminfo_congr {table table' : String}
    (same : ∀ line, SecondLine table line ↔ SecondLine table' line) :
    ofMeminfo table = ofMeminfo table' := by
  simp only [secondLine_iff] at same
  have second : (lines table.toList)[1]? = (lines table'.toList)[1]? := Option.ext same
  rw [ofMeminfo, ofMeminfo, second]

end FreeMemory

namespace MeminfoFault

/-- How a wording begins depends on its fixed part. -/
theorem take_append_three {fixed : String} (long : 3 ≤ fixed.toList.length) (quotation : String) :
    (fixed ++ quotation).toList.take 3 = fixed.toList.take 3 := by
  rw [String.toList_append, List.take_append_of_le_length long]

/-- How the three complaints begin. -/
theorem take_message (line word : List Char) :
    missingLine.message.toList.take 3 = ['m', 'i', 's'] ∧
      (missingValue line).message.toList.take 3 = ['n', 'o', ' '] ∧
      (notNumeric word).message.toList.take 3 = ['n', 'o', 'n'] := by
  refine ⟨by decide +kernel, ?_, ?_⟩
  · exact (take_append_three (by decide +kernel) _).trans (by decide +kernel)
  · exact (take_append_three (by decide +kernel) _).trans (by decide +kernel)

/-- The wordings of the three complaints differ, whatever is quoted in them. -/
theorem message_ne_message (line word : List Char) :
    missingLine.message ≠ (missingValue line).message ∧
      missingLine.message ≠ (notNumeric word).message ∧
      (missingValue line).message ≠ (notNumeric word).message := by
  obtain ⟨noLine, noValue, noNumber⟩ := take_message line word
  refine ⟨?_, ?_, ?_⟩
  · intro same
    rw [same, noValue] at noLine
    exact absurd noLine (by decide)
  · intro same
    rw [same, noNumber] at noLine
    exact absurd noLine (by decide)
  · intro same
    rw [same, noNumber] at noValue
    exact absurd noValue (by decide)

end MeminfoFault

/-! ## Tables in parts -/

/-- A table in parts: the first line, the second line with what stands in front of its label,
the label, what follows it, the value and the rest, and what stands below. -/
structure TableParts where
  first : List Char
  indent : List Char
  label : List Char
  gap : List Char
  value : List Char
  rest : List Char
  below : List Char

namespace TableParts

/-- The second line of a table in parts. -/
def second (parts : TableParts) : List Char :=
  parts.indent ++ parts.label ++ (parts.gap ++ parts.value ++ parts.rest)

/-- The text of a table in parts. -/
def text (parts : TableParts) : String :=
  String.ofList (parts.first ++ '\n' :: (parts.second ++ parts.below))

/-- The parts stand where they belong, and the value writes `n`. -/
structure Tells (parts : TableParts) (n : UInt64) : Prop where
  first : '\n' ∉ parts.first
  indent : ∀ c ∈ parts.indent, isBlank c
  label : IsWord parts.label
  gapped : parts.gap ≠ []
  gap : ∀ c ∈ parts.gap, isBlank c
  value : Writes parts.value n.toNat
  /-- The value ends with its line or at a blank. -/
  rest : parts.rest = [] ∨ ∃ c tail, parts.rest = c :: tail ∧ isBlank c
  oneLine : '\n' ∉ parts.second
  below : parts.below = [] ∨ ∃ others, parts.below = '\n' :: others

variable {parts : TableParts} {n : UInt64}

/-- Behind the gap the value comes first. -/
theorem Tells.spaced_value {gap : List Char} (tells : parts.Tells n)
    (blank : ∀ c ∈ gap, isBlank c) :
    ∃ ws, Spaced (parts.value :: ws) (gap ++ parts.value ++ parts.rest) := by
  rcases tells.rest with none | ⟨c, tail, rest, apart⟩
  · rw [none, List.append_nil]
    exact ⟨[], .last blank tells.value.isWord⟩
  · rw [rest]
    exact ⟨words tail, .cons blank tells.value.isWord apart (spaced_iff.2 rfl)⟩

/-- The value is the second word of the second line. -/
theorem Tells.secondWord (tells : parts.Tells n) : SecondWord parts.second parts.value := by
  obtain ⟨c, gap, split⟩ := List.exists_cons_of_ne_nil tells.gapped
  have blank := tells.gap
  rw [split] at blank
  obtain ⟨ws, others⟩ := tells.spaced_value fun d mem => blank d (List.mem_cons_of_mem c mem)
  refine ⟨parts.label :: parts.value :: ws, ?_, rfl⟩
  rw [second, split]
  exact .cons tells.indent tells.label (blank c List.mem_cons_self) others

/-- A carriage return at the end of a line belongs to no word. -/
theorem secondWord_dropReturn {line word : List Char} (h : SecondWord line word) :
    SecondWord (dropReturn line) word := by
  rw [secondWord_iff] at h ⊢
  by_cases ended : line.getLast? = some '\r'
  · obtain ⟨front, rfl⟩ := List.getLast?_eq_some_iff.1 ended
    have none : words [] = [] := rfl
    rw [words_append_cons (by decide), none, List.append_nil] at h
    rwa [dropReturn_append]
  · rwa [dropReturn_of_ne ended]

/-- The second line of a table in parts is its second line, perhaps without a carriage
return. -/
theorem Tells.secondLine (tells : parts.Tells n) :
    SecondLine parts.text parts.second ∨ SecondLine parts.text (dropReturn parts.second) := by
  have some : parts.second ≠ [] := by simp [second, tells.label.nonempty]
  have text : parts.text.toList = parts.first ++ '\n' :: (parts.second ++ parts.below) :=
    String.toList_ofList
  simp only [secondLine_iff, text, lines_append_newline tells.first]
  rcases tells.below with none | ⟨others, below⟩
  · rw [none, List.append_nil, lines_of_newline_notMem some tells.oneLine]
    exact .inl rfl
  · rw [below, lines_append_newline tells.oneLine]
    exact .inr rfl

/-- **A table that is built around a count is read as that count.** -/
theorem Tells.ofMeminfo_eq (tells : parts.Tells n) : FreeMemory.ofMeminfo parts.text = .ok ⟨n⟩ := by
  rcases tells.secondLine with kept | dropped
  · exact FreeMemory.ofMeminfo_eq_iff.2 (.count kept tells.secondWord tells.value)
  · exact FreeMemory.ofMeminfo_eq_iff.2
      (.count dropped (secondWord_dropReturn tells.secondWord) tells.value)

end TableParts

/-- **Of a memory table one word is read.**  A table is read as a count exactly if the second
word of its second line writes that count, and otherwise the failure names the first thing
that is missing: the line, the word, or the number; the three are worded differently.  So a
table that is built around a 64-bit count is read as that count, and two tables with the same
second line are read alike. -/
theorem ofMeminfo_reads_one_word :
    (∀ (table : String) (result : Except MeminfoFault FreeMemory),
      FreeMemory.ofMeminfo table = result ↔ FreeMemory.Reads table result) ∧
    (MeminfoFault.missingLine.failure = .malformed "meminfo" "missing second line" ∧
      (∀ line, (MeminfoFault.missingValue line).failure =
        .malformed "meminfo" ("no value in " ++ String.ofList (quoted line))) ∧
      ∀ word, (MeminfoFault.notNumeric word).failure =
        .malformed "meminfo" ("non-numeric value " ++ String.ofList (quoted word))) ∧
    (∀ line word, MeminfoFault.missingLine.message ≠ (MeminfoFault.missingValue line).message ∧
      MeminfoFault.missingLine.message ≠ (MeminfoFault.notNumeric word).message ∧
      (MeminfoFault.missingValue line).message ≠ (MeminfoFault.notNumeric word).message) ∧
    (∀ (parts : TableParts) (n : UInt64), parts.Tells n →
      FreeMemory.ofMeminfo parts.text = .ok ⟨n⟩) ∧
    ∀ table table' : String, (∀ line, SecondLine table line ↔ SecondLine table' line) →
      FreeMemory.ofMeminfo table = FreeMemory.ofMeminfo table' := by
  refine ⟨?_, ⟨rfl, fun _ => rfl, fun _ => rfl⟩, MeminfoFault.message_ne_message, ?_, ?_⟩
  · intro table result
    exact FreeMemory.ofMeminfo_eq_iff
  · intro parts n tells
    exact tells.ofMeminfo_eq
  · intro table table' same
    exact FreeMemory.ofMeminfo_congr same

/-- The largest count, with a sign and a zero in front, in a crowded second line. -/
def crowdedTable : TableParts where
  first := "MemFree: 1 kB\r".toList
  indent := ['\t']
  label := "12".toList
  gap := ['\u2003']
  value := "+018446744073709551615".toList
  rest := " 7\r".toList
  below := ['\n', '\n']

/-- It is read as this count, also with more text behind it. -/
theorem ofMeminfo_reads_crowdedTable :
    crowdedTable.Tells 18446744073709551615 ∧
      FreeMemory.ofMeminfo crowdedTable.text = .ok ⟨18446744073709551615⟩ ∧
      FreeMemory.ofMeminfo (crowdedTable.text ++ "x") = .ok ⟨18446744073709551615⟩ := by
  have digits : unsigned? UInt64.size crowdedTable.value = some 18446744073709551615 := by
    decide +kernel
  have tells : crowdedTable.Tells 18446744073709551615 := by
    constructor
    case indent => exact List.forall_mem_singleton.2 (by decide)
    case gap => exact List.forall_mem_singleton.2 (by decide)
    case value => exact (unsigned?_eq_some_iff.1 digits).1
    case rest => exact .inr ⟨' ', ['7', '\r'], by decide +kernel, by decide⟩
    case below => exact .inr ⟨['\n'], rfl⟩
    all_goals decide +kernel
  obtain ⟨-, -, -, built, alike⟩ := ofMeminfo_reads_one_word
  have whole := built crowdedTable 18446744073709551615 tells
  have second : (lines crowdedTable.text.toList)[1]? =
      (lines (crowdedTable.text ++ "x").toList)[1]? := by decide +kernel
  refine ⟨tells, whole, ?_⟩
  rw [← alike crowdedTable.text (crowdedTable.text ++ "x"), whole]
  intro line
  rw [secondLine_iff, secondLine_iff, second]

end HostPreflight
