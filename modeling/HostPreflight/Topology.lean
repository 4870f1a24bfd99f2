import HostPreflight.Json.Record
import HostPreflight.Text.Fields

/-!
# Processor topology

The parseable processor listing has one row for each logical processor: the
processor's id, the id of its core, and columns of no interest here.  Sibling
threads share a core, so a row whose two ids differ reveals that simultaneous
multithreading is on.  Lines that are not rows are skipped, and counted.

## Main definitions

* `CorePair` — the two ids of a row; `CorePair.ofLine?` reads a row.
* `CpuTopology` — the rows of a listing and the number of skipped lines.
* `CpuTopology.ofListing`, `skippedLines` — reading a listing.
* `CpuTopology.hyperthreading` — whether some row has differing ids.
-/

namespace HostPreflight

open Decimal Text

/-- The two ids of a row. -/
structure CorePair where
  /-- The id in the first column. -/
  physical : UInt32
  /-- The id in the second column. -/
  logical : UInt32
  deriving DecidableEq, Repr

namespace CorePair

/-- Whether the ids differ, so that a sibling thread shares the core. -/
def isSibling (pair : CorePair) : Bool := pair.physical != pair.logical

/-- An id between commas: blanks around it do not count. -/
def id? (field : List Char) : Option UInt32 :=
  (unsigned? UInt32.size (trim field)).map UInt32.ofNat

/-- Reads a row: two ids before the second comma. -/
def ofLine? (line : List Char) : Option CorePair :=
  match fields (· == ',') line with
  | first :: second :: _ => do
    let physical ← id? first
    let logical ← id? second
    return { physical, logical }
  | _ => none

/-- The JSON value of a pair. -/
def toJson (pair : CorePair) : Json :=
  .record [
    ("physical", .count pair.physical.toNat),
    ("logical", .count pair.logical.toNat)]

/-- Reads a pair. -/
def ofJson? (v : Json) : Option CorePair := do
  match ← v.fields? ["physical", "logical"] with
  | [physical, logical] =>
    return {
      physical := ← Json.required Json.word32? physical
      logical := ← Json.required Json.word32? logical }
  | _ => none

end CorePair

/-- What a listing tells. -/
structure CpuTopology where
  /-- The rows, in the order of the listing. -/
  pairs : List CorePair
  /-- How many lines are not rows. -/
  skipped : Nat
  deriving DecidableEq, Repr

namespace CpuTopology

/-- The lines of a listing that are not rows. -/
def skippedLines (listing : String) : List (List Char) :=
  (lines listing.toList).filter fun line => (CorePair.ofLine? line).isNone

/-- Reads a listing. -/
def ofListing (listing : String) : CpuTopology where
  pairs := (lines listing.toList).filterMap CorePair.ofLine?
  skipped := (skippedLines listing).length

/-- Whether simultaneous multithreading is on. -/
def hyperthreading (topology : CpuTopology) : Bool := topology.pairs.any CorePair.isSibling

/-- The JSON value of a topology. -/
def toJson (topology : CpuTopology) : Json :=
  .record [
    ("pairs", .array (topology.pairs.map CorePair.toJson)),
    ("skipped", .count topology.skipped)]

/-- Reads a topology. -/
def ofJson? (v : Json) : Option CpuTopology := do
  match ← v.fields? ["pairs", "skipped"] with
  | [pairs, skipped] =>
    return {
      pairs := ← Json.required (Json.list? CorePair.ofJson?) pairs
      skipped := ← Json.required (Json.count? UInt64.size) skipped }
  | _ => none

end CpuTopology

end HostPreflight
