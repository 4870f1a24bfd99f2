import HostPreflight.Failure.Basic
import HostPreflight.Json.Record
import HostPreflight.Text.Fields
import HostPreflight.Text.Quoted

/-!
# Free memory

The kernel's memory table has the total on its first line and the free memory on
its second.  The free memory is found by its place and not by its label: it is
the second word of the second line, a count of kilobytes.

## Main definitions

* `MeminfoFault` — why a table cannot be read.
* `FreeMemory` — the kilobytes; `FreeMemory.ofMeminfo` reads them.
* `FreeMemory.gigabytes` — the memory in decimal gigabytes, with two roundings.
* `FreeMemory.meets` — whether that is at least a threshold.
-/

namespace HostPreflight

open Text

/-- Why a memory table cannot be read. -/
inductive MeminfoFault where
  /-- There is no second line. -/
  | missingLine
  /-- The second line has no second word. -/
  | missingValue (line : List Char)
  /-- The second word of the second line is not a 64-bit count. -/
  | notNumeric (word : List Char)
  deriving DecidableEq, Repr

namespace MeminfoFault

/-- The wording of a fault. -/
def message : MeminfoFault → String
  | .missingLine => "missing second line"
  | .missingValue line => "no value in " ++ String.ofList (quoted line)
  | .notNumeric word => "non-numeric value " ++ String.ofList (quoted word)

/-- A fault as a failure of the memory table. -/
def failure (fault : MeminfoFault) : Failure := .malformed "meminfo" fault.message

end MeminfoFault

/-- The free memory of a host. -/
structure FreeMemory where
  kilobytes : UInt64
  deriving DecidableEq, Repr

namespace FreeMemory

/-- Reads a memory table. -/
def ofMeminfo (table : String) : Except MeminfoFault FreeMemory :=
  match (lines table.toList)[1]? with
  | none => .error .missingLine
  | some line =>
    match (words line)[1]? with
    | none => .error (.missingValue line)
    | some word =>
      match Decimal.unsigned? UInt64.size word with
      | none => .error (.notNumeric word)
      | some n => .ok ⟨UInt64.ofNat n⟩

/-- The decimal gigabytes: the kilobytes as a double, divided by a thousand twice. -/
def gigabytes (memory : FreeMemory) : Double := .ofNat memory.kilobytes.toNat / 1000 / 1000

/-- Whether at least `least` gigabytes are free. -/
def meets (memory : FreeMemory) (least : Double) : Bool := least.atMost memory.gigabytes

/-- The JSON value of a memory figure. -/
def toJson (memory : FreeMemory) : Json :=
  .record [("kilobytes", .count memory.kilobytes.toNat)]

/-- Reads a memory figure. -/
def ofJson? (v : Json) : Option FreeMemory := do
  match ← v.fields? ["kilobytes"] with
  | [kilobytes] => return { kilobytes := ← Json.required Json.word64? kilobytes }
  | _ => none

end FreeMemory

end HostPreflight
