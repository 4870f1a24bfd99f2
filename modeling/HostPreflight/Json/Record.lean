import HostPreflight.Json.Number

/-!
# Decoding JSON values

How the typed values of this library are taken from JSON values.

A record is an object whose known members occur at most once and whose other
members are ignored, or an array of all its fields in order.  A field whose type
is optional may be absent or null.  An enumeration value is its name, or an
object with the name as its only member and null as its value.

## Main definitions

* `fields? names v` — the fields of a record.
* `required`, `optional` — decoding one field.
* `enumeration? names v` — the value named by `v`.
-/

namespace HostPreflight.Json

/-- The text of a string value. -/
def text? : Json → Option String
  | .string s => s
  | _ => none

/-- The truth value. -/
def bool? : Json → Option Bool
  | .bool b => some b
  | _ => none

/-- A count below `limit`, written without sign, point and power of ten. -/
def count? (limit : Nat) : Json → Option Nat
  | .number n => do
    let n ← n.toNat?
    if n < limit then some n else none
  | _ => none

/-- A 32-bit count. -/
def word32? (v : Json) : Option UInt32 := (v.count? UInt32.size).map UInt32.ofNat

/-- A 64-bit count. -/
def word64? (v : Json) : Option UInt64 := (v.count? UInt64.size).map UInt64.ofNat

/-- A finite double. -/
def double? : Json → Option Double
  | .number n => toDouble? n
  | _ => none

/-- The items of an array, each decoded. -/
def list? {α : Type} (decode : Json → Option α) : Json → Option (List α)
  | .array vs => vs.mapM decode
  | _ => none

/-- The fields of a record, in the order of `names`; a field that an object does
not have is absent. -/
def fields? (names : List String) : Json → Option (List (Option Json))
  | .array vs => if vs.length = names.length then some (vs.map some) else none
  | .object members => do
    let members ← members.mapM fun (name, v) => name.map fun name => (name, v)
    if names.any fun name => 1 < members.countP (·.1 == name) then none
    else some (names.map fun name => members.lookup name)
  | _ => none

/-- Decodes a field that has to be there. -/
def required {α : Type} (decode : Json → Option α) (field : Option Json) : Option α :=
  field.bind decode

/-- Decodes a field that may be absent or null. -/
def optional {α : Type} (decode : Json → Option α) : Option Json → Option (Option α)
  | none => some none
  | some .null => some none
  | some v => (decode v).map some

/-- The value whose name is written, among named values. -/
def enumeration? {α : Type} (values : List (String × α)) : Json → Option α
  | .string (some name) => values.lookup name
  | .object [(some name, .null)] => values.lookup name
  | _ => none

end HostPreflight.Json
