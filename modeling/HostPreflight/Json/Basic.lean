import HostPreflight.Decimal.Numeral

/-!
# JSON values

The values that a JSON text denotes.  Numbers keep the parts in which they were
written, since a count and a memory figure read the same text in different ways.
Members keep their order and may repeat a name.

## Main definitions

* `Json.Literal` — what a string literal denotes.
* `Json` — a JSON value.
-/

namespace HostPreflight

/-- What a string literal denotes: its text, or nothing if an escaped half of a
surrogate pair has no partner.  Such a literal is tolerated only where nobody
reads it. -/
abbrev Json.Literal := Option String

/-- A JSON value. -/
inductive Json where
  | null
  | bool (value : Bool)
  | number (value : Decimal.Numeral)
  | string (value : Json.Literal)
  | array (items : List Json)
  | object (members : List (Json.Literal × Json))
  deriving Inhabited

namespace Json

/-- The value of a text. -/
def text (s : String) : Json := .string (some s)

/-- The value of a count. -/
def count (n : Nat) : Json := .number (.ofNat n)

/-- The object with the given members. -/
def record (members : List (String × Json)) : Json :=
  .object (members.map fun (name, value) => (some name, value))

/-- The value of an optional field: null when it is absent. -/
def ofOption {α : Type} (encode : α → Json) : Option α → Json
  | none => .null
  | some a => encode a

end Json

end HostPreflight
