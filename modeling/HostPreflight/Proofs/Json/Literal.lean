import HostPreflight.Json.Parser
import HostPreflight.Json.Printer
import Mathlib.Tactic.SplitIfs

/-!
# String literals in JSON texts

A literal is written with escapes for quotes, backslashes and controls, and read as a
row of units.  Every character is one unit, however it is written, so a literal is read
back whatever characters it holds; a broken literal stays broken.

## Main statements

* `literalUnits_escapeChar` — an escaped character is read as itself.
* `literal_bodyText` — reading a written literal gives the literal back.
-/

namespace HostPreflight.Json

/-- The units of a text, one for each character. -/
def unitsOf (cs : List Char) : List LiteralUnit := cs.map LiteralUnit.char

/-- Characters need no partners. -/
theorem joinPairs_unitsOf (cs : List Char) : joinPairs (unitsOf cs) = some cs := by
  induction cs with
  | nil => rfl
  | cons c cs ih =>
    rw [unitsOf, List.map_cons, joinPairs]
    exact congrArg (Option.map (c :: ·)) ih

/-- A control is spelled by two hexadecimal digits. -/
theorem code?_control {c : Char} (h : c.toNat < 0x20) :
    code? '0' '0' (Text.lastHexDigit (c.toNat / 16)) (Text.lastHexDigit c.toNat) =
      some c.toNat := by
  have zero : Text.hexValue? '0' = some 0 := by decide
  simp only [code?, zero, Text.lastHexDigit, Text.hexValue?_hexDigit, Fin.ofNat]
  simp only [bind, Option.bind, pure]
  congr
  omega

/-- A control that is spelled by its number is read as itself. -/
theorem ofCode_control {c : Char} (h : c.toNat < 0x20) :
    LiteralUnit.ofCode c.toNat = .char c := by
  have high : ¬ (0xD800 ≤ c.toNat ∧ c.toNat < 0xDC00) := by omega
  have low : ¬ (0xDC00 ≤ c.toNat ∧ c.toNat < 0xE000) := by omega
  rw [LiteralUnit.ofCode, if_neg high, if_neg low, Char.ofNat_toNat]

/-- A character that needs no escape is read as itself. -/
theorem literalUnits_plain {c : Char} (quote : c ≠ '"') (backslash : c ≠ '\\')
    (visible : ¬ c.toNat < 0x20) (rest : List Char) :
    literalUnits (c :: rest) =
      (literalUnits rest).map fun (units, rest) => (.char c :: units, rest) := by
  rw [literalUnits.eq_def]
  split
  · rename_i same
    exact absurd (List.cons.inj same).1 quote
  · rename_i same
    exact absurd (List.cons.inj same).1 backslash
  · rename_i same
    exact absurd (List.cons.inj same).1 backslash
  · rename_i same
    obtain ⟨rfl, rfl⟩ := List.cons.inj same
    rw [if_neg visible]
    cases literalUnits rest <;> rfl
  · rename_i same
    exact nomatch same

/-- A character with a one-letter escape is read as itself. -/
theorem literalUnits_letter {letter c : Char} (known : escaped? letter = some c)
    (rest : List Char) :
    literalUnits ('\\' :: letter :: rest) =
      (literalUnits rest).map fun (units, rest) => (.char c :: units, rest) := by
  have noNumber : letter ≠ 'u' := by
    rintro rfl
    exact nomatch known
  rw [literalUnits.eq_def]
  split
  · rename_i same
    exact absurd (List.cons.inj same).1 (by decide)
  · rename_i same
    exact absurd (List.cons.inj (List.cons.inj same).2).1 noNumber
  · rename_i same
    obtain ⟨-, same⟩ := List.cons.inj same
    obtain ⟨rfl, rfl⟩ := List.cons.inj same
    rw [known]
    cases literalUnits rest <;> rfl
  · rename_i other same
    obtain ⟨rfl, rfl⟩ := List.cons.inj same
    exact (other _ _ rfl rfl).elim
  · rename_i same
    exact nomatch same

/-- An escaped character is read as itself. -/
theorem literalUnits_escapeChar (c : Char) (rest : List Char) :
    literalUnits (escapeChar c ++ rest) =
      (literalUnits rest).map fun (units, rest) => (.char c :: units, rest) := by
  unfold escapeChar
  split_ifs with quote backslash backspace tab line page carriage control
  · exact literalUnits_letter (by rw [quote]; decide) rest
  · exact literalUnits_letter (by rw [backslash]; decide) rest
  · exact literalUnits_letter (by rw [backspace]; decide) rest
  · exact literalUnits_letter (by rw [tab]; decide) rest
  · exact literalUnits_letter (by rw [line]; decide) rest
  · exact literalUnits_letter (by rw [page]; decide) rest
  · exact literalUnits_letter (by rw [carriage]; decide) rest
  · simp only [List.cons_append, List.nil_append, literalUnits, code?_control control]
    rw [← ofCode_control control]
    cases literalUnits rest <;> rfl
  · exact literalUnits_plain quote backslash control rest

/-- An escaped text is read up to its closing quote. -/
theorem literalUnits_escaped (cs rest : List Char) :
    literalUnits (cs.flatMap escapeChar ++ '"' :: rest) = some (unitsOf cs, rest) := by
  induction cs with
  | nil => rfl
  | cons c cs ih =>
    rw [List.flatMap_cons, List.append_assoc, literalUnits_escapeChar, ih]
    rfl

/-- What stands in a literal after its opening quote. -/
def bodyText : Literal → List Char
  | some s => s.toList.flatMap escapeChar ++ ['"']
  | none => ['\\', 'u', 'd', '8', '0', '0', '"']

/-- A literal starts with its opening quote. -/
theorem literalText_eq (s : Literal) : literalText s = '"' :: bodyText s := by
  cases s <;> rfl

/-- Reading a written literal gives the literal back, a broken one included. -/
theorem literal_bodyText (s : Literal) (rest : List Char) :
    literal (bodyText s ++ rest) = some (s, rest) := by
  cases s with
  | none =>
    have half : code? 'd' '8' '0' '0' = some 0xD800 := by decide
    simp only [bodyText, List.cons_append, List.nil_append, literal, literalUnits, half]
    rfl
  | some s =>
    rw [bodyText, List.append_assoc, List.singleton_append, literal, literalUnits_escaped]
    simp [joinPairs_unitsOf]

end HostPreflight.Json
