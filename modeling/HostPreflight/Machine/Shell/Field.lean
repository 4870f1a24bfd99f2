import HostPreflight.Machine.Shell.Pattern

/-!
# Fields

What the pieces of a word expand to, before it is split into fields.  Every
character is marked: what stands in quotes is neither split nor part of a pattern,
and of the rest only what an expansion has brought in is split.

## Main definitions

* `Mark` — a marked character, or a place between fields.
* `splitMarks separators marks` — the fields of marked text.
* `textOf`, `patternOf` — the text and the pattern that marked text makes.
-/

namespace HostPreflight.Machine.Shell

/-- A marked character, or a place between fields. -/
inductive Mark where
  | char (c : Char) (quoted split : Bool)
  /-- Quotes, which make a field even if nothing stands between them. -/
  | anchor
  /-- The place between two arguments, which are kept apart even if they are empty
  in case it is `firm`. -/
  | gap (firm : Bool)
  /-- The end of what an expansion has brought in.  If it `keeps` what comes after it,
  that is a field even if nothing is there. -/
  | edge (keeps : Bool)
  deriving DecidableEq

/-- Marked text. -/
abbrev Marks := List Mark

namespace Mark

/-- The characters of a mark. -/
def text : Mark → List Char
  | .char c .. => [c]
  | _ => []

/-- Whether a mark is a character that may separate fields. -/
def isSplit : Mark → Bool
  | .char _ _ split => split
  | _ => false

/-- Whether a mark is the place between two arguments. -/
def isGap : Mark → Bool
  | .gap _ => true
  | _ => false

/-- The pattern of a mark: quoted characters stand for themselves. -/
def pattern : Mark → List Char
  | .char c quoted _ => if quoted then ['\\', c] else [c]
  | _ => []

end Mark

/-- The text of marked text. -/
def textOf (marks : Marks) : List Char := marks.flatMap Mark.text

/-- The pattern of marked text. -/
def patternOf (marks : Marks) : List Char := marks.flatMap Mark.pattern

/-- Marks all characters of a text alike. -/
def marked (quoted split : Bool) (text : List Char) : Marks :=
  text.map fun c => .char c quoted split

@[simp] theorem textOf_marked (quoted split : Bool) (text : List Char) :
    textOf (marked quoted split text) = text := by
  induction text with
  | nil => rfl
  | cons c text ih => simpa [textOf, marked, Mark.text] using ih

/-! ## Splitting -/

/-- How a mark takes part in splitting. -/
inductive Role where
  /-- It belongs to a field. -/
  | inside
  /-- A blank that separates fields. -/
  | blank
  /-- A sign that ends a field. -/
  | sign
  /-- The place between two arguments that are kept apart. -/
  | border
  /-- The end of an expansion. -/
  | edge (keeps : Bool)
  deriving DecidableEq

/-- How a mark takes part in splitting at some separators. -/
def Mark.role (separators : List Char) : Mark → Role
  | .char c _ true =>
    if separators.contains c then (if isSeparator c then .blank else .sign) else .inside
  | .char _ _ false => .inside
  | .anchor => .inside
  | .gap false => .blank
  | .gap true => .border
  | .edge keeps => .edge keeps

/-- The state of splitting: the finished fields and the marks of the field begun,
both in reverse order, and what was seen after the last field. -/
structure Splitting where
  fields : List Marks := []
  begun : Marks := []
  /-- Whether blanks of an expansion have just ended a field, so that a sign of it still
  belongs to that end. -/
  afterBlank : Bool := false
  /-- Whether the last expansion has ended in arguments in quotes, so that what comes
  after them is a field even if nothing is in it. -/
  keeps : Bool := false

/-- Ends the field begun. -/
def Splitting.close (state : Splitting) : Splitting :=
  { state with fields := state.begun.reverse :: state.fields, begun := [] }

/-- Takes one mark. -/
def Splitting.step (separators : List Char) (state : Splitting) (mark : Mark) : Splitting :=
  match mark.role separators with
  | .inside => { state with begun := mark :: state.begun, afterBlank := false }
  | .border => { state.close with afterBlank := false }
  | .blank =>
    if state.afterBlank then state
    else if state.keeps then state.close
    else if state.begun.isEmpty then state
    else { state.close with afterBlank := true }
  | .sign =>
    if state.afterBlank then { state with afterBlank := false }
    else { state.close with afterBlank := false }
  | .edge keeps => { state with afterBlank := false, keeps }

/-- The fields of marked text. -/
def splitMarks (separators : List Char) (marks : Marks) : List Marks :=
  let state := marks.foldl (Splitting.step separators) {}
  let state := if state.begun.isEmpty && !state.keeps then state else state.close
  state.fields.reverse

/-! ## Sharing a line out -/

/-- The state of sharing a line out: how many fields may still begin or end, the finished
fields and the marks of the field begun, both in reverse order. -/
structure Sharing where
  left : Nat
  fields : List Marks := []
  begun : Marks := []
  /-- How much of the last field is left if nothing more belongs to it. -/
  cut : Option Nat := none
  /-- Whether a blank has ended a field, so that a sign still belongs to that end. -/
  afterBlank : Bool := false

/-- Ends the field begun at a separator.  The last field goes on. -/
def Sharing.close (state : Sharing) (mark : Mark) (isBlank : Bool) : Sharing :=
  if state.left = 1 then
    { state with
      left := 0
      begun := mark :: state.begun
      cut := some state.begun.length
      afterBlank := isBlank }
  else
    { state with
      left := state.left - 1
      fields := state.begun.reverse :: state.fields
      begun := []
      afterBlank := isBlank }

/-- Takes one mark. -/
def Sharing.step (separators : List Char) (state : Sharing) (mark : Mark) : Sharing :=
  match mark.role separators with
  | .blank =>
    if state.left = 0 then
      { state with begun := mark :: state.begun, cut := state.cut.or (some state.begun.length) }
    else if state.afterBlank || state.begun.isEmpty then state
    else state.close mark true
  | .sign =>
    if state.left = 0 then
      { state with
        begun := mark :: state.begun
        cut := if state.afterBlank then state.cut else none
        afterBlank := false }
    else if state.afterBlank then { state with afterBlank := false }
    else state.close mark false
  | _ =>
    let cut := if mark.isSplit then none else state.cut
    { state with begun := mark :: state.begun, cut, afterBlank := false }

/-- Shares a line out among some names.  The last name takes the rest without the blanks
at its end, and without a sign that only ends it; a character that is not split does not
make blanks before it count. -/
def distribute (separators : List Char) (names : List (List Char)) (line : Marks) :
    List (List Char × List Char) :=
  let state := line.foldl (Sharing.step separators) { left := names.length }
  let last := state.begun.reverse.take (state.cut.getD state.begun.length)
  let texts := ((last :: state.fields).reverse).map textOf
  names.zip (texts ++ names.map fun _ => [])

end HostPreflight.Machine.Shell
