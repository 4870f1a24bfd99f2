import Mathlib.Data.List.Basic

/-!
# How a text begins

Messages and log lines are told apart by the fixed words with which they begin.  Two such
beginnings that part somewhere keep apart whatever follows them, so text that comes from a
host cannot be mistaken for either.

## Main definitions

* `Begins start text` — the text begins with `start`.
* `Apart a b` — neither text begins with the other.

## Main statements

* `Apart.not_begins` — a text does not begin in two ways that part.
-/

namespace HostPreflight

/-- A text begins with some words. -/
def Begins (start text : String) : Prop := start.toList <+: text.toList

instance (start text : String) : Decidable (Begins start text) :=
  inferInstanceAs (Decidable (_ <+: _))

/-- Two texts that part at some place: neither begins with the other. -/
def Apart (a b : String) : Prop := ¬ Begins a b ∧ ¬ Begins b a

instance (a b : String) : Decidable (Apart a b) := inferInstanceAs (Decidable (_ ∧ _))

variable {a b start text : String}

/-- A text of two pieces begins with the first one. -/
@[simp] theorem begins_append (a b : String) : Begins a (a ++ b) := by
  rw [Begins, String.toList_append]
  exact List.prefix_append ..

/-- What follows does not change the beginning. -/
theorem Begins.append (h : Begins start text) (rest : String) : Begins start (text ++ rest) := by
  rw [Begins, String.toList_append]
  exact h.trans (List.prefix_append ..)

/-- A text does not begin in two ways that part. -/
theorem Apart.not_begins (apart : Apart a b) (h : Begins b text) : ¬ Begins a text := by
  intro other
  rcases List.prefix_or_prefix_of_prefix other h with first | second
  · exact apart.1 first
  · exact apart.2 second

end HostPreflight
