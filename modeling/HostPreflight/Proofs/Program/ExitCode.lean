import HostPreflight.Program

/-!
# Exit codes

A command line that is accepted ends with exit code zero or one, whatever the machine answers:
exit code two belongs to command lines that are not understood.

## Main definitions

* `Dialogue.Ends P d` — every run of the dialogue `d` ends with a result of which `P` holds.

## Main statements

* `Dialogue.Ends.carry` — such a result shows in every run.
* `ends_perform` — an accepted command line ends with exit code zero or one.
-/

namespace HostPreflight

open CommandLine

namespace Dialogue

variable {Question : Type} {Answer : Question → Type} {α β σ : Type} {P : α → Prop}

/-- Every run of a dialogue ends with a result of which `P` holds. -/
def Ends (P : α → Prop) : Dialogue Answer α → Prop
  | .done result => P result
  | .note _ rest => rest.Ends P
  | .ask _ next => ∀ answer, (next answer).Ends P

/-- A sequence of dialogues ends as its last one does. -/
theorem ends_bind {P : β → Prop} {f : α → Dialogue Answer β} (d : Dialogue Answer α)
    (ends : ∀ a, (f a).Ends P) : (d >>= f).Ends P := by
  induction d with
  | done a => exact ends a
  | note event rest ih => exact ih
  | ask question next ih => exact fun answer => ih answer

/-- A run shows such a result, also against answers that change a state. -/
theorem Ends.carry {d : Dialogue Answer α} (ends : d.Ends P)
    (answer : (question : Question) → StateM σ (Answer question)) (s : σ) :
    P ((carry answer d).run s).1.result := by
  induction d generalizing s with
  | done a => exact ends
  | note event rest ih => exact ih ends s
  | ask question next ih =>
    exact ih ((answer question).run s).1 (ends _) ((answer question).run s).2

end Dialogue

open Dialogue

namespace Outcome

/-- The exit code says that a command line was carried out, with success or without. -/
def IsCarriedOut (outcome : Outcome) : Prop := outcome.exitCode = 0 ∨ outcome.exitCode = 1

/-- A failure is an outcome of its own. -/
theorem isCarriedOut_ofFailure (failure : Failure) : (ofFailure failure).IsCarriedOut := .inr rfl

end Outcome

open Outcome

/-- The exit code of a report says whether it passed. -/
theorem Report.exitCode_eq (report : Report) : report.exitCode = 0 ∨ report.exitCode = 1 := by
  unfold Report.exitCode
  cases report.status with
  | passed => exact .inl rfl
  | failed => exact .inr rfl

/-- A check ends with the exit code of its report, in either format. -/
theorem ends_performCheck (options : Options) (settings : Settings) :
    (performCheck options settings).Ends IsCarriedOut := by
  unfold performCheck
  cases options.format with
  | text =>
    have reported (head : String) : Ends IsCarriedOut (do
        let report ← checkMachine settings
        return .ofReport head report) := ends_bind _ fun report => report.exitCode_eq
    change Ends _ (if options.noSummary then _ else _)
    split
    · exact reported ""
    · exact ends_bind _ fun summary => reported summary.text
  | json => exact ends_bind _ fun report => report.exitCode_eq

/-- A search ends with success if it finds something. -/
theorem isCarriedOut_librariesOutcome (library : LibraryOptions)
    (result : Except Failure LinkLibraries) :
    (librariesOutcome library result).IsCarriedOut := by
  cases result with
  | error failure => exact isCarriedOut_ofFailure failure
  | ok libraries =>
    cases empty : libraries.isEmpty with
    | true => exact .inr (by simp [librariesOutcome, empty, objecting])
    | false => exact .inl (by simp [librariesOutcome, empty, printing])

/-- An accepted command line ends with exit code zero or one. -/
theorem ends_perform (options : Options) : (perform options).Ends IsCarriedOut := by
  unfold perform
  refine ends_bind _ fun result => ?_
  cases result with
  | error failure => exact isCarriedOut_ofFailure failure
  | ok settings =>
    cases options.command with
    | none => exact ends_performCheck options settings
    | some command =>
      cases command with
      | check => exact ends_performCheck options settings
      | libraries library =>
        exact ends_bind _ fun result => isCarriedOut_librariesOutcome library result

end HostPreflight
