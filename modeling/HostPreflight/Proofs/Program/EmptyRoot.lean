import HostPreflight.Proofs.CommandLine.Root
import HostPreflight.Proofs.Dialogue.World
import HostPreflight.Proofs.Libraries.Agreement
import HostPreflight.Proofs.Program.ExitCode
import HostPreflight.Proofs.Program.Libraries

/-!
# Empty installation roots

The settings leave out an installation root that is empty, as if the environment named none.
That never takes effect, because the command line is read first: its reader refuses an empty
root in the environment, unless an argument gives a root.  So an empty root and none lead to
the same runs for command lines that are refused anyway or give a root, and on no machine for
any other.

The same run is not always the same outcome: the programs that are started inherit the
environment, and may tell an empty root from none.

## Main definitions

* `outcomeOn world environment arguments s` — the outcome of a run on a machine.
* `EmptyRoot arguments` — what an empty root in the environment does to a command line.

## Main statements

* `emptyRoot` — what an empty root does to every command line.
* `emptyRoot_refused` — a command line for libraries, which an empty root keeps from running.
-/

namespace HostPreflight

open CommandLine Dialogue Text

/-- The outcome of a run on a machine that may change while it is asked. -/
def outcomeOn {σ : Type} (world : (request : Request) → StateM σ request.Answer)
    (environment : Option String) (arguments : List String) (s : σ) : Outcome :=
  ((carry world (program environment arguments)).run s).1.result

/-- A command line is accepted when the environment names no root, and it gives none. -/
def IsRootless (arguments : List String) : Prop :=
  (∃ options, Options.parse none arguments = .ok options) ∧
    ∀ path, ¬ IsGivenAs arguments "rte-sdk" path

/-- What an empty root in the environment does to the runs with a command line. -/
structure EmptyRoot (arguments : List String) : Prop where
  /-- Other command lines are run as if the environment named no root. -/
  same : ¬ IsRootless arguments → program (some "") arguments = program none arguments ∧
    verbosity (some "") arguments = verbosity none arguments
  /-- These are refused, and nothing is asked of the machine. -/
  refused : IsRootless arguments →
    program (some "") arguments = return refusalOutcome .invalidValue
  /-- Without a root in the environment they are carried out on every machine. -/
  carriedOut : IsRootless arguments →
    ∀ {σ : Type} (world : (request : Request) → StateM σ request.Answer) (s : σ),
      (outcomeOn world none arguments s).IsCarriedOut
  /-- So the outcomes differ, whatever the two machines are. -/
  outcome_ne : IsRootless arguments →
    ∀ {σ σ' : Type} (unset : (request : Request) → StateM σ request.Answer)
      (empty : (request : Request) → StateM σ' request.Answer) (s : σ) (s' : σ'),
      outcomeOn empty (some "") arguments s' ≠ outcomeOn unset none arguments s
  /-- The outcomes are the same for other command lines only, on machines that do the same for
  all that is asked without a root in the environment. -/
  outcome_eq_iff : ∀ {σ : Type} (unset empty : (request : Request) → StateM σ request.Answer)
    (s : σ), Alike unset empty s ((carry unset (program none arguments)).run s).1.questions →
      (outcomeOn empty (some "") arguments s = outcomeOn unset none arguments s ↔
        ¬ IsRootless arguments)
  /-- No empty root is left for the settings to leave out. -/
  proper : ∀ environment options, Options.parse environment arguments = .ok options →
    options.rteSdk.filter (fun root => !root.isEmpty) = options.rteSdk

variable {arguments : List String}

/-- A command line that does not lack a root is read as if the environment named none. -/
theorem parse_empty_of_not_isRootless (other : ¬ IsRootless arguments) :
    Options.parse (some "") arguments = Options.parse none arguments := by
  cases accepted : Options.parse none arguments with
  | error refusal => exact Options.parse_of_refused accepted (some "")
  | ok options =>
    have given : ∃ path, IsGivenAs arguments "rte-sdk" path := by
      simpa [IsRootless, accepted] using other
    obtain ⟨path, given⟩ := given
    rw [Options.parse_of_given given (some ""), accepted]

section Rootless

variable {σ σ' : Type} (unset : (request : Request) → StateM σ request.Answer)
  (empty : (request : Request) → StateM σ' request.Answer) (s : σ) (s' : σ')

/-- A command line that lacks a root is refused if the root is empty. -/
theorem program_empty_of_isRootless (rootless : IsRootless arguments) :
    program (some "") arguments = return refusalOutcome .invalidValue := by
  obtain ⟨⟨options, accepted⟩, ungiven⟩ := rootless
  simp [program, Options.parse_of_ungiven accepted ungiven]

/-- It is carried out if the environment names no root. -/
theorem isCarriedOut_of_isRootless (rootless : IsRootless arguments) :
    (outcomeOn unset none arguments s).IsCarriedOut := by
  obtain ⟨⟨options, accepted⟩, -⟩ := rootless
  rw [outcomeOn, program, accepted]
  exact (ends_perform options).carry unset s

/-- The two outcomes have different exit codes. -/
theorem outcomeOn_ne_of_isRootless (rootless : IsRootless arguments) :
    outcomeOn empty (some "") arguments s' ≠ outcomeOn unset none arguments s := by
  intro equal
  have rejected : (outcomeOn empty (some "") arguments s').exitCode = 2 := by
    rw [outcomeOn, program_empty_of_isRootless rootless]
    rfl
  rw [equal] at rejected
  rcases isCarriedOut_of_isRootless unset s rootless with success | failure
  · exact absurd (success.symm.trans rejected) (by decide)
  · exact absurd (failure.symm.trans rejected) (by decide)

end Rootless

/-- **An empty root in the environment** makes no difference, or keeps the command line from
running: the latter if it is accepted and gives no root. -/
theorem emptyRoot (arguments : List String) : EmptyRoot arguments := by
  have same (other : ¬ IsRootless arguments) :
      program (some "") arguments = program none arguments := by
    rw [program, program, parse_empty_of_not_isRootless other]
  constructor
  case same =>
    intro other
    exact ⟨same other, by rw [verbosity, verbosity, parse_empty_of_not_isRootless other]⟩
  case refused => exact program_empty_of_isRootless
  case carriedOut =>
    intro rootless σ world s
    exact isCarriedOut_of_isRootless world s rootless
  case outcome_ne =>
    intro rootless σ σ' unset empty s s'
    exact outcomeOn_ne_of_isRootless unset empty s s' rootless
  case outcome_eq_iff =>
    intro σ unset empty s alike
    constructor
    · intro equal rootless
      exact outcomeOn_ne_of_isRootless unset empty s s rootless equal
    · intro other
      have run := run_carry_congr (program none arguments) alike
      rw [outcomeOn, outcomeOn, same other, run]
  case proper =>
    intro environment options accepted
    exact filter_root fun root named empty => Options.rteSdk_ne_empty accepted (empty ▸ named)

/-- A run that is the same for an empty root and for none has different outcomes if the package
database can tell the two apart. -/
example :
    let outcome := fun (environment : Option String) (line : String) =>
      (hold (outputAnswer (Utf8.encode line.toList))
        (program environment ["--rte-sdk", "/opt/dpdk", "libs", "--pkg-config"])).result
    outcome (some "") "-lrte_eal" = outcome none "-lrte_eal" ∧
      outcome (some "") "-lrte_net" ≠ outcome none "-lrte_eal" := by
  decide +kernel

/-- A library directory is given and holds a library.  Without a root in the environment the
library is printed; with an empty one the command line is refused. -/
theorem emptyRoot_refused :
    let outcome := fun environment : Option String =>
      (hold (directoryAnswer "lib" [Utf8.encode "librte_eal.so".toList])
        (program environment ["libs", "--lib-dir", "lib"])).result
    outcome none = ⟨0, Utf8.encode "-lrte_eal\n".toList, []⟩ ∧ (outcome (some "")).exitCode = 2 := by
  decide +kernel

end HostPreflight
