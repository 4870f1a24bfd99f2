import HostPreflight.Failure.Basic

/-!
# Sources

The four questions that the checks put to a host, and the sources that answer
them.  A source may be the live machine or a fixture with canned answers.

## Main definitions

* `Query` — the questions; `Query.Answer` — the types of their answers.
* `Source` — an answer to each question.
* `Fixture` — canned answers; `Fixture.source` — the source that gives them.
-/

namespace HostPreflight

/-- A question to a host. -/
inductive Query where
  /-- The parseable listing of the processors. -/
  | cpuTopology
  /-- The number of logical processors. -/
  | logicalCores
  /-- The kernel's memory table. -/
  | meminfo
  /-- The status report of the device binding utility. -/
  | devbindStatus
  deriving DecidableEq, Repr

/-- The answers to a question: every text may be unavailable. -/
@[reducible] def Query.Answer : Query → Type
  | .cpuTopology => Except Failure String
  | .logicalCores => UInt64
  | .meminfo => Except Failure String
  | .devbindStatus => Except Failure String

/-- An answer to each question. -/
abbrev Source := (query : Query) → query.Answer

/-- Canned answers; an absent text is one that is unavailable. -/
structure Fixture where
  topology : Option String
  cores : UInt64
  meminfo : Option String
  devbind : Option String
  deriving DecidableEq, Repr

namespace Fixture

/-- A host that tells nothing. -/
def blank : Fixture := ⟨none, 0, none, none⟩

/-- A host with four cores, no sibling threads, 8 GB of free memory, and devices
for both uses. -/
def healthy : Fixture where
  topology := some "0,0\n1,1\n2,2\n3,3\n"
  cores := 4
  meminfo := some "MemTotal: 16000000 kB\nMemFree: 8000000 kB\n"
  devbind := some (
    "0000:01:00.0 'NIC' if=eno1 drv=ixgbe *Active*\n"
      ++ "0000:01:00.1 'NIC' if=eno2 drv=ixgbe\n"
      ++ "0000:02:00.0 'NIC' if=ens2f0 drv=i40e\n")

/-- Why a fixture has no processor listing. -/
def topologyFailure : Failure := .commandFailed "lscpu -p" "not available"

/-- Why a fixture has no memory table. -/
def meminfoFailure : Failure := .notFound "/proc/meminfo"

/-- Why a fixture has no status report. -/
def devbindFailure : Failure := .missingVariable "RTE_SDK"

/-- A text, or the failure that explains its absence. -/
def orFailure (text : Option String) (failure : Failure) : Except Failure String :=
  match text with
  | some text => .ok text
  | none => .error failure

/-- The source that gives the canned answers. -/
def source (fixture : Fixture) : Source
  | .cpuTopology => orFailure fixture.topology topologyFailure
  | .logicalCores => fixture.cores
  | .meminfo => orFailure fixture.meminfo meminfoFailure
  | .devbindStatus => orFailure fixture.devbind devbindFailure

end Fixture

end HostPreflight
