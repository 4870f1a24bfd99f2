import HostPreflight.Json.Record

/-!
# Findings

What the checks have to say about a host.  A finding belongs to a check, has a
severity and a message; the findings of a run are a list in the order in which
they were made.

## Main definitions

* `Check` — the four checks.
* `Severity` — how grave a finding is, in increasing order.
* `Finding` — one statement about the host.
* `Findings` — a list of findings, with selections and the gravest severity.
-/

namespace HostPreflight

/-- The checks, in the order in which they are made. -/
inductive Check where
  | hyperthreading
  | cores
  | memory
  | devices
  deriving DecidableEq, Repr

namespace Check

/-- The name of a check in logs and reports. -/
def name : Check → String
  | .hyperthreading => "hyperthreading"
  | .cores => "cores"
  | .memory => "memory"
  | .devices => "devices"

/-- The checks by name. -/
def named : List (String × Check) :=
  [.hyperthreading, .cores, .memory, .devices].map fun check => (check.name, check)

/-- A check is found by its name. -/
@[simp] theorem lookup_name (check : Check) : named.lookup check.name = some check := by
  cases check <;> decide

/-- The JSON value of a check. -/
def toJson (check : Check) : Json := .text check.name

/-- Reads a check. -/
def ofJson? : Json → Option Check := Json.enumeration? named

end Check

/-- How grave a finding is. -/
inductive Severity where
  | info
  | warning
  | error
  deriving DecidableEq, Repr

namespace Severity

/-- The name of a severity in reports. -/
def name : Severity → String
  | .info => "info"
  | .warning => "warning"
  | .error => "error"

/-- The name of a severity in logs. -/
def title : Severity → String
  | .info => "Info"
  | .warning => "Warning"
  | .error => "Error"

/-- The severities by name. -/
def named : List (String × Severity) :=
  [.info, .warning, .error].map fun severity => (severity.name, severity)

/-- A severity is found by its name. -/
@[simp] theorem lookup_name (severity : Severity) :
    named.lookup severity.name = some severity := by
  cases severity <;> decide

/-- The place of a severity in the order. -/
def rank : Severity → Nat
  | .info => 0
  | .warning => 1
  | .error => 2

instance : LE Severity := ⟨fun a b => a.rank ≤ b.rank⟩

instance : DecidableLE Severity := fun a b => inferInstanceAs (Decidable (a.rank ≤ b.rank))

instance : Max Severity := maxOfLe

/-- Whether a finding of this severity points at a problem. -/
def isDiagnostic : Severity → Bool
  | .info => false
  | _ => true

/-- The JSON value of a severity. -/
def toJson (severity : Severity) : Json := .text severity.name

/-- Reads a severity. -/
def ofJson? : Json → Option Severity := Json.enumeration? named

end Severity

/-- One statement about the host. -/
structure Finding where
  check : Check
  severity : Severity
  message : String
  deriving DecidableEq, Repr

namespace Finding

/-- A finding that states a fact. -/
def info (check : Check) (message : String) : Finding := ⟨check, .info, message⟩

/-- A finding that advises. -/
def warning (check : Check) (message : String) : Finding := ⟨check, .warning, message⟩

/-- A finding that objects. -/
def error (check : Check) (message : String) : Finding := ⟨check, .error, message⟩

/-- The JSON value of a finding. -/
def toJson (finding : Finding) : Json :=
  .record [
    ("check", finding.check.toJson),
    ("severity", finding.severity.toJson),
    ("message", .text finding.message)]

/-- Reads a finding. -/
def ofJson? (v : Json) : Option Finding := do
  match ← v.fields? ["check", "severity", "message"] with
  | [check, severity, message] =>
    return {
      check := ← Json.required Check.ofJson? check
      severity := ← Json.required Severity.ofJson? severity
      message := ← Json.required Json.text? message }
  | _ => none

end Finding

/-- Findings in the order in which they were made. -/
abbrev Findings := List Finding

namespace Findings

/-- The findings of one severity. -/
def withSeverity (severity : Severity) (findings : Findings) : Findings :=
  findings.filter fun finding => finding.severity == severity

/-- The findings of one check. -/
def forCheck (check : Check) (findings : Findings) : Findings :=
  findings.filter fun finding => finding.check == check

/-- The gravest severity, if there is a finding. -/
def maxSeverity? (findings : Findings) : Option Severity :=
  (findings.map Finding.severity).max?

/-- The JSON value of a list of findings. -/
def toJson (findings : Findings) : Json := .array (findings.map Finding.toJson)

/-- Reads a list of findings. -/
def ofJson? (v : Json) : Option Findings := v.list? Finding.ofJson?

end Findings

end HostPreflight
