import HostPreflight.Device
import HostPreflight.Finding
import HostPreflight.Json.Number
import HostPreflight.Json.Parser
import HostPreflight.Json.Printer

/-!
# Reports

What one run of the checks has learned about a host.  The report grows check by
check, and its JSON form is what other programs read.

## Main definitions

* `Status` — whether every hard requirement holds.
* `Report` — the outcome of a run.
* `Report.equal` — equality, where the memory figures are compared as numbers.
* `Report.jsonText`, `Report.ofJsonText?` — the report as JSON text and back.
-/

namespace HostPreflight

/-- Whether every hard requirement holds. -/
inductive Status where
  | passed
  | failed
  deriving DecidableEq, Repr

namespace Status

/-- The name of a status in reports. -/
def name : Status → String
  | .passed => "passed"
  | .failed => "failed"

/-- The name of a status in logs. -/
def title : Status → String
  | .passed => "Passed"
  | .failed => "Failed"

/-- The statuses by name. -/
def named : List (String × Status) :=
  [.passed, .failed].map fun status => (status.name, status)

/-- A status is found by its name. -/
@[simp] theorem lookup_name (status : Status) : named.lookup status.name = some status := by
  cases status <;> decide

/-- The exit code of a process with this outcome. -/
def exitCode : Status → UInt8
  | .passed => 0
  | .failed => 1

/-- The JSON value of a status. -/
def toJson (status : Status) : Json := .text status.name

/-- Reads a status. -/
def ofJson? : Json → Option Status := Json.enumeration? named

end Status

/-- What one run has learned. -/
structure Report where
  status : Status
  /-- Whether simultaneous multithreading is on, if the topology was available. -/
  hyperthreading : Option Bool
  /-- The number of logical processors, if it was asked for. -/
  cores : Option UInt64
  /-- The free memory in decimal gigabytes, if it was learned. -/
  freeMemoryGb : Option Double
  /-- The devices, if they were asked for. -/
  devices : Option DeviceReport
  findings : Findings
  deriving DecidableEq

namespace Report

/-- The report of a run that has not made any check yet. -/
def start : Report where
  status := .passed
  hyperthreading := none
  cores := none
  freeMemoryGb := none
  devices := none
  findings := []

/-- Whether the run passed. -/
def isSuccess (report : Report) : Bool := report.status == .passed

/-- The exit code of a process with this report. -/
def exitCode (report : Report) : UInt8 := report.status.exitCode

/-- Equality of optional memory figures as numbers. -/
def sameFigure : Option Double → Option Double → Bool
  | none, none => true
  | some x, some y => x.equal y
  | _, _ => false

/-- Equality of reports, where the memory figures are compared as numbers. -/
def equal (a b : Report) : Bool :=
  a.status == b.status && a.hyperthreading == b.hyperthreading && a.cores == b.cores
    && sameFigure a.freeMemoryGb b.freeMemoryGb && a.devices == b.devices
    && a.findings == b.findings

/-- The JSON value of a report. -/
def toJson (report : Report) : Json :=
  .record [
    ("status", report.status.toJson),
    ("hyperthreading", .ofOption .bool report.hyperthreading),
    ("cores", .ofOption (fun n => .count n.toNat) report.cores),
    ("free_memory_gb", .ofOption .ofDouble report.freeMemoryGb),
    ("devices", .ofOption DeviceReport.toJson report.devices),
    ("diagnostics", report.findings.toJson)]

/-- The names of the fields in JSON. -/
def fieldNames : List String :=
  ["status", "hyperthreading", "cores", "free_memory_gb", "devices", "diagnostics"]

/-- Reads a report. -/
def ofJson? (v : Json) : Option Report := do
  match ← v.fields? fieldNames with
  | [status, hyperthreading, cores, memory, devices, findings] =>
    return {
      status := ← Json.required Status.ofJson? status
      hyperthreading := ← Json.optional Json.bool? hyperthreading
      cores := ← Json.optional Json.word64? cores
      freeMemoryGb := ← Json.optional Json.double? memory
      devices := ← Json.optional DeviceReport.ofJson? devices
      findings := ← Json.required Findings.ofJson? findings }
  | _ => none

/-- The report as JSON text. -/
def jsonText (report : Report) : String := report.toJson.pretty

/-- Reads a report from JSON text. -/
def ofJsonText? (text : String) : Option Report := (Json.parse? text).bind ofJson?

end Report

end HostPreflight
