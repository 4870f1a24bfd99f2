import HostPreflight.Decimal.Digits
import HostPreflight.Json.Record
import HostPreflight.Text.Fields

/-!
# Host summary

A few facts that identify the host, printed ahead of the findings so that a
saved output can be traced back to the host it came from.

## Main definitions

* `HostSummary` — the facts; `HostSummary.text` is their printed form.
* `HostSummary.ofTables` — takes them from the kernel's tables.
-/

namespace HostPreflight

open Text

/-- What identifies a host. -/
structure HostSummary where
  hostname : String
  cpuModel : String
  cpuVendor : String
  physicalCores : UInt64
  /-- The version of the kernel, if known. -/
  kernel : Option String
  arch : String
  deriving DecidableEq, Repr

namespace HostSummary

/-- The printed form: a headline, the facts, and an empty line. -/
def text (summary : HostSummary) : String :=
  "=== Host ===\n"
    ++ "  Hostname: " ++ summary.hostname ++ "\n"
    ++ "  CPU: " ++ summary.cpuModel ++ " (" ++ summary.cpuVendor ++ ")\n"
    ++ "  Physical cores: " ++ Decimal.text summary.physicalCores.toNat ++ "\n"
    ++ "  Architecture: " ++ summary.arch ++ "\n"
    ++ (match summary.kernel with
        | none => ""
        | some kernel => "  Kernel: " ++ kernel ++ "\n")
    ++ "\n"

/-- The JSON value of a summary. -/
def toJson (summary : HostSummary) : Json :=
  .record [
    ("hostname", .text summary.hostname),
    ("cpu_model", .text summary.cpuModel),
    ("cpu_vendor", .text summary.cpuVendor),
    ("physical_cores", .count summary.physicalCores.toNat),
    ("kernel", .ofOption .text summary.kernel),
    ("arch", .text summary.arch)]

/-- Reads a summary. -/
def ofJson? (v : Json) : Option HostSummary := do
  match ← v.fields? ["hostname", "cpu_model", "cpu_vendor", "physical_cores", "kernel", "arch"] with
  | [hostname, model, vendor, cores, kernel, arch] =>
    return {
      hostname := ← Json.required Json.text? hostname
      cpuModel := ← Json.required Json.text? model
      cpuVendor := ← Json.required Json.text? vendor
      physicalCores := ← Json.required Json.word64? cores
      kernel := ← Json.optional Json.text? kernel
      arch := ← Json.required Json.text? arch }
  | _ => none

/-! ## The kernel's tables -/

/-- The values of a key in a table of lines `key : value`. -/
def valuesOf (key : String) (table : String) : List (List Char) :=
  (lines table.toList).filterMap fun line =>
    match fields (· == ':') line with
    | name :: value :: _ => if trim name = key.toList then some (trim value) else none
    | _ => none

/-- The number of processors that a processor table lists. -/
def processors (table : String) : UInt64 :=
  UInt64.ofNat (valuesOf "processor" table).length

/-- Takes the summary from the kernel's host name, release and processor table. -/
def ofTables (hostname release : Option String) (table : String) : HostSummary :=
  let first (key : String) : String :=
    String.ofList ((valuesOf key table).head?.getD "Unknown".toList)
  let cores := ((valuesOf "physical id" table).zip (valuesOf "core id" table)).eraseDups
  { hostname := (hostname.map fun name => String.ofList (trim name.toList)).getD "localhost"
    cpuModel := first "model name"
    cpuVendor := first "vendor_id"
    physicalCores := if cores.isEmpty then processors table else UInt64.ofNat cores.length
    kernel := release.map fun name => String.ofList (trim name.toList)
    arch := "x86_64" }

end HostSummary

end HostPreflight
