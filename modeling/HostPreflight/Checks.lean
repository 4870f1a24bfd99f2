import HostPreflight.Dialogue
import HostPreflight.Double.Layout
import HostPreflight.Memory
import HostPreflight.Settings
import HostPreflight.Source
import HostPreflight.Topology

/-!
# The checks

The checks are made in a fixed order: simultaneous multithreading, number of
cores, free memory, devices.  The first one only advises; each of the others may
fail the report, and then no later check is made and its question is not asked.

A check consists of a pure part, which turns an answer into findings, and a
dialogue, which asks for the answer and notes what was found.

## Main definitions

* `HostDialogue` — dialogues over the questions to a host.
* `hyperthreadingFindings`, `coresFindings`, `memoryFindings`, `deviceFindings`
  — what the checks have to say.
* `checkHyperthreading`, `checkCores`, `checkMemory`, `checkDevices` — the checks.
* `runChecks settings` — all of them; `Source.report` is its report.
-/

namespace HostPreflight

/-- Dialogues over the questions to a host. -/
abbrev HostDialogue := Dialogue Query.Answer

open Dialogue

/-- Adds findings to a report and notes them in the log. -/
def Report.add (report : Report) (findings : Findings) : HostDialogue Report := do
  logAll (findings.map .found)
  return { report with findings := report.findings ++ findings }

/-- The report after a hard requirement has failed. -/
def Report.halt (report : Report) : Report := { report with status := .failed }

/-! ## Simultaneous multithreading -/

/-- How to turn sibling threads off. -/
def hyperthreadingHint : String := "Run: \x60sudo ./no_hyperthread.sh\x60"

/-- What is said about simultaneous multithreading. -/
def hyperthreadingFindings (enabled : Bool) : Findings :=
  if enabled then
    [.warning .hyperthreading "disable hyperthreading",
      .warning .hyperthreading hyperthreadingHint]
  else []

/-- What is said when the listing is unavailable. -/
def noTopologyFinding (failure : Failure) : Finding :=
  .warning .hyperthreading ("could not read CPU topology: " ++ failure.message)

/-- What is noted while a listing is read. -/
def topologyEvents (listing : String) : List Event :=
  (CpuTopology.skippedLines listing).map .skippedTopologyLine

/-- Advises to turn sibling threads off. -/
def checkHyperthreading (report : Report) : HostDialogue Report := do
  match ← query Query.cpuTopology with
  | .error failure => report.add [noTopologyFinding failure]
  | .ok listing =>
    logAll (topologyEvents listing)
    let enabled := (CpuTopology.ofListing listing).hyperthreading
    Report.add { report with hyperthreading := some enabled } (hyperthreadingFindings enabled)

/-! ## Cores -/

/-- What is said about a number of cores. -/
def coresFindings (least cores : UInt64) : Findings :=
  if cores < least then
    [.error .cores ("Too few cores: found " ++ Decimal.text cores.toNat ++ ", need at least "
      ++ Decimal.text least.toNat)]
  else [.info .cores ("sockets found: " ++ Decimal.text cores.toNat)]

/-- Requires a number of logical processors. -/
def checkCores (settings : Settings) (report : Report) : HostDialogue Report := do
  let cores ← query Query.logicalCores
  let report ←
    Report.add { report with cores := some cores } (coresFindings settings.minCores cores)
  return if cores < settings.minCores then report.halt else report

/-! ## Memory -/

/-- What is said about an amount of free memory. -/
def memoryFindings (least : Double) (memory : FreeMemory) : Findings :=
  .info .memory ("memory found: " ++ memory.gigabytes.text ++ " gb") ::
    if memory.meets least then []
    else
      [.error .memory ("Should have at least " ++ least.text ++ " gb of free memory (found "
        ++ memory.gigabytes.text ++ " gb)")]

/-- What is said when the free memory cannot be learned. -/
def noMemoryFinding (failure : Failure) : Finding :=
  .error .memory ("could not determine free memory: " ++ failure.message)

/-- The free memory that an answer tells. -/
def freeMemory (answer : Except Failure String) : Except Failure FreeMemory :=
  answer.bind fun table => (FreeMemory.ofMeminfo table).mapError MeminfoFault.failure

/-- Requires an amount of free memory. -/
def checkMemory (settings : Settings) (report : Report) : HostDialogue Report := do
  match freeMemory (← query Query.meminfo) with
  | .error failure =>
    let report ← report.add [noMemoryFinding failure]
    return report.halt
  | .ok memory =>
    let report ← Report.add { report with freeMemoryGb := some memory.gigabytes }
      (memoryFindings settings.minFreeMemoryGb memory)
    return if memory.meets settings.minFreeMemoryGb then report else report.halt

/-! ## Devices -/

/-- A device in apostrophes. -/
def cardText (id : String) : List Char := '\x27' :: id.toList ++ ['\x27']

/-- A list of devices in brackets. -/
def cardList (ids : List String) : String :=
  String.ofList ('[' :: [',', ' '].intercalate (ids.map cardText) ++ [']'])

/-- What is said about the devices. -/
def deviceFindings (devices : DeviceReport) : Findings :=
  match devices.primary.isEmpty, devices.backup.isEmpty with
  | false, false => [
      .info .devices ("Primary cards: " ++ cardList devices.primary),
      .info .devices ("Backup cards: " ++ cardList devices.backup)]
  | false, true => [
      .info .devices ("Primary cards: " ++ cardList devices.primary),
      .warning .devices "no backup cards found"]
  | true, false => [
      .error .devices "primary devs not found",
      .info .devices ("Backup cards: " ++ cardList devices.backup)]
  | true, true => [.error .devices "no suitable eth cards found"]

/-- What is said when the status report is unavailable. -/
def noStatusFinding (failure : Failure) : Finding :=
  .error .devices ("device status unavailable: " ++ failure.message)

/-- What is noted while a status report is read. -/
def deviceEvents (status : String) : List Event :=
  (match DeviceReport.activeIndex? status with
    | some index => .activeIndex index
    | none => .noActiveDevice)
    :: (DeviceReport.skippedLines status).map .skippedDeviceLine

/-- Adds what is said about the devices, and fails the report if there are none. -/
def addDevices (devices : DeviceReport) (report : Report) : HostDialogue Report := do
  let report ← Report.add { report with devices := some devices } (deviceFindings devices)
  return if devices.isEmpty then report.halt else report

/-- Requires a device that the dataplane can use. -/
def checkDevices (report : Report) : HostDialogue Report := do
  match ← query Query.devbindStatus with
  | .error failure =>
    let report ← report.add [noStatusFinding failure]
    addDevices .empty report
  | .ok status =>
    logAll (deviceEvents status)
    addDevices (.ofStatus status) report

/-! ## All checks -/

/-- Goes on with a check unless the report has failed. -/
def unlessFailed (check : Report → HostDialogue Report) (report : Report) : HostDialogue Report :=
  if report.isSuccess then check report else return report

/-- Notes the end of the checks. -/
def finish (report : Report) : HostDialogue Report := do
  log (.finished report.status report.findings.length)
  return report

/-- All checks in order. -/
def runChecks (settings : Settings) : HostDialogue Report := do
  let report ← checkHyperthreading .start
  let report ← checkCores settings report
  let report ← unlessFailed (checkMemory settings) report
  let report ← unlessFailed checkDevices report
  finish report

namespace Source

/-- What a run of the checks against a source shows. -/
def transcript (source : Source) (settings : Settings) : Transcript Query Report :=
  hold source (runChecks settings)

/-- The report of a run of the checks against a source. -/
def report (source : Source) (settings : Settings) : Report := (source.transcript settings).result

end Source

end HostPreflight
