import HostPreflight.Checks

/-!
# The course of a run

A run of the checks ends in one of four ways: too few cores, no memory figure, too
little memory, or a look at the devices.  Which one it is depends only on the
answers, and it determines everything else that the run shows.

## Main definitions

* `Course` — how far a run gets; `Source.course` — the course of a run.
* `Source.Follows` — which answers lead to which course.
* `Course.status`, `Course.questions`, … — what a course means for the run.
* `Source.outcome`, `Source.log` — the report and the events of a run, read off its course.

## Main statements

* `follows_course` — the cases of a run; every proof about runs splits along them.
* `hold_add`, `hold_checkHyperthreading`, `hold_checkCores`, … — what each check does.
* `transcript_eq` — a run shows what its course says.
* `report_eq` — the report of a run, field by field.
-/

namespace HostPreflight

open Dialogue

/-! ## Answers -/

/-- What the processor listing tells, if it is available. -/
def topologyVerdict : Except Failure String → Option Bool
  | .ok listing => some (CpuTopology.ofListing listing).hyperthreading
  | .error _ => none

/-- What is said about the processor listing. -/
def topologyFindings : Except Failure String → Findings
  | .ok listing => hyperthreadingFindings (CpuTopology.ofListing listing).hyperthreading
  | .error failure => [noTopologyFinding failure]

/-- What is noted while the processor listing is read. -/
def listingEvents : Except Failure String → List Event
  | .ok listing => topologyEvents listing
  | .error _ => []

/-- The devices that an answer tells: none if the status report is unavailable. -/
def devicesOf : Except Failure String → DeviceReport
  | .ok status => .ofStatus status
  | .error _ => .empty

/-- What is said when a status report is unavailable. -/
def unavailableFindings : Except Failure String → Findings
  | .ok _ => []
  | .error failure => [noStatusFinding failure]

/-- What is noted while the status report is read. -/
def statusEvents : Except Failure String → List Event
  | .ok status => deviceEvents status
  | .error _ => []

/-! ## Courses -/

/-- How far a run gets. -/
inductive Course where
  /-- The cores do not suffice. -/
  | fewCores
  /-- The free memory cannot be learned. -/
  | noMemory (failure : Failure)
  /-- The free memory does not suffice. -/
  | littleMemory (memory : FreeMemory)
  /-- Cores and memory suffice, and the status report is asked for. -/
  | complete (memory : FreeMemory) (answer : Except Failure String)

/-- The course of a run: the first hard requirement that fails ends it. -/
def Source.course (source : Source) (settings : Settings) : Course :=
  if source .logicalCores < settings.minCores then .fewCores
  else
    match freeMemory (source .meminfo) with
    | .error failure => .noMemory failure
    | .ok memory =>
      if memory.meets settings.minFreeMemoryGb then .complete memory (source .devbindStatus)
      else .littleMemory memory

/-- Which answers lead to which course. -/
inductive Source.Follows (source : Source) (settings : Settings) : Course → Prop where
  | fewCores (few : source .logicalCores < settings.minCores) : Follows source settings .fewCores
  | noMemory {failure : Failure} (cores : settings.minCores ≤ source .logicalCores)
      (unknown : freeMemory (source .meminfo) = .error failure) :
      Follows source settings (.noMemory failure)
  | littleMemory {memory : FreeMemory} (cores : settings.minCores ≤ source .logicalCores)
      (known : freeMemory (source .meminfo) = .ok memory)
      (little : memory.meets settings.minFreeMemoryGb = false) :
      Follows source settings (.littleMemory memory)
  | complete {memory : FreeMemory} (cores : settings.minCores ≤ source .logicalCores)
      (known : freeMemory (source .meminfo) = .ok memory)
      (enough : memory.meets settings.minFreeMemoryGb = true) :
      Follows source settings (.complete memory (source .devbindStatus))

/-- A run follows its course. -/
theorem Source.follows_course (source : Source) (settings : Settings) :
    source.Follows settings (source.course settings) := by
  unfold Source.course
  by_cases few : source .logicalCores < settings.minCores
  · rw [if_pos few]
    exact .fewCores few
  · have cores := UInt64.not_lt.1 few
    rw [if_neg few]
    cases known : freeMemory (source .meminfo) with
    | error failure => exact .noMemory cores known
    | ok memory =>
      by_cases enough : memory.meets settings.minFreeMemoryGb
      · simpa [enough] using Follows.complete cores known enough
      · simpa [enough] using Follows.littleMemory cores known (by simpa using enough)

namespace Course

/-- The memory that a run learns. -/
@[simp] def memory? : Course → Option FreeMemory
  | .fewCores | .noMemory _ => none
  | .littleMemory memory | .complete memory _ => some memory

/-- The devices that a run looks at. -/
@[simp] def devices? : Course → Option DeviceReport
  | .complete _ answer => some (devicesOf answer)
  | _ => none

/-- The check that ends a run before its time or fails as the last one. -/
@[simp] def haltedBy? : Course → Option Check
  | .fewCores => some .cores
  | .noMemory _ | .littleMemory _ => some .memory
  | .complete _ answer => if (devicesOf answer).isEmpty then some .devices else none

/-- The outcome of a run. -/
@[simp] def status (course : Course) : Status :=
  if course.haltedBy?.isSome then .failed else .passed

/-- A run passes exactly if no check halts it. -/
theorem status_eq_passed_iff (course : Course) :
    course.status = .passed ↔ course.haltedBy? = none := by
  unfold status
  cases course.haltedBy? <;> simp

/-- A run fails exactly if some check halts it. -/
theorem status_eq_failed_iff (course : Course) :
    course.status = .failed ↔ ∃ check, course.haltedBy? = some check := by
  unfold status
  cases course.haltedBy? <;> simp

/-- What a run says about the memory; `least` is the threshold. -/
@[simp] def memoryFindings (least : Double) : Course → Findings
  | .fewCores => []
  | .noMemory failure => [noMemoryFinding failure]
  | .littleMemory memory | .complete memory _ => HostPreflight.memoryFindings least memory

/-- What a run says about the devices. -/
@[simp] def deviceFindings : Course → Findings
  | .complete _ answer =>
    unavailableFindings answer ++ HostPreflight.deviceFindings (devicesOf answer)
  | _ => []

/-- What a run notes while it reads the status report. -/
@[simp] def statusEvents : Course → List Event
  | .complete _ answer => HostPreflight.statusEvents answer
  | _ => []

/-- The questions of a run. -/
@[simp] def questions : Course → List Query
  | .fewCores => [.cpuTopology, .logicalCores]
  | .noMemory _ | .littleMemory _ => [.cpuTopology, .logicalCores, .meminfo]
  | .complete .. => [.cpuTopology, .logicalCores, .meminfo, .devbindStatus]

end Course

namespace Source

variable (source : Source) (settings : Settings)

/-- What a run says before it asks for the memory table. -/
def openingFindings : Findings :=
  topologyFindings (source .cpuTopology) ++ coresFindings settings.minCores (source .logicalCores)

/-- What a run says after that. -/
def closingFindings : Findings :=
  (source.course settings).memoryFindings settings.minFreeMemoryGb
    ++ (source.course settings).deviceFindings

/-- What a run says. -/
def allFindings : Findings := source.openingFindings settings ++ source.closingFindings settings

end Source

/-! ## What each check does -/

namespace Dialogue

variable {Question : Type} {Answer : Question → Type}
  (answer : (question : Question) → Answer question)

/-- Notes show in order, and nothing else happens. -/
@[simp] theorem hold_logAll (events : List Event) :
    hold answer (logAll events) = ⟨(), events, []⟩ := by
  induction events with
  | nil => rfl
  | cons event events ih =>
    have first : (logAll (event :: events) : Dialogue Answer Unit) =
        note event (logAll events) := rfl
    rw [first, hold_note, ih]

@[simp] theorem hold_query (question : Question) :
    hold answer (query question) = ⟨answer question, [], [question]⟩ := rfl

end Dialogue

namespace Source

variable (source : Source) (settings : Settings) (report : Report)

/-- Findings are appended to the report and noted one by one. -/
@[simp] theorem hold_add (findings : Findings) :
    hold source (report.add findings) =
      ⟨{ report with findings := report.findings ++ findings }, findings.map .found, []⟩ := by
  simp [Report.add, hold_bind]

/-- The first check keeps the status as it is, whatever the listing tells. -/
theorem hold_checkHyperthreading :
    hold source (checkHyperthreading .start) =
      ⟨{ Report.start with
          hyperthreading := topologyVerdict (source .cpuTopology)
          findings := topologyFindings (source .cpuTopology) },
        listingEvents (source .cpuTopology)
          ++ (topologyFindings (source .cpuTopology)).map .found,
        [.cpuTopology]⟩ := by
  rw [checkHyperthreading, hold_bind, hold_query]
  cases source .cpuTopology with
  | error failure => simp [topologyVerdict, topologyFindings, listingEvents, Report.start]
  | ok listing =>
    simp [hold_bind, topologyVerdict, topologyFindings, listingEvents, Report.start]

/-- The second check sets the number of cores. -/
theorem hold_checkCores :
    hold source (checkCores settings report) =
      ⟨{ report with
          status := if source .logicalCores < settings.minCores then .failed else report.status
          cores := some (source .logicalCores)
          findings := report.findings ++ coresFindings settings.minCores (source .logicalCores) },
        (coresFindings settings.minCores (source .logicalCores)).map .found,
        [.logicalCores]⟩ := by
  simp only [checkCores, hold_bind, hold_query, hold_add]
  by_cases few : source .logicalCores < settings.minCores
  · simp [few, Report.halt]
  · simp [few]

/-- Without a memory figure the third check fails the report. -/
theorem hold_checkMemory_of_error {failure : Failure}
    (h : freeMemory (source .meminfo) = .error failure) :
    hold source (checkMemory settings report) =
      ⟨{ report with status := .failed, findings := report.findings ++ [noMemoryFinding failure] },
        [.found (noMemoryFinding failure)], [.meminfo]⟩ := by
  simp [checkMemory, hold_bind, h, Report.halt]

/-- With a memory figure the third check records it before it decides. -/
theorem hold_checkMemory_of_ok {memory : FreeMemory}
    (h : freeMemory (source .meminfo) = .ok memory) :
    hold source (checkMemory settings report) =
      ⟨{ report with
          status := if memory.meets settings.minFreeMemoryGb then report.status else .failed
          freeMemoryGb := some memory.gigabytes
          findings := report.findings ++ memoryFindings settings.minFreeMemoryGb memory },
        (memoryFindings settings.minFreeMemoryGb memory).map .found,
        [.meminfo]⟩ := by
  by_cases enough : memory.meets settings.minFreeMemoryGb
  · simp [checkMemory, hold_bind, h, enough]
  · simp [checkMemory, hold_bind, h, enough, Report.halt]

/-- The devices are recorded, and only their absence fails the report. -/
@[simp] theorem hold_addDevices (devices : DeviceReport) :
    hold source (addDevices devices report) =
      ⟨{ report with
          status := if devices.isEmpty then .failed else report.status
          devices := some devices
          findings := report.findings ++ deviceFindings devices },
        (deviceFindings devices).map .found, []⟩ := by
  by_cases empty : devices.isEmpty
  · simp [addDevices, hold_bind, empty, Report.halt]
  · simp [addDevices, hold_bind, empty]

/-- The last check looks at no devices when the status report is unavailable. -/
theorem hold_checkDevices :
    hold source (checkDevices report) =
      ⟨{ report with
          status := if (devicesOf (source .devbindStatus)).isEmpty then .failed else report.status
          devices := some (devicesOf (source .devbindStatus))
          findings := report.findings ++ unavailableFindings (source .devbindStatus)
            ++ deviceFindings (devicesOf (source .devbindStatus)) },
        statusEvents (source .devbindStatus)
          ++ (unavailableFindings (source .devbindStatus)
            ++ deviceFindings (devicesOf (source .devbindStatus))).map .found,
        [.devbindStatus]⟩ := by
  rw [checkDevices, hold_bind, hold_query]
  cases source .devbindStatus with
  | error failure =>
    simp only [hold_bind, hold_add, hold_addDevices, unavailableFindings, statusEvents,
      List.append_assoc, List.map_append, List.append_nil, List.nil_append, List.map_cons,
      List.map_nil]
    rfl
  | ok status =>
    simp only [hold_bind, hold_logAll, hold_addDevices, unavailableFindings, statusEvents,
      List.append_nil, List.nil_append]
    rfl

/-! ## What a run shows -/

/-- The report that the answers of a source call for. -/
def outcome : Report where
  status := (source.course settings).status
  hyperthreading := topologyVerdict (source .cpuTopology)
  cores := some (source .logicalCores)
  freeMemoryGb := (source.course settings).memory?.map FreeMemory.gigabytes
  devices := (source.course settings).devices?
  findings := source.allFindings settings

/-- The events that the answers of a source call for. -/
def log : List Event :=
  listingEvents (source .cpuTopology) ++ (source.openingFindings settings).map .found
    ++ ((source.course settings).memoryFindings settings.minFreeMemoryGb).map .found
    ++ (source.course settings).statusEvents ++ (source.course settings).deviceFindings.map .found
    ++ [.finished (source.outcome settings).status (source.allFindings settings).length]

/-- The end of a run is noted with the status and the number of findings. -/
@[simp] theorem hold_finish :
    hold source (finish report) =
      ⟨report, [.finished report.status report.findings.length], []⟩ := rfl

/-- A run shows what its course says. -/
theorem transcript_eq :
    source.transcript settings =
      ⟨source.outcome settings, source.log settings, (source.course settings).questions⟩ := by
  simp only [transcript, runChecks, hold_bind, hold_checkHyperthreading, hold_checkCores]
  have follows := source.follows_course settings
  rw [outcome, log, outcome, allFindings, openingFindings, closingFindings]
  generalize source.course settings = course at follows ⊢
  cases follows with
  | fewCores few => simp [few, unlessFailed, Report.isSuccess, Report.start]
  | noMemory cores unknown =>
    simp [UInt64.not_lt.2 cores, unlessFailed, Report.isSuccess, Report.start,
      hold_checkMemory_of_error _ _ _ unknown]
  | littleMemory cores known little =>
    simp [UInt64.not_lt.2 cores, unlessFailed, Report.isSuccess, Report.start,
      hold_checkMemory_of_ok _ _ _ known, little]
  | complete cores known enough =>
    simp [UInt64.not_lt.2 cores, unlessFailed, Report.isSuccess, Report.start,
      hold_checkMemory_of_ok _ _ _ known, enough, hold_checkDevices]

/-- The report of a run, field by field. -/
theorem report_eq : source.report settings = source.outcome settings := by
  rw [Source.report, transcript_eq]

end Source

end HostPreflight
