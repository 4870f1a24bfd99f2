import HostPreflight.Proofs.Run.Course

/-!
# The findings of a run

How the findings of a run relate to its report: in which order they stand, how many
there are, and what the last one says about the outcome.

## Main definitions

* `Findings.Belong` — the findings belong to one check.
* `hardChecks` — the checks that may fail a run; `Source.haltedBy?` — the one that did.

## Main statements

* `forCheck_allFindings` — the findings of each check.
* `last_of_halted`, `last_of_passed` — the last finding tells the outcome.
* `errors_of_passed` — what a run that passes may object to.
* `haltedBy?_eq` — the course of a run tells which check halts it.
-/

namespace HostPreflight

open Dialogue

namespace Findings

variable {check other : Check} {findings : Findings}

/-- The findings belong to one check. -/
def Belong (check : Check) (findings : Findings) : Prop :=
  ∀ finding ∈ findings, finding.check = check

/-- A selection takes all findings of its own check and none of another one. -/
theorem Belong.forCheck_eq (h : Belong other findings) (check : Check) :
    forCheck check findings = if other = check then findings else [] := by
  unfold forCheck
  split
  · rename_i same
    rw [List.filter_eq_self]
    intro finding mem
    simp [h finding mem, same]
  · rename_i differ
    rw [List.filter_eq_nil_iff]
    intro finding mem
    simp [h finding mem, differ]

theorem forCheck_append (a b : Findings) :
    forCheck check (a ++ b) = forCheck check a ++ forCheck check b :=
  List.filter_append ..

end Findings

open Findings

/-! ## What each check says -/

theorem belong_topologyFindings (answer : Except Failure String) :
    Belong .hyperthreading (topologyFindings answer) := by
  cases answer with
  | error failure => simp [Belong, topologyFindings, noTopologyFinding, Finding.warning]
  | ok listing =>
    simp only [Belong, topologyFindings, hyperthreadingFindings]
    split <;> simp [Finding.warning]

/-- The listing gives rise to advice only. -/
theorem severity_topologyFindings {answer : Except Failure String} {finding : Finding}
    (mem : finding ∈ topologyFindings answer) : finding.severity = .warning := by
  cases answer with
  | error failure =>
    simp only [topologyFindings, List.mem_singleton] at mem
    rw [mem]
    rfl
  | ok listing =>
    simp only [topologyFindings, hyperthreadingFindings] at mem
    split at mem
    · simp only [List.mem_cons, List.not_mem_nil, or_false] at mem
      rcases mem with rfl | rfl <;> rfl
    · simp at mem

theorem length_topologyFindings_le (answer : Except Failure String) :
    (topologyFindings answer).length ≤ 2 := by
  cases answer with
  | error failure => simp [topologyFindings]
  | ok listing =>
    simp only [topologyFindings, hyperthreadingFindings]
    split <;> simp

theorem belong_coresFindings (least cores : UInt64) :
    Belong .cores (coresFindings least cores) := by
  unfold coresFindings
  split <;> simp [Belong, Finding.error, Finding.info]

theorem length_coresFindings (least cores : UInt64) : (coresFindings least cores).length = 1 := by
  unfold coresFindings
  split <;> rfl

theorem belong_memoryFindings (least : Double) (memory : FreeMemory) :
    Belong .memory (memoryFindings least memory) := by
  unfold memoryFindings
  split <;> simp [Belong, Finding.error, Finding.info]

theorem belong_deviceFindings (devices : DeviceReport) :
    Belong .devices (deviceFindings devices) := by
  unfold deviceFindings
  split <;> simp [Belong, Finding.error, Finding.info, Finding.warning]

theorem belong_unavailableFindings (answer : Except Failure String) :
    Belong .devices (unavailableFindings answer) := by
  cases answer <;> simp [Belong, unavailableFindings, noStatusFinding, Finding.error]

namespace Course

theorem belong_memoryFindings (least : Double) (course : Course) :
    Belong .memory (course.memoryFindings least) := by
  cases course with
  | fewCores => simp [Belong]
  | noMemory failure => simp [Belong, noMemoryFinding, Finding.error]
  | littleMemory memory => exact HostPreflight.belong_memoryFindings least memory
  | complete memory answer => exact HostPreflight.belong_memoryFindings least memory

theorem belong_deviceFindings (course : Course) : Belong .devices course.deviceFindings := by
  cases course with
  | complete memory answer =>
    intro finding mem
    rcases List.mem_append.1 mem with mem | mem
    · exact belong_unavailableFindings answer finding mem
    · exact HostPreflight.belong_deviceFindings (devicesOf answer) finding mem
  | _ => simp [Belong]

theorem length_memoryFindings_le (least : Double) (course : Course) :
    (course.memoryFindings least).length ≤ 2 := by
  cases course with
  | fewCores => simp
  | noMemory failure => simp
  | littleMemory memory =>
    simp only [memoryFindings, HostPreflight.memoryFindings]
    split <;> simp
  | complete memory answer =>
    simp only [memoryFindings, HostPreflight.memoryFindings]
    split <;> simp

theorem length_deviceFindings_le (course : Course) : course.deviceFindings.length ≤ 2 := by
  cases course with
  | complete memory answer =>
    cases answer with
    | error failure =>
      simp [unavailableFindings, devicesOf, HostPreflight.deviceFindings, DeviceReport.empty]
    | ok status =>
      simp only [deviceFindings, unavailableFindings, HostPreflight.deviceFindings, List.nil_append]
      split <;> simp
  | _ => simp

end Course

namespace Source

variable (source : Source) (settings : Settings)

/-- Only a run that ends there has two findings on the memory. -/
theorem length_closingFindings_le : (source.closingFindings settings).length ≤ 3 := by
  have follows := source.follows_course settings
  have memory := (source.course settings).length_memoryFindings_le settings.minFreeMemoryGb
  have devices := (source.course settings).length_deviceFindings_le
  rw [closingFindings, List.length_append]
  generalize source.course settings = course at follows memory devices ⊢
  cases follows with
  | @complete figure cores known enough =>
    have one : (Course.memoryFindings settings.minFreeMemoryGb
        (.complete figure (source .devbindStatus))).length = 1 := by
      simp [HostPreflight.memoryFindings, enough]
    omega
  | _ =>
    simp only [Course.deviceFindings, List.length_nil]
    omega

/-- The findings of a run, check by check. -/
theorem forCheck_allFindings (check : Check) :
    forCheck check (source.allFindings settings) =
      match check with
      | .hyperthreading => topologyFindings (source .cpuTopology)
      | .cores => coresFindings settings.minCores (source .logicalCores)
      | .memory => (source.course settings).memoryFindings settings.minFreeMemoryGb
      | .devices => (source.course settings).deviceFindings := by
  have topology := belong_topologyFindings (source .cpuTopology)
  have cores := belong_coresFindings settings.minCores (source .logicalCores)
  have memory := (source.course settings).belong_memoryFindings settings.minFreeMemoryGb
  have devices := (source.course settings).belong_deviceFindings
  rw [allFindings, openingFindings, closingFindings, forCheck_append, forCheck_append,
    forCheck_append, topology.forCheck_eq, cores.forCheck_eq, memory.forCheck_eq,
    devices.forCheck_eq]
  cases check <;> simp

/-! ## The last finding -/

/-- A run that fails ends with an objection of the check that failed. -/
theorem last_of_halted {check : Check} (h : (source.course settings).haltedBy? = some check) :
    ∃ finding, (source.allFindings settings).getLast? = some finding ∧
      finding.severity = .error ∧ finding.check = check := by
  have follows := source.follows_course settings
  rw [allFindings, openingFindings, closingFindings]
  generalize source.course settings = course at follows h ⊢
  cases follows with
  | fewCores few =>
    obtain rfl : Check.cores = check := by simpa using h
    simp [coresFindings, few, Finding.error]
  | noMemory cores unknown =>
    obtain rfl : Check.memory = check := by simpa using h
    simp [noMemoryFinding, Finding.error]
  | littleMemory cores known little =>
    obtain rfl : Check.memory = check := by simpa using h
    simp [HostPreflight.memoryFindings, little, Finding.error]
  | complete cores known enough =>
    obtain ⟨empty, rfl⟩ : _ ∧ Check.devices = check := by simpa using h
    simp only [DeviceReport.isEmpty, Bool.and_eq_true] at empty
    simp [HostPreflight.deviceFindings, empty, Finding.error]

/-- Where there are devices, the last thing said about them is no objection. -/
theorem last_deviceFindings {devices : DeviceReport} (used : devices.isEmpty = false) :
    ∃ others finding, deviceFindings devices = others ++ [finding] ∧
      finding.severity ≠ .error := by
  unfold deviceFindings
  cases primary : devices.primary.isEmpty <;> cases backup : devices.backup.isEmpty
  · exact ⟨[_], _, rfl, nofun⟩
  · exact ⟨[_], _, rfl, nofun⟩
  · exact ⟨[_], _, rfl, nofun⟩
  · simp [DeviceReport.isEmpty, primary, backup] at used

/-- A run that passes does not end with an objection. -/
theorem last_of_passed {finding : Finding} (h : (source.course settings).haltedBy? = none)
    (last : (source.allFindings settings).getLast? = some finding) :
    finding.severity ≠ .error := by
  have follows := source.follows_course settings
  rw [allFindings, openingFindings, closingFindings] at last
  generalize source.course settings = course at follows h last
  cases follows with
  | complete cores known enough =>
    have used : (devicesOf (source .devbindStatus)).isEmpty = false := by simpa using h
    obtain ⟨others, closing, split, harmless⟩ := last_deviceFindings used
    obtain rfl : closing = finding := by simpa [split, ← List.append_assoc] using last
    exact harmless
  | _ => simp at h

/-! ## Objections of a run that passes -/

/-- The cores are reported with a plain statement where they suffice. -/
theorem coresFindings_of_le {least cores : UInt64} (h : least ≤ cores) :
    coresFindings least cores =
      [.info .cores ("sockets found: " ++ Decimal.text cores.toNat)] :=
  if_neg (UInt64.not_lt.2 h)

/-- The only objection to devices that can be used is that none of them is primary. -/
theorem errors_deviceFindings {devices : DeviceReport} (used : devices.isEmpty = false) :
    withSeverity .error (deviceFindings devices) =
      if devices.primary = [] then [.error .devices "primary devs not found"] else [] := by
  simp only [← List.isEmpty_iff, deviceFindings]
  cases primary : devices.primary.isEmpty <;> cases backup : devices.backup.isEmpty
  · rfl
  · rfl
  · rfl
  · simp [DeviceReport.isEmpty, primary, backup] at used

/-- A run that passes has looked at devices, and objects only to the lack of primary ones. -/
theorem errors_of_passed (h : (source.course settings).haltedBy? = none) :
    ∃ devices, (source.course settings).devices? = some devices ∧ devices.isEmpty = false ∧
      withSeverity .error (source.allFindings settings) =
        if devices.primary = [] then [.error .devices "primary devs not found"] else [] := by
  have follows := source.follows_course settings
  have advice : withSeverity .error (topologyFindings (source .cpuTopology)) = [] := by
    rw [withSeverity, List.filter_eq_nil_iff]
    intro finding mem
    simp [severity_topologyFindings mem]
  rw [allFindings, openingFindings, closingFindings]
  generalize source.course settings = course at follows h ⊢
  cases follows with
  | complete cores known enough =>
    have used : (devicesOf (source .devbindStatus)).isEmpty = false := by simpa using h
    have objections := errors_deviceFindings used
    have available : unavailableFindings (source .devbindStatus) = [] := by
      cases answer : source .devbindStatus with
      | error failure =>
        simp [answer, devicesOf, DeviceReport.empty, DeviceReport.isEmpty] at used
      | ok status => rfl
    refine ⟨devicesOf (source .devbindStatus), rfl, used, ?_⟩
    rw [← objections]
    unfold withSeverity at advice ⊢
    simp [advice, available, coresFindings_of_le cores, HostPreflight.memoryFindings, enough,
      Finding.info]
  | _ => simp at h

end Source

/-! ## The check that halts a run -/

/-- The checks that may fail a run, in order. -/
def hardChecks (settings : Settings) : List (Check × (Report → HostDialogue Report)) :=
  [(.cores, checkCores settings), (.memory, checkMemory settings), (.devices, checkDevices)]

/-- The first of some checks after which a report has failed. -/
def haltingCheck? (source : Source) :
    List (Check × (Report → HostDialogue Report)) → Report → Option Check
  | [], _ => none
  | (check, run) :: others, report =>
    let next := (hold source (run report)).result
    if next.isSuccess then haltingCheck? source others next else some check

namespace Source

/-- The check that halts a run. -/
def haltedBy? (source : Source) (settings : Settings) : Option Check :=
  haltingCheck? source (hardChecks settings) (hold source (checkHyperthreading .start)).result

/-- The course of a run tells which check halts it. -/
theorem haltedBy?_eq (source : Source) (settings : Settings) :
    source.haltedBy? settings = (source.course settings).haltedBy? := by
  have follows := source.follows_course settings
  rw [haltedBy?, hold_checkHyperthreading, hardChecks]
  generalize source.course settings = course at follows ⊢
  cases follows with
  | fewCores few => simp [haltingCheck?, hold_checkCores, few, Report.isSuccess]
  | noMemory cores unknown =>
    simp [haltingCheck?, hold_checkCores, UInt64.not_lt.2 cores, Report.isSuccess, Report.start,
      hold_checkMemory_of_error _ _ _ unknown]
  | littleMemory cores known little =>
    simp [haltingCheck?, hold_checkCores, UInt64.not_lt.2 cores, Report.isSuccess, Report.start,
      hold_checkMemory_of_ok _ _ _ known, little]
  | complete cores known enough =>
    by_cases empty : (devicesOf (source .devbindStatus)).isEmpty <;>
      simp [haltingCheck?, hold_checkCores, UInt64.not_lt.2 cores, Report.isSuccess, Report.start,
        hold_checkMemory_of_ok _ _ _ known, enough, hold_checkDevices, empty]

/-- A memory figure is known exactly if the cores suffice and the memory table can be read. -/
theorem isSome_memory? (source : Source) (settings : Settings) :
    (source.course settings).memory?.isSome ↔
      settings.minCores ≤ source .logicalCores ∧
        ∃ memory, freeMemory (source .meminfo) = .ok memory := by
  have follows := source.follows_course settings
  generalize source.course settings = course at follows ⊢
  cases follows with
  | fewCores few => simp [UInt64.not_le.2 few]
  | noMemory cores unknown => simp [unknown]
  | littleMemory cores known little => simp [known, cores]
  | complete cores known enough => simp [known, cores]

/-- Devices are looked at exactly if the cores and the memory suffice. -/
theorem isSome_devices? (source : Source) (settings : Settings) :
    (source.course settings).devices?.isSome ↔
      settings.minCores ≤ source .logicalCores ∧
        ∃ memory, freeMemory (source .meminfo) = .ok memory ∧
          memory.meets settings.minFreeMemoryGb := by
  have follows := source.follows_course settings
  generalize source.course settings = course at follows ⊢
  cases follows with
  | fewCores few => simp [UInt64.not_le.2 few]
  | noMemory cores unknown => simp [unknown]
  | littleMemory cores known little => simp [known, little]
  | complete cores known enough => simp [known, cores, enough]

end Source

end HostPreflight
