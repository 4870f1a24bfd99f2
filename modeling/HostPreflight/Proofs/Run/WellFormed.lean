import HostPreflight.Proofs.Run.Findings

/-!
# Well-formed reports

A report has a status, four fields that may be absent, and a list of findings.  They
are not independent: which fields are there tells how far the run got, and the last
finding tells how it ended.

## Main definitions

* `Report.WellFormed` — how findings, fields and status of a report fit together.

## Main statements

* `wellFormed_report` — every report of a run is well formed.
-/

namespace HostPreflight

open Findings

/-- The free memory is known exactly if the table is available and can be read. -/
theorem freeMemory_eq_ok_iff {answer : Except Failure String} {memory : FreeMemory} :
    freeMemory answer = .ok memory ↔
      ∃ table, answer = .ok table ∧ FreeMemory.ofMeminfo table = .ok memory := by
  cases answer with
  | error failure => simp [freeMemory, Except.bind]
  | ok table =>
    have known : freeMemory (.ok table) =
        (FreeMemory.ofMeminfo table).mapError MeminfoFault.failure := rfl
    rw [known]
    cases read : FreeMemory.ofMeminfo table with
    | error fault =>
      have failed : Except.mapError MeminfoFault.failure (.error fault : Except _ FreeMemory) =
          .error fault.failure := rfl
      simp [failed, read]
    | ok memory' =>
      have kept : Except.mapError MeminfoFault.failure (.ok memory') = .ok memory' := rfl
      simp [kept, read]

/-- How the findings, the fields and the status of the report of a run fit together. -/
structure Report.WellFormed (source : Source) (settings : Settings) (report : Report) : Prop where
  /-- The findings stand in the order of the checks. -/
  ordered : report.findings =
    report.findings.forCheck .hyperthreading ++ report.findings.forCheck .cores
      ++ report.findings.forCheck .memory ++ report.findings.forCheck .devices
  /-- The first check only advises. -/
  advice : ∀ finding ∈ report.findings.forCheck .hyperthreading, finding.severity = .warning
  hyperthreading_le : (report.findings.forCheck .hyperthreading).length ≤ 2
  cores_eq : (report.findings.forCheck .cores).length = 1
  memory_le : (report.findings.forCheck .memory).length ≤ 2
  devices_le : (report.findings.forCheck .devices).length ≤ 2
  one_le_length : 1 ≤ report.findings.length
  length_le_six : report.findings.length ≤ 6
  hyperthreading_isSome : report.hyperthreading.isSome ↔
    ∃ listing, source .cpuTopology = .ok listing
  cores_isSome : report.cores.isSome
  memory_isSome : report.freeMemoryGb.isSome ↔
    settings.minCores ≤ source .logicalCores ∧
      ∃ table memory, source .meminfo = .ok table ∧ FreeMemory.ofMeminfo table = .ok memory
  devices_isSome : report.devices.isSome ↔
    settings.minCores ≤ source .logicalCores ∧
      ∃ table memory, source .meminfo = .ok table ∧ FreeMemory.ofMeminfo table = .ok memory ∧
        memory.meets settings.minFreeMemoryGb
  /-- The last finding is an objection exactly if the run failed. -/
  failed_iff : report.status = .failed ↔
    ∃ finding, report.findings.getLast? = some finding ∧ finding.severity = .error
  /-- The objection at the end is that of the check which halted the run. -/
  halted : report.status = .failed → ∀ finding, report.findings.getLast? = some finding →
    source.haltedBy? settings = some finding.check
  /-- A run that passes knows a device, and may only object to the lack of primary ones. -/
  passed : report.status = .passed → ∃ devices, report.devices = some devices ∧
    (devices.primary ≠ [] ∨ devices.backup ≠ []) ∧
    ((∃ finding ∈ report.findings, finding.severity = .error) ↔ devices.primary = []) ∧
    (devices.primary = [] →
      report.findings.withSeverity .error = [.error .devices "primary devs not found"])

namespace Source

variable (source : Source) (settings : Settings)

/-- The last finding of a run is an objection exactly if the run fails. -/
theorem last_isError_iff :
    (∃ finding, (source.allFindings settings).getLast? = some finding ∧
        finding.severity = .error) ↔ (source.course settings).status = .failed := by
  cases halted : (source.course settings).haltedBy? with
  | none =>
    rw [(Course.status_eq_passed_iff _).2 halted]
    constructor
    · rintro ⟨finding, last, severity⟩
      exact absurd severity (source.last_of_passed settings halted last)
    · exact nofun
  | some check =>
    obtain ⟨finding, last, severity, -⟩ := source.last_of_halted settings halted
    rw [(Course.status_eq_failed_iff _).2 ⟨check, halted⟩]
    exact ⟨fun _ => rfl, fun _ => ⟨finding, last, severity⟩⟩

/-- There is an objection exactly if the selection of objections is not empty. -/
theorem exists_error_iff (findings : Findings) :
    (∃ finding ∈ findings, finding.severity = .error) ↔ findings.withSeverity .error ≠ [] := by
  simp [withSeverity, List.filter_eq_nil_iff]

/-- Every report of a run is well formed. -/
theorem wellFormed_report : (source.report settings).WellFormed source settings := by
  have selections := source.forCheck_allFindings settings
  have advice := length_topologyFindings_le (source .cpuTopology)
  have cores := length_coresFindings settings.minCores (source .logicalCores)
  have closing := source.length_closingFindings_le settings
  have total : (source.allFindings settings).length =
      (topologyFindings (source .cpuTopology)).length + 1
        + (source.closingFindings settings).length := by
    rw [allFindings, openingFindings, List.length_append, List.length_append, cores]
  rw [report_eq]
  constructor
  case ordered =>
    change source.allFindings settings = _
    simp only [outcome, selections]
    rw [allFindings, openingFindings, closingFindings, List.append_assoc, List.append_assoc,
      List.append_assoc]
  case advice =>
    intro finding mem
    rw [outcome, selections] at mem
    exact severity_topologyFindings mem
  case hyperthreading_le =>
    rw [outcome, selections]
    exact advice
  case cores_eq =>
    rw [outcome, selections]
    exact cores
  case memory_le =>
    rw [outcome, selections]
    exact Course.length_memoryFindings_le ..
  case devices_le =>
    rw [outcome, selections]
    exact Course.length_deviceFindings_le _
  case one_le_length =>
    change 1 ≤ (source.allFindings settings).length
    omega
  case length_le_six =>
    change (source.allFindings settings).length ≤ 6
    omega
  case hyperthreading_isSome =>
    rw [outcome]
    cases source .cpuTopology <;> simp [topologyVerdict]
  case cores_isSome => rfl
  case memory_isSome =>
    rw [outcome, Option.isSome_map, isSome_memory?]
    simp only [freeMemory_eq_ok_iff]
    exact and_congr_right fun _ => exists_comm
  case devices_isSome =>
    rw [outcome, isSome_devices?]
    simp only [freeMemory_eq_ok_iff]
    refine and_congr_right fun _ => ⟨?_, ?_⟩
    · rintro ⟨memory, ⟨table, answer, read⟩, enough⟩
      exact ⟨table, memory, answer, read, enough⟩
    · rintro ⟨table, memory, answer, read, enough⟩
      exact ⟨memory, ⟨table, answer, read⟩, enough⟩
  case failed_iff => exact (source.last_isError_iff settings).symm
  case halted =>
    intro failed finding last
    obtain ⟨check, halted⟩ := (Course.status_eq_failed_iff _).1 failed
    obtain ⟨closing, last', -, rfl⟩ := source.last_of_halted settings halted
    rw [outcome, last', Option.some.injEq] at last
    rw [haltedBy?_eq, halted, last]
  case passed =>
    intro passed
    have unhalted := (Course.status_eq_passed_iff _).1 passed
    obtain ⟨devices, known, used, objections⟩ := source.errors_of_passed settings unhalted
    refine ⟨devices, known, ?_, ?_, ?_⟩
    · simpa only [DeviceReport.isEmpty, Bool.and_eq_false_iff, List.isEmpty_eq_false_iff]
        using used
    · rw [exists_error_iff, outcome, objections]
      simp
    · intro none
      rw [outcome, objections, if_pos none]

end Source

end HostPreflight
