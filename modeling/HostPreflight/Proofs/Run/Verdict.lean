import HostPreflight.Proofs.Device.Classification
import HostPreflight.Proofs.Memory.Table
import HostPreflight.Proofs.Run.WellFormed

/-!
# The verdict of a run

When a run passes, said of the answers themselves: the number of cores, the words of
the memory table, and the lines of the status report.  The processor listing does not
occur in it.

## Main definitions

* `ShowsMemory` — a memory table that tells of enough free memory.
* `Source.Suffices` — answers that meet every hard requirement.

## Main statements

* `asksDevices_iff` — which answers bring a run to the status report.
* `haltedBy?_eq_none_iff` — no check halts a run exactly if the answers suffice.
* `passes_iff_suffices` — the status and the exit code of a run.
-/

namespace HostPreflight

open Decimal Text

/-- A memory table tells of at least `least` gigabytes: the second word of its second
line writes a 64-bit count of kilobytes that amounts to so much. -/
def ShowsMemory (least : Double) (table : String) : Prop :=
  ∃ (line word : List Char) (kilobytes : UInt64), SecondLine table line ∧ SecondWord line word ∧
    Writes word kilobytes.toNat ∧ least.atMost (FreeMemory.gigabytes ⟨kilobytes⟩)

/-- The answers of a source meet every hard requirement. -/
structure Source.Suffices (source : Source) (settings : Settings) : Prop where
  cores : settings.minCores ≤ source .logicalCores
  memory : ∃ table, source .meminfo = .ok table ∧ ShowsMemory settings.minFreeMemoryGb table
  devices : ∃ status, source .devbindStatus = .ok status ∧
    ∃ line ∈ lines status.toList, containsPiece interfaceMarker line ∧
      DeviceReport.Usable status line

/-- A table tells of enough memory exactly if what is read from it meets the threshold. -/
theorem showsMemory_iff {least : Double} {table : String} :
    ShowsMemory least table ↔
      ∃ memory, FreeMemory.ofMeminfo table = .ok memory ∧ memory.meets least := by
  simp only [FreeMemory.ofMeminfo_eq_iff]
  constructor
  · rintro ⟨line, word, kilobytes, second, value, writes, enough⟩
    exact ⟨⟨kilobytes⟩, .count second value writes, enough⟩
  · rintro ⟨memory, reads, enough⟩
    cases reads with
    | count second value writes => exact ⟨_, _, memory.kilobytes, second, value, writes, enough⟩

/-- The same for an answer. -/
theorem exists_showsMemory_iff {least : Double} {answer : Except Failure String} :
    (∃ table, answer = .ok table ∧ ShowsMemory least table) ↔
      ∃ memory, freeMemory answer = .ok memory ∧ memory.meets least := by
  simp only [showsMemory_iff, freeMemory_eq_ok_iff]
  exact ⟨fun ⟨table, same, memory, read, enough⟩ => ⟨memory, ⟨table, same, read⟩, enough⟩,
    fun ⟨memory, ⟨table, same, read⟩, enough⟩ => ⟨table, same, memory, read, enough⟩⟩

/-- An answer tells of a device exactly if it is a status report with a usable line. -/
theorem isEmpty_devicesOf_eq_false_iff {answer : Except Failure String} :
    (devicesOf answer).isEmpty = false ↔
      ∃ status, answer = .ok status ∧ ∃ line ∈ lines status.toList,
        containsPiece interfaceMarker line ∧ DeviceReport.Usable status line := by
  cases answer with
  | error failure => simp [devicesOf, DeviceReport.empty, DeviceReport.isEmpty]
  | ok status =>
    simp [devicesOf, DeviceReport.isEmpty_ofStatus_eq_false_iff, DeviceReport.interfaceLines,
      and_assoc]

namespace Source

variable (source : Source) (settings : Settings)

/-- A run comes to the status report exactly if the cores and the memory suffice. -/
theorem asksDevices_iff :
    .devbindStatus ∈ (source.course settings).questions ↔
      settings.minCores ≤ source .logicalCores ∧
        ∃ table, source .meminfo = .ok table ∧ ShowsMemory settings.minFreeMemoryGb table := by
  have follows := source.follows_course settings
  rw [exists_showsMemory_iff]
  generalize source.course settings = course at follows ⊢
  cases follows with
  | fewCores few => simp [UInt64.not_le.2 few]
  | noMemory cores unknown => simp [unknown]
  | littleMemory cores known little => simp [known, little]
  | complete cores known enough => simp [cores, known, enough]

/-- No check halts a run exactly if it comes to the status report and finds a device there. -/
theorem haltedBy?_course_eq_none_iff :
    (source.course settings).haltedBy? = none ↔
      .devbindStatus ∈ (source.course settings).questions ∧
        (devicesOf (source .devbindStatus)).isEmpty = false := by
  have follows := source.follows_course settings
  generalize source.course settings = course at follows ⊢
  cases follows <;> simp

/-- No check halts a run exactly if the answers meet every hard requirement. -/
theorem haltedBy?_eq_none_iff :
    (source.course settings).haltedBy? = none ↔ source.Suffices settings := by
  rw [haltedBy?_course_eq_none_iff, asksDevices_iff, isEmpty_devicesOf_eq_false_iff]
  exact ⟨fun ⟨⟨cores, memory⟩, devices⟩ => ⟨cores, memory, devices⟩,
    fun ⟨cores, memory, devices⟩ => ⟨⟨cores, memory⟩, devices⟩⟩

/-- The status of a run says whether the answers meet every hard requirement. -/
theorem status_report_eq_passed_iff :
    (source.report settings).status = .passed ↔ source.Suffices settings := by
  rw [report_eq, ← haltedBy?_eq_none_iff]
  exact Course.status_eq_passed_iff _

/-- Another processor listing leaves the requirements as they are. -/
theorem suffices_update_iff (listing : Except Failure String) :
    Suffices (Function.update source .cpuTopology listing) settings ↔
      source.Suffices settings := by
  have cores : Function.update source .cpuTopology listing .logicalCores = source .logicalCores :=
    Function.update_of_ne (by decide) ..
  have memory : Function.update source .cpuTopology listing .meminfo = source .meminfo :=
    Function.update_of_ne (by decide) ..
  have devices : Function.update source .cpuTopology listing .devbindStatus =
      source .devbindStatus := Function.update_of_ne (by decide) ..
  constructor
  · rintro ⟨h₁, h₂, h₃⟩
    rw [cores] at h₁
    rw [memory] at h₂
    rw [devices] at h₃
    exact ⟨h₁, h₂, h₃⟩
  · rintro ⟨h₁, h₂, h₃⟩
    exact ⟨by rwa [cores], by rwa [memory], by rwa [devices]⟩

end Source

/-- A status is failed exactly if it is not passed. -/
theorem Status.eq_failed_iff (status : Status) : status = .failed ↔ ¬ status = .passed := by
  cases status <;> decide

/-- The exit code is 0 exactly for a report that passed. -/
theorem Report.exitCode_eq_zero_iff (report : Report) :
    report.exitCode = 0 ↔ report.status = .passed := by
  rw [exitCode]
  cases report.status <;> decide

/-- The exit code is 1 exactly for a report that failed. -/
theorem Report.exitCode_eq_one_iff (report : Report) :
    report.exitCode = 1 ↔ report.status = .failed := by
  rw [exitCode]
  cases report.status <;> decide

namespace Source

variable (source : Source) (settings : Settings)

/-- A run passes exactly if the answers meet every hard requirement, and fails otherwise;
the exit code says the same, and the processor listing has no say in it. -/
theorem passes_iff_suffices :
    ((source.report settings).status = .passed ↔ source.Suffices settings) ∧
      ((source.report settings).status = .failed ↔ ¬ source.Suffices settings) ∧
      ((source.report settings).exitCode = 0 ↔ source.Suffices settings) ∧
      ((source.report settings).exitCode = 1 ↔ ¬ source.Suffices settings) ∧
      ∀ listing : Except Failure String,
        (Source.report (Function.update source .cpuTopology listing) settings).status =
          (source.report settings).status := by
  have passed := source.status_report_eq_passed_iff settings
  have failed : (source.report settings).status = .failed ↔ ¬ source.Suffices settings := by
    rw [Status.eq_failed_iff, passed]
  refine ⟨passed, failed, ?_, ?_, ?_⟩
  · rw [Report.exitCode_eq_zero_iff, passed]
  · rw [Report.exitCode_eq_one_iff, failed]
  · intro listing
    have same := suffices_update_iff source settings listing
    rw [← passed, ← status_report_eq_passed_iff] at same
    cases before : (source.report settings).status with
    | passed => exact same.2 before
    | failed =>
      rw [Status.eq_failed_iff, same, before]
      exact nofun

/-- A host that lacks nothing passes, also without a processor listing: its memory table tells
of 8 GB, and one of its devices is not marked. -/
theorem healthy_passes :
    let source := Fixture.source { Fixture.healthy with topology := none }
    source.Suffices .default ∧ (source.report .default).status = .passed ∧
      (source.report .default).exitCode = 0 := by
  intro source
  have enough : source.Suffices .default := by
    constructor
    case cores => decide
    case memory =>
      refine ⟨"MemTotal: 16000000 kB\nMemFree: 8000000 kB\n", rfl,
        "MemFree: 8000000 kB".toList, "8000000".toList, 8000000, ?_, ?_, ?_, by decide +kernel⟩
      · exact secondLine_iff.2 (by decide +kernel)
      · exact secondWord_iff.2 (by decide +kernel)
      · exact .plain (by decide : ([8, 0, 0, 0, 0, 0, 0] : List Digit) ≠ [])
    case devices =>
      exact ⟨_, rfl, "0000:01:00.1 'NIC' if=eno2 drv=ixgbe".toList, by decide +kernel,
        by decide +kernel, .inl (by decide +kernel)⟩
  obtain ⟨passed, -, success, -, -⟩ := passes_iff_suffices source .default
  exact ⟨enough, passed.2 enough, success.2 enough⟩

end Source

end HostPreflight
