import HostPreflight.Proofs.Run.Findings

/-!
# Advice does not decide

The first check only advises.  Two runs whose sources agree on everything but the
processor listing end in reports that agree on everything but what the first check
contributes, and that contribution stands in front of all other findings.

The sources need not give the same failures: a report shows no more of a failure than its
wording, so it is enough that the answers read alike.

## Main definitions

* `ReadAlike` — the same text, or two failures of one wording.
* `Course.Alike` — two courses that no reader of a report can tell apart.
* `Findings.without check` — the findings of the other checks.
* `Report.AgreesBeside check` — agreement in everything that `check` does not contribute.
* `Report.LeadsWithAdvice` — what the first check says stands first and only advises.

## Main statements

* `alike_course` — answers that read alike lead to courses that are alike.
* `allFindings_eq_advice_append` — the first check speaks first.
* `topology_only_advises` — two runs that differ in the processor listing.
-/

namespace HostPreflight

open Dialogue Findings

/-! ## Answers that read alike -/

/-- Two answers hold the same text, or two failures of one wording. -/
inductive ReadAlike : Except Failure String → Except Failure String → Prop where
  | text (text : String) : ReadAlike (.ok text) (.ok text)
  | failure {first second : Failure} (wording : first.message = second.message) :
      ReadAlike (.error first) (.error second)

namespace ReadAlike

variable {a b : Except Failure String}

/-- The same devices are found. -/
theorem devicesOf_eq (alike : ReadAlike a b) : devicesOf a = devicesOf b := by
  cases alike <;> rfl

/-- The same is said when a status report is unavailable. -/
theorem unavailableFindings_eq (alike : ReadAlike a b) :
    unavailableFindings a = unavailableFindings b := by
  cases alike with
  | text text => rfl
  | failure wording => simp [unavailableFindings, noStatusFinding, wording]

end ReadAlike

/-! ## Courses that are alike -/

namespace Course

/-- Two courses differ at most in failures, and these have one wording. -/
inductive Alike : Course → Course → Prop where
  | fewCores : Alike .fewCores .fewCores
  | noMemory {first second : Failure} (wording : first.message = second.message) :
      Alike (.noMemory first) (.noMemory second)
  | littleMemory (memory : FreeMemory) : Alike (.littleMemory memory) (.littleMemory memory)
  | complete {a b : Except Failure String} (memory : FreeMemory) (alike : ReadAlike a b) :
      Alike (.complete memory a) (.complete memory b)

namespace Alike

variable {first second : Course}

theorem memory?_eq (alike : first.Alike second) : first.memory? = second.memory? := by
  cases alike <;> rfl

theorem devices?_eq (alike : first.Alike second) : first.devices? = second.devices? := by
  cases alike with
  | complete memory alike => exact congrArg some alike.devicesOf_eq
  | _ => rfl

theorem status_eq (alike : first.Alike second) : first.status = second.status := by
  cases alike with
  | complete memory alike => simp [alike.devicesOf_eq]
  | _ => rfl

theorem memoryFindings_eq (alike : first.Alike second) (least : Double) :
    first.memoryFindings least = second.memoryFindings least := by
  cases alike with
  | noMemory wording => simp [noMemoryFinding, wording]
  | _ => rfl

theorem deviceFindings_eq (alike : first.Alike second) :
    first.deviceFindings = second.deviceFindings := by
  cases alike with
  | complete memory alike => simp [alike.devicesOf_eq, alike.unavailableFindings_eq]
  | _ => rfl

end Alike

end Course

namespace Source

variable {a b : Source} (settings : Settings)

/-- Answers that read alike lead to courses that are alike. -/
theorem alike_course (cores : a .logicalCores = b .logicalCores)
    (memory : ReadAlike (a .meminfo) (b .meminfo))
    (devices : ReadAlike (a .devbindStatus) (b .devbindStatus)) :
    (a.course settings).Alike (b.course settings) := by
  unfold course
  rw [cores]
  by_cases few : b .logicalCores < settings.minCores
  · rw [if_pos few, if_pos few]
    exact .fewCores
  · rw [if_neg few, if_neg few]
    generalize a .meminfo = first, b .meminfo = second at memory
    cases memory with
    | failure wording => exact .noMemory wording
    | text table =>
      cases freeMemory (.ok table) with
      | error failure => exact .noMemory rfl
      | ok memory =>
        by_cases enough : memory.meets settings.minFreeMemoryGb
        · simpa only [enough, if_true] using .complete memory devices
        · simpa only [enough] using .littleMemory memory

/-- What is said after the first two checks is the same for answers that read alike. -/
theorem closingFindings_eq (cores : a .logicalCores = b .logicalCores)
    (memory : ReadAlike (a .meminfo) (b .meminfo))
    (devices : ReadAlike (a .devbindStatus) (b .devbindStatus)) :
    a.closingFindings settings = b.closingFindings settings := by
  have alike := alike_course settings cores memory devices
  rw [closingFindings, closingFindings, alike.memoryFindings_eq, alike.deviceFindings_eq]

end Source

/-! ## Findings beside the advice -/

namespace Findings

variable {check other : Check}

/-- The findings of all checks but one. -/
def without (check : Check) (findings : Findings) : Findings :=
  findings.filter fun finding => finding.check != check

theorem without_append (a b : Findings) :
    without check (a ++ b) = without check a ++ without check b :=
  List.filter_append ..

/-- Leaving a check out drops all of its own findings and none of another one. -/
theorem Belong.without_eq {findings : Findings} (h : Belong other findings) (check : Check) :
    without check findings = if other = check then [] else findings := by
  unfold without
  split
  · rename_i same
    rw [List.filter_eq_nil_iff]
    intro finding mem
    simp [h finding mem, same]
  · rename_i differ
    rw [List.filter_eq_self]
    intro finding mem
    simp [h finding mem, differ]

end Findings

namespace Source

variable (source : Source) (settings : Settings)

/-- What the other checks say is what they say whatever the processor listing holds. -/
theorem without_allFindings :
    without .hyperthreading (source.allFindings settings) =
      coresFindings settings.minCores (source .logicalCores)
        ++ source.closingFindings settings := by
  have advice := belong_topologyFindings (source .cpuTopology)
  have cores := belong_coresFindings settings.minCores (source .logicalCores)
  have memory := (source.course settings).belong_memoryFindings settings.minFreeMemoryGb
  have devices := (source.course settings).belong_deviceFindings
  rw [allFindings, openingFindings, closingFindings, without_append, without_append,
    without_append, advice.without_eq, cores.without_eq, memory.without_eq, devices.without_eq]
  simp

/-- The first check speaks first. -/
theorem allFindings_eq_advice_append :
    source.allFindings settings =
      forCheck .hyperthreading (source.allFindings settings)
        ++ without .hyperthreading (source.allFindings settings) := by
  rw [forCheck_allFindings, without_allFindings, allFindings, openingFindings, List.append_assoc]

end Source

/-! ## Two runs -/

/-- Two reports agree in everything that one check does not contribute to them. -/
structure Report.AgreesBeside (check : Check) (a b : Report) : Prop where
  status : a.status = b.status
  exitCode : a.exitCode = b.exitCode
  cores : a.cores = b.cores
  freeMemoryGb : a.freeMemoryGb = b.freeMemoryGb
  devices : a.devices = b.devices
  findings : a.findings.without check = b.findings.without check

/-- What the first check says stands in front of all else, and it only advises. -/
structure Report.LeadsWithAdvice (report : Report) : Prop where
  leads : report.findings.forCheck .hyperthreading <+: report.findings
  advises : ∀ finding ∈ report.findings.forCheck .hyperthreading,
    finding.severity ≠ .error ∧ finding.severity ≠ .info

namespace Source

/-- The report of every run leads with advice. -/
theorem leadsWithAdvice_report (source : Source) (settings : Settings) :
    (source.report settings).LeadsWithAdvice := by
  rw [report_eq]
  constructor
  case leads =>
    change forCheck .hyperthreading (source.allFindings settings) <+: source.allFindings settings
    exact ⟨_, (source.allFindings_eq_advice_append settings).symm⟩
  case advises =>
    intro finding mem
    change finding ∈ forCheck .hyperthreading (source.allFindings settings) at mem
    rw [forCheck_allFindings] at mem
    rw [severity_topologyFindings mem]
    exact ⟨nofun, nofun⟩

/-- Reports of sources that agree beside the processor listing agree beside the advice. -/
theorem agreesBeside_report {a b : Source} (settings : Settings)
    (cores : a .logicalCores = b .logicalCores) (memory : ReadAlike (a .meminfo) (b .meminfo))
    (devices : ReadAlike (a .devbindStatus) (b .devbindStatus)) :
    (a.report settings).AgreesBeside .hyperthreading (b.report settings) := by
  have alike := alike_course settings cores memory devices
  have status : (a.report settings).status = (b.report settings).status := by
    rw [report_eq, report_eq]
    exact alike.status_eq
  rw [report_eq, report_eq] at status ⊢
  constructor
  case status => exact status
  case exitCode => rw [Report.exitCode, Report.exitCode, status]
  case cores => exact congrArg some cores
  case freeMemoryGb => exact congrArg (Option.map FreeMemory.gigabytes) alike.memory?_eq
  case devices => exact alike.devices?_eq
  case findings =>
    change without .hyperthreading (a.allFindings settings) =
      without .hyperthreading (b.allFindings settings)
    have closing := closingFindings_eq settings cores memory devices
    rw [without_allFindings, without_allFindings, cores, closing]

/-- **The processor listing is advisory only.**  Two runs whose sources agree on the number
of cores, and whose memory tables and status reports read alike, end in reports that agree
in everything but what is said about the processor listing, whatever the two listings are.
In both, that stands in front of all other findings and only advises. -/
theorem topology_only_advises (a b : Source) (settings : Settings)
    (cores : a .logicalCores = b .logicalCores) (memory : ReadAlike (a .meminfo) (b .meminfo))
    (devices : ReadAlike (a .devbindStatus) (b .devbindStatus)) :
    (a.report settings).AgreesBeside .hyperthreading (b.report settings) ∧
      (a.report settings).LeadsWithAdvice ∧ (b.report settings).LeadsWithAdvice :=
  ⟨agreesBeside_report settings cores memory devices, a.leadsWithAdvice_report settings,
    b.leadsWithAdvice_report settings⟩

/-- A listing with sibling threads against none at all, and two failures of one wording: the
runs differ in what they say, and agree beside their advice. -/
theorem topology_only_advises_with_failures :
    let first : Source := fun
      | .cpuTopology => .ok "0,0\n1,0\n"
      | .logicalCores => 4
      | .meminfo => .ok "MemTotal: 9000000 kB\nMemFree: 5000000 kB\n"
      | .devbindStatus => .error (.commandFailed "a" "b' failed: c")
    let second : Source := fun
      | .cpuTopology => .error (.notFound "lscpu")
      | .logicalCores => 4
      | .meminfo => .ok "MemTotal: 9000000 kB\nMemFree: 5000000 kB\n"
      | .devbindStatus => .error (.commandFailed "a' failed: b" "c")
    first .devbindStatus ≠ second .devbindStatus ∧
      (first.report .default).findings ≠ (second.report .default).findings ∧
      (first.report .default).AgreesBeside .hyperthreading (second.report .default) ∧
      (first.report .default).LeadsWithAdvice ∧ (second.report .default).LeadsWithAdvice := by
  intro first second
  have wording : ReadAlike (first .devbindStatus) (second .devbindStatus) :=
    .failure (by decide +kernel)
  refine ⟨by simp [first, second], by decide +kernel, ?_⟩
  exact topology_only_advises first second .default rfl (.text _) wording

end Source

end HostPreflight
