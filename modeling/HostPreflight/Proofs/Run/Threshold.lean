import HostPreflight.Proofs.Double.Quotient
import HostPreflight.Proofs.Run.Resources

/-!
# Whole thresholds

The free memory is compared in gigabytes, after two divisions that round.  At a threshold
of a whole number of gigabytes this is nevertheless a comparison of kilobytes: a million of
them to the gigabyte, neither one more nor one less.

## Main definitions

* `Settings.Require` — the memory check asks for a number of kilobytes.

## Main statements

* `gigabytes_of_whole` — whole gigabytes are not rounded.
* `isBelow_gigabytes` — and one kilobyte less does not round up to them.
* `meets_whole_iff` — the comparison of a memory, and the memory check of a run.
-/

namespace HostPreflight

namespace FreeMemory

variable {memory : FreeMemory} {g : Nat}

/-- Whole gigabytes are not rounded. -/
theorem gigabytes_of_whole (few : 1000000 * g ≤ Nat.pow 2 Double.precision)
    (whole : memory.kilobytes.toNat = 1000000 * g) : memory.gigabytes = .ofNat g := by
  have product : 1000000 * g = 1000 * (1000 * g) := by omega
  have thousand : 1000 ≤ Nat.pow 2 Double.precision := by decide
  rw [product] at few
  have megabytes : Double.ofNat (1000 * (1000 * g)) / Double.ofNat 1000 = .ofNat (1000 * g) :=
    Double.ofNat_mul_div (by decide) few thousand
  have gigabytes : Double.ofNat (1000 * g) / Double.ofNat 1000 = .ofNat g :=
    Double.ofNat_mul_div (by decide) (by omega) thousand
  calc memory.gigabytes
      = Double.ofNat memory.kilobytes.toNat / Double.ofNat 1000 / Double.ofNat 1000 := rfl
    _ = .ofNat g := by rw [whole, product, megabytes, gigabytes]

/-- Less than whole gigabytes is not rounded up to them. -/
theorem isBelow_gigabytes (few : 1000000 * g ≤ Nat.pow 2 Double.precision)
    (less : memory.kilobytes.toNat < 1000000 * g) : memory.gigabytes.IsBelow g := by
  have product : 1000000 * g = 1000 * (1000 * g) := by omega
  rw [product] at few less
  have kilobytes := Double.isBelow_ofNat few less
  have megabytes : (Double.ofNat memory.kilobytes.toNat / Double.ofNat 1000).IsBelow (1000 * g) :=
    kilobytes.div few
  exact megabytes.div (by omega)

/-- A memory meets a whole threshold exactly if it has a million kilobytes to the gigabyte. -/
theorem meets_ofNat_iff (few : 1000000 * g ≤ Nat.pow 2 Double.precision) :
    memory.meets (.ofNat g) ↔ 1000000 * g ≤ memory.kilobytes.toNat := by
  by_cases enough : 1000000 * g ≤ memory.kilobytes.toNat
  · refine iff_of_true ?_ enough
    -- among the memories with enough, the least has whole gigabytes
    have word : 1000000 * g < UInt64.size := Nat.lt_of_le_of_lt few (by decide)
    let least : FreeMemory := ⟨UInt64.ofNat (1000000 * g)⟩
    have count : least.kilobytes.toNat = 1000000 * g := UInt64.toNat_ofNat_of_lt' word
    have fewer : least.kilobytes ≤ memory.kilobytes := by
      rw [UInt64.le_iff_toNat_le, count]
      exact enough
    have ordered := gigabytes_mono fewer
    rw [gigabytes_of_whole few count] at ordered
    exact ordered
  · have below := isBelow_gigabytes few (Nat.lt_of_not_le enough)
    have missed : memory.meets (.ofNat g) = false := below.atMost_eq_false (by omega)
    simp [missed, enough]

end FreeMemory

/-- The memory check asks for `least` kilobytes: of all runs whose cores suffice and that
learn the free memory, it halts those with less, and it objects in no other. -/
structure Settings.Require (settings : Settings) (least : Nat) : Prop where
  halts : ∀ (source : Source) (memory : FreeMemory), settings.minCores ≤ source .logicalCores →
    freeMemory (source .meminfo) = .ok memory →
    (source.haltedBy? settings = some .memory ↔ memory.kilobytes.toNat < least)
  objects : ∀ (source : Source) (memory : FreeMemory), settings.minCores ≤ source .logicalCores →
    freeMemory (source .meminfo) = .ok memory →
    ((∃ finding ∈ (source.report settings).findings,
        finding.check = .memory ∧ finding.severity = .error) ↔
      memory.kilobytes.toNat < least)
  goesOn : ∀ (source : Source) (memory : FreeMemory), settings.minCores ≤ source .logicalCores →
    freeMemory (source .meminfo) = .ok memory →
    ((source.report settings).devices.isSome ↔ least ≤ memory.kilobytes.toNat)

namespace Source

variable {source : Source} {settings : Settings} {memory : FreeMemory}

/-- Once the cores suffice and the memory is known, the threshold alone decides the course. -/
theorem course_of_known (cores : settings.minCores ≤ source .logicalCores)
    (known : freeMemory (source .meminfo) = .ok memory) :
    source.course settings =
      if memory.meets settings.minFreeMemoryGb then .complete memory (source .devbindStatus)
      else .littleMemory memory := by
  rw [course, if_neg (UInt64.not_lt.2 cores), known]

/-- The memory check then halts the run exactly if the memory does not meet the threshold. -/
theorem haltedBy?_eq_memory_iff (cores : settings.minCores ≤ source .logicalCores)
    (known : freeMemory (source .meminfo) = .ok memory) :
    source.haltedBy? settings = some .memory ↔
      memory.meets settings.minFreeMemoryGb = false := by
  rw [haltedBy?_eq, course_of_known cores known]
  cases memory.meets settings.minFreeMemoryGb <;> simp

/-- It then objects exactly if the memory does not meet the threshold. -/
theorem exists_memory_error_iff (cores : settings.minCores ≤ source .logicalCores)
    (known : freeMemory (source .meminfo) = .ok memory) :
    (∃ finding ∈ (source.report settings).findings,
        finding.check = .memory ∧ finding.severity = .error) ↔
      memory.meets settings.minFreeMemoryGb = false := by
  have findings : (source.report settings).findings.forCheck .memory =
      (source.course settings).memoryFindings settings.minFreeMemoryGb := by
    rw [report_eq]
    exact source.forCheck_allFindings settings .memory
  have selected : (∃ finding ∈ (source.report settings).findings,
        finding.check = .memory ∧ finding.severity = .error) ↔
      ∃ finding ∈ (source.report settings).findings.forCheck .memory,
        finding.severity = .error := by
    simp [Findings.forCheck, and_assoc]
  rw [selected, findings, course_of_known cores known]
  cases enough : memory.meets settings.minFreeMemoryGb <;>
    simp [memoryFindings, enough, Finding.error, Finding.info]

/-- The devices are looked at exactly if the memory meets the threshold. -/
theorem isSome_devices_report_iff (cores : settings.minCores ≤ source .logicalCores)
    (known : freeMemory (source .meminfo) = .ok memory) :
    (source.report settings).devices.isSome ↔ memory.meets settings.minFreeMemoryGb := by
  rw [report_eq]
  refine (source.isSome_devices? settings).trans ?_
  simp [cores, known]

end Source

/-- A whole threshold asks for a million kilobytes to the gigabyte. -/
theorem Settings.require_of_whole {settings : Settings} {g : Nat}
    (few : 1000000 * g ≤ Nat.pow 2 Double.precision)
    (threshold : settings.minFreeMemoryGb = .ofNat g) : settings.Require (1000000 * g) := by
  have missed (memory : FreeMemory) :
      memory.meets settings.minFreeMemoryGb = false ↔
        memory.kilobytes.toNat < 1000000 * g := by
    rw [threshold, ← Bool.not_eq_true, FreeMemory.meets_ofNat_iff few, Nat.not_le]
  constructor
  case halts =>
    intro source memory cores known
    exact (Source.haltedBy?_eq_memory_iff cores known).trans (missed memory)
  case objects =>
    intro source memory cores known
    exact (Source.exists_memory_error_iff cores known).trans (missed memory)
  case goesOn =>
    intro source memory cores known
    rw [Source.isSome_devices_report_iff cores known, threshold, FreeMemory.meets_ofNat_iff few]

/-- Unless set otherwise, the threshold is four gigabytes. -/
theorem Settings.default_minFreeMemoryGb : Settings.default.minFreeMemoryGb = .ofNat 4 := by
  have literal (n : Nat) : (OfNat.ofNat n : Double) = .ofNat n := rfl
  have chosen : Settings.default.minFreeMemoryGb = Settings.defaultMinFreeMemoryGb := rfl
  rw [chosen, Settings.defaultMinFreeMemoryGb, literal]

/-- **At whole thresholds the rounded comparison is the one of kilobytes.**  A memory meets a
threshold of `g` gigabytes exactly if it has `1000000 * g` kilobytes, for all 64-bit counts
of kilobytes and all `g` for which that product is at most `2 ^ 53`; a run with such a
threshold is halted by the memory check accordingly.  At the threshold that holds unless set
otherwise the check asks for four million kilobytes. -/
theorem meets_whole_iff :
    (∀ (memory : FreeMemory) (g : Nat), 1000000 * g ≤ Nat.pow 2 53 →
      (memory.meets (.ofNat g) ↔ 1000000 * g ≤ memory.kilobytes.toNat)) ∧
    (∀ (settings : Settings) (g : Nat), 1000000 * g ≤ Nat.pow 2 53 →
      Settings.Require { settings with minFreeMemoryGb := .ofNat g } (1000000 * g)) ∧
    ∀ settings : Settings, settings.minFreeMemoryGb = Settings.default.minFreeMemoryGb →
      settings.Require 4000000 := by
  refine ⟨?_, ?_, ?_⟩
  · intro memory g few
    exact FreeMemory.meets_ofNat_iff few
  · intro settings g few
    refine Settings.require_of_whole few ?_
    dsimp only
  · intro settings threshold
    rw [Settings.default_minFreeMemoryGb] at threshold
    exact Settings.require_of_whole (by decide) threshold

/-- At the largest whole threshold one kilobyte less does not suffice. -/
theorem meets_whole_largest :
    1000000 * 9007199254 ≤ Nat.pow 2 53 ∧
      ¬ FreeMemory.meets ⟨9007199253999999⟩ (.ofNat 9007199254) ∧
      FreeMemory.meets ⟨9007199254000000⟩ (.ofNat 9007199254) ∧
      Settings.Require { Settings.default with minFreeMemoryGb := .ofNat 9007199254 }
        (1000000 * 9007199254) ∧
      Settings.default.Require 4000000 := by
  have few : 1000000 * 9007199254 ≤ Nat.pow 2 53 := by decide
  obtain ⟨memories, thresholds, default⟩ := meets_whole_iff
  refine ⟨few, ?_, ?_, thresholds Settings.default 9007199254 few, default Settings.default rfl⟩
  · rw [memories ⟨9007199253999999⟩ 9007199254 few]
    decide
  · rw [memories ⟨9007199254000000⟩ 9007199254 few]
    decide

end HostPreflight
