import HostPreflight.Proofs.Double.Order
import HostPreflight.Proofs.Run.Verdict

/-!
# More resources do no harm

A host with more cores and more free memory passes wherever one with less does, and so does
a host that is measured by lower thresholds.  For the memory this is not a matter of course:
kilobytes become a double and are divided twice, and each of the three steps rounds.

## Main statements

* `gigabytes_mono` — more kilobytes are not fewer gigabytes.
* `meets_mono` — more memory meets a lower threshold.
* `passes_mono` — a run with more resources and lower thresholds passes as well.
-/

namespace HostPreflight

namespace FreeMemory

/-- Dividing by a thousand keeps the order. -/
theorem atMost_div_thousand {x y : Double} (h : x.atMost y) :
    (x / (1000 : Double)).atMost (y / (1000 : Double)) := by
  have few : 1000 ≤ Nat.pow 2 Double.precision := by decide
  obtain ⟨m, value, units⟩ := Double.ofNat_eq_finite few
  have thousand : (1000 : Double) = .finite false m := value
  have positive : 0 < m.units := by
    rw [units]
    exact Nat.mul_pos (by decide) Double.unitsPerOne_pos
  rw [thousand]
  exact Double.atMost_div positive h

/-- More kilobytes are not fewer gigabytes. -/
theorem gigabytes_mono {less more : FreeMemory} (h : less.kilobytes ≤ more.kilobytes) :
    less.gigabytes.atMost more.gigabytes :=
  atMost_div_thousand (atMost_div_thousand (Double.atMost_ofNat (UInt64.le_iff_toNat_le.1 h)))

/-- More memory meets a lower threshold. -/
theorem meets_mono {less more : FreeMemory} {low high : Double}
    (memory : less.kilobytes ≤ more.kilobytes) (threshold : low.atMost high)
    (h : less.meets high) : more.meets low :=
  Double.atMost_trans threshold (Double.atMost_trans h (gigabytes_mono memory))

end FreeMemory

namespace Source

variable {poor rich : Source} {strict lax : Settings}

/-- More resources meet lower requirements. -/
theorem Suffices.mono {little much : FreeMemory} {table table' : String}
    (answer : poor .meminfo = .ok table) (read : FreeMemory.ofMeminfo table = .ok little)
    (answer' : rich .meminfo = .ok table') (read' : FreeMemory.ofMeminfo table' = .ok much)
    (memory : little.kilobytes ≤ much.kilobytes)
    (cores : poor .logicalCores ≤ rich .logicalCores)
    (devices : rich .devbindStatus = poor .devbindStatus)
    (minCores : lax.minCores ≤ strict.minCores)
    (minMemory : lax.minFreeMemoryGb.atMost strict.minFreeMemoryGb)
    (h : poor.Suffices strict) : rich.Suffices lax := by
  constructor
  case cores =>
    calc lax.minCores ≤ strict.minCores := minCores
      _ ≤ poor .logicalCores := h.cores
      _ ≤ rich .logicalCores := cores
  case memory =>
    obtain ⟨shown, same, shows_⟩ := h.memory
    obtain rfl : table = shown := by simpa [answer] using same
    obtain ⟨known, read'', enough⟩ := showsMemory_iff.1 shows_
    obtain rfl : little = known := by simpa [read] using read''
    refine ⟨table', answer', showsMemory_iff.2 ⟨much, read', ?_⟩⟩
    exact FreeMemory.meets_mono memory minMemory enough
  case devices =>
    rw [devices]
    exact h.devices

/-- **More resources and lower thresholds do no harm.**  Whether a memory meets a threshold
is monotone in its kilobytes and antitone in the threshold.  If a run passes, then so does a
run with at least as many cores, at least as much free memory and the same devices, under
thresholds that are not higher, whatever the processor listings are. -/
theorem passes_mono :
    (∀ (less more : FreeMemory) (low high : Double), less.kilobytes ≤ more.kilobytes →
      low.atMost high → less.meets high → more.meets low) ∧
    ∀ (poor rich : Source) (strict lax : Settings) (table table' : String)
      (little much : FreeMemory),
      poor .meminfo = .ok table → FreeMemory.ofMeminfo table = .ok little →
      rich .meminfo = .ok table' → FreeMemory.ofMeminfo table' = .ok much →
      little.kilobytes ≤ much.kilobytes → poor .logicalCores ≤ rich .logicalCores →
      rich .devbindStatus = poor .devbindStatus → lax.minCores ≤ strict.minCores →
      lax.minFreeMemoryGb.atMost strict.minFreeMemoryGb →
      (poor.report strict).status = .passed → (rich.report lax).status = .passed := by
  constructor
  · intro less more low high kilobytes threshold met
    exact FreeMemory.meets_mono kilobytes threshold met
  · intro poor rich strict lax table table' little much answer read answer' read' memory cores
      devices minCores minMemory passed
    rw [status_report_eq_passed_iff] at passed ⊢
    exact passed.mono answer read answer' read' memory cores devices minCores minMemory

/-- A count of kilobytes that is not itself a double, at a high threshold, against the largest
count at a threshold of minus infinity. -/
theorem passes_mono_beyond_precision :
    let poor := Fixture.source { Fixture.healthy with
      cores := 8, meminfo := some "MemTotal: 1 kB\nMemFree: 9007199254740993 kB\n" }
    let rich := Fixture.source { Fixture.healthy with
      topology := none, cores := 9, meminfo := some "\n= +18446744073709551615" }
    let strict := { Settings.default with minCores := 8, minFreeMemoryGb := 9007199254 }
    let lax := { Settings.default with minCores := 0, minFreeMemoryGb := .infinite true }
    (poor.report strict).status = .passed ∧ (rich.report lax).status = .passed := by
  intro poor rich strict lax
  have passed : (poor.report strict).status = .passed := by decide +kernel
  refine ⟨passed, ?_⟩
  exact passes_mono.2 poor rich strict lax "MemTotal: 1 kB\nMemFree: 9007199254740993 kB\n"
    "\n= +18446744073709551615" ⟨9007199254740993⟩ ⟨18446744073709551615⟩ rfl (by rfl) rfl
    (by rfl) (by decide) (by decide) rfl (by decide) (by decide +kernel) passed

end Source

end HostPreflight
