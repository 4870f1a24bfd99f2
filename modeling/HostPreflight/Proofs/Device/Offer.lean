import HostPreflight.Proofs.Device.Classification
import HostPreflight.Proofs.Run.Findings

/-!
# Active devices and the offer

The dataplane must not take a device over that carries the host's own traffic.  Sorting
the devices withholds the active ones of the first active card, and those only: an
active device of another card is offered as a primary one, and a run shows it.

## Main statements

* `devices_report` — what a run shows of a status report.
* `active_withheld_iff` — when no active device is offered.
* `active_offered_on_second_card` — a status report where one is.
-/

namespace HostPreflight

open DeviceReport

/-- The devices of a report are those of the status report, and what the run says about
devices is said about them. -/
theorem Source.devices_report {source : Source} {settings : Settings} {status : String}
    {devices : DeviceReport} (answer : source .devbindStatus = .ok status)
    (known : (source.report settings).devices = some devices) :
    devices = ofStatus status ∧
      (source.report settings).findings.forCheck .devices = deviceFindings devices := by
  have selection := source.forCheck_allFindings settings .devices
  have follows := source.follows_course settings
  rw [report_eq] at known ⊢
  rw [outcome] at known ⊢
  simp only at known selection ⊢
  rw [selection]
  generalize source.course settings = course at follows known ⊢
  cases follows with
  | complete cores memory enough =>
    obtain rfl : devicesOf (source .devbindStatus) = devices := by simpa using known
    simp [answer, devicesOf, unavailableFindings]
  | _ => simp at known

/-- If no two lines name the same device, then no active device is offered exactly if all
of them sit on the card of the first marked line.  An active device of another card is a
primary one, and none is ever a backup; a run says so in its findings. -/
theorem active_withheld_iff (status : String) (distinct : (interfaceIds status).Nodup) :
    ((∀ id ∈ activeIds status, String.ofList id ∉ (ofStatus status).primary ∧
        String.ofList id ∉ (ofStatus status).backup) ↔
      ∀ id ∈ activeIds status, activeIndex? status = some (deviceIndex id)) ∧
    (∀ id ∈ activeIds status,
      (String.ofList id ∈ (ofStatus status).primary ↔
        activeIndex? status ≠ some (deviceIndex id)) ∧
      String.ofList id ∉ (ofStatus status).backup) ∧
    ∀ (source : Source) (settings : Settings) (devices : DeviceReport),
      source .devbindStatus = .ok status → (source.report settings).devices = some devices →
      devices = ofStatus status ∧
        (source.report settings).findings.forCheck .devices = deviceFindings devices := by
  have backup : ∀ id ∈ activeIds status, String.ofList id ∉ (ofStatus status).backup :=
    fun id h => active_notMem_backup distinct h
  have primary : ∀ id ∈ activeIds status, (String.ofList id ∈ (ofStatus status).primary ↔
      activeIndex? status ≠ some (deviceIndex id)) := fun id h => active_mem_primary_iff h
  refine ⟨⟨?_, ?_⟩, fun id h => ⟨primary id h, backup id h⟩, ?_⟩
  · intro withheld id h
    by_contra other
    exact (withheld id h).1 ((primary id h).2 other)
  · intro same id h
    exact ⟨fun offered => (primary id h).1 offered (same id h), backup id h⟩
  · intro source settings devices answer known
    exact Source.devices_report answer known

/-- Two active devices of one card are withheld, beside a device of another card. -/
theorem active_withheld_on_one_card :
    let status := "0000:01:00.0 if=a *Active*\n0000:02:00.0 if=b\n0000:01:00.1 if=c *Active*\n"
    (interfaceIds status).Nodup ∧
      activeIds status = ["0000:01:00.0".toList, "0000:01:00.1".toList] ∧
      ∀ id ∈ activeIds status, String.ofList id ∉ (ofStatus status).primary ∧
        String.ofList id ∉ (ofStatus status).backup := by
  intro status
  have distinct : (interfaceIds status).Nodup := by decide +kernel
  refine ⟨distinct, by decide +kernel, ?_⟩
  exact (active_withheld_iff status distinct).1.2 (by decide +kernel)

/-- With active devices on two cards, that of the second card is offered, and a run
announces it as a primary card. -/
theorem active_offered_on_second_card :
    let status := "0000:01:00.0 if=eno1 *Active*\n0000:02:00.0 if=ens2 *Active*\n"
    let source := Fixture.source { Fixture.healthy with devbind := some status }
    (interfaceIds status).Nodup ∧ "0000:02:00.0".toList ∈ activeIds status ∧
      "0000:02:00.0" ∈ (ofStatus status).primary ∧
      .info .devices "Primary cards: ['0000:02:00.0']" ∈ (source.report .default).findings := by
  decide +kernel

end HostPreflight
