import HostPreflight.Proofs.Run.Course
import HostPreflight.Proofs.Topology.Rows

/-!
# Sibling threads are not missed

Processors that share a core stand in different rows, and no two rows are ever compared: each
row is looked at on its own, for two ids that differ.  That is enough.  Of two processors only
one can have the id of the core that they share, so the row of the other one differs.

## Main definitions

* `SharesCore listing` — two processors of the listing share a core.

## Main statements

* `SharesCore.hyperthreading_ofListing` — multithreading is then taken to be on.
* `findings_of_hyperthreading` — a run that takes it to be on says so before all else.
* `sharedCore_reported` — what a listing with a shared core leads to.
-/

namespace HostPreflight

open Text

/-- Two processors of a listing share a core: two of its rows, anywhere among other lines,
name different processors and the same core. -/
inductive SharesCore (listing : String) : Prop where
  | intro {ls : List (List Char)} {line line' : List Char} {cpu cpu' core : Nat}
      (listed : HasLines listing.toList ls) (mem : line ∈ ls) (mem' : line' ∈ ls)
      (row : IsRow line cpu core) (row' : IsRow line' cpu' core) (apart : cpu ≠ cpu') :
      SharesCore listing

variable {listing : String}

/-- Of two rows with one core, one has ids that differ. -/
theorem SharesCore.hyperthreading_ofListing (shares : SharesCore listing) :
    (CpuTopology.ofListing listing).hyperthreading = true := by
  obtain @⟨ls, line, line', cpu, cpu', core, listed, mem, mem', row, row', apart⟩ := shares
  rw [CpuTopology.hyperthreading_ofListing_iff, listed.lines_eq]
  by_cases first : cpu = core
  · have second : cpu' ≠ core := fun same => apart (first.trans same.symm)
    exact ⟨line', mem', cpu', core, row', second⟩
  · exact ⟨line, mem, cpu, core, row, first⟩

namespace Source

variable {source : Source}

/-- A run records what the listing tells. -/
theorem hyperthreading_report (answer : source .cpuTopology = .ok listing) (settings : Settings) :
    (source.report settings).hyperthreading =
      some (CpuTopology.ofListing listing).hyperthreading := by
  rw [report_eq, outcome, answer]
  rfl

/-- A run that takes multithreading to be on says so before all else. -/
theorem findings_of_hyperthreading (answer : source .cpuTopology = .ok listing)
    (on : (CpuTopology.ofListing listing).hyperthreading = true) (settings : Settings) :
    (source.report settings).findings =
      hyperthreadingFindings true
        ++ (coresFindings settings.minCores (source .logicalCores)
          ++ source.closingFindings settings) := by
  have advice : topologyFindings (source .cpuTopology) = hyperthreadingFindings true := by
    rw [answer, topologyFindings, on]
  rw [report_eq]
  change source.allFindings settings = _
  rw [allFindings, openingFindings, advice, List.append_assoc]

end Source

/-- **Sibling threads are never missed.**  If two processors of a listing share a core, then
multithreading is taken to be on, and every run against a source with this listing, under any
settings and with any other answers, records that and opens with the warning and the hint. -/
theorem sharedCore_reported (shares : SharesCore listing) :
    (CpuTopology.ofListing listing).hyperthreading = true ∧
      ∀ (source : Source) (settings : Settings), source .cpuTopology = .ok listing →
        (source.report settings).hyperthreading = some true ∧
          ∃ others, (source.report settings).findings =
            .warning .hyperthreading "disable hyperthreading" ::
              .warning .hyperthreading "Run: \x60sudo ./no_hyperthread.sh\x60" :: others := by
  have on := shares.hyperthreading_ofListing
  refine ⟨on, fun source settings answer => ?_⟩
  have recorded := Source.hyperthreading_report answer settings
  rw [on] at recorded
  exact ⟨recorded, _, Source.findings_of_hyperthreading answer on settings⟩

/-- Two processors of the core 3, neither of them number 3, between a comment and a broken
row, on a host that has too few cores and nothing else to tell. -/
theorem sharedCore_reported_before_halt :
    let listing := "# CPU,Core\n7,3,0,0\n3;3\n +09 ,003\r\n"
    let source := Fixture.source { Fixture.blank with topology := some listing }
    SharesCore listing ∧ (source.report .default).status = .failed ∧
      (source.report .default).hyperthreading = some true ∧
      ∃ others, (source.report .default).findings =
        .warning .hyperthreading "disable hyperthreading" ::
          .warning .hyperthreading "Run: \x60sudo ./no_hyperthread.sh\x60" :: others := by
  intro listing source
  have listed : HasLines listing.toList
      ["# CPU,Core".toList, "7,3,0,0".toList, "3;3".toList, " +09 ,003".toList] :=
    hasLines_iff.2 (by decide +kernel)
  have row : IsRow "7,3,0,0".toList 7 3 := CorePair.isRow_iff.2 ⟨⟨7, 3⟩, by decide +kernel, rfl⟩
  have row' : IsRow " +09 ,003".toList 9 3 :=
    CorePair.isRow_iff.2 ⟨⟨9, 3⟩, by decide +kernel, rfl⟩
  have shares : SharesCore listing := .intro listed (by simp) (by simp) row row' (by decide)
  exact ⟨shares, by decide +kernel, (sharedCore_reported shares).2 source .default rfl⟩

end HostPreflight
