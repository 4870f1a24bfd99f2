import HostPreflight.Proofs.Double.Numeral
import HostPreflight.Proofs.Json.Record
import HostPreflight.Report

/-!
# Reports as JSON, and back

A report is read back from its JSON text, whatever the checks have found and however the
text is laid out.  The one thing that is not for free is the memory figure: the reader
rounds at every step, and not every double survives that.

## Main definitions

* `Double.ReadsBack` — the doubles that are read back from the text they are written as.

## Main statements

* `ofJson?_toJson` — a report is decoded from its JSON value.
* `ofJsonText?_of_spells` — a report is read from every text of its JSON value.
* `Report.roundTrip_jsonText` — a report is read from the texts it is written as.
-/

namespace HostPreflight

open Json

/-- A finite double that is read back from the number text that it is written as. -/
def Double.ReadsBack (x : Double) : Prop :=
  x.isFinite = true ∧ (parse? (ofDouble x).compact).bind double? = some x

instance (x : Double) : Decidable x.ReadsBack := inferInstanceAs (Decidable (_ ∧ _))

/-- What a double is written as is regular. -/
theorem Json.regular_ofDouble (x : Double) : (ofDouble x).Regular := by
  cases x with
  | finite negative m => exact .number (m.regular_numeral _ negative)
  | infinite negative => exact .null
  | nan => exact .null

/-- A double that is read back from its text is decoded from its JSON value. -/
theorem Double.ReadsBack.double?_ofDouble {x : Double} (h : x.ReadsBack) :
    double? (ofDouble x) = some x := by
  have read := h.2
  rwa [parse?_compact (regular_ofDouble x), Option.bind_some] at read

/-! ## The parts of a report -/

/-- A check is decoded. -/
theorem Check.ofJson?_toJson (check : Check) : ofJson? check.toJson = some check :=
  lookup_name check

/-- A severity is decoded. -/
theorem Severity.ofJson?_toJson (severity : Severity) :
    ofJson? severity.toJson = some severity :=
  lookup_name severity

/-- A status is decoded. -/
theorem Status.ofJson?_toJson (status : Status) : ofJson? status.toJson = some status :=
  lookup_name status

/-- A finding is decoded. -/
theorem Finding.ofJson?_toJson (finding : Finding) :
    ofJson? finding.toJson = some finding := by
  have fields : finding.toJson.fields? ["check", "severity", "message"] =
      some [some finding.check.toJson, some finding.severity.toJson,
        some (.text finding.message)] :=
    fields?_record (by decide) rfl
  rw [ofJson?, fields]
  simp [Check.ofJson?_toJson, Severity.ofJson?_toJson]

/-- Findings are decoded, in their order. -/
theorem Findings.ofJson?_toJson (findings : Findings) :
    Findings.ofJson? findings.toJson = some findings :=
  list?_map Finding.ofJson?_toJson findings

/-- A device report is decoded, with its devices in their order. -/
theorem DeviceReport.ofJson?_toJson (devices : DeviceReport) :
    ofJson? devices.toJson = some devices := by
  have fields : devices.toJson.fields? ["primary", "backup"] =
      some [some (.array (devices.primary.map text)), some (.array (devices.backup.map text))] :=
    fields?_record (by decide) rfl
  rw [ofJson?, fields]
  simp [list?_map text?_text]

/-- What devices are written as is regular. -/
theorem DeviceReport.regular_toJson (devices : DeviceReport) : devices.toJson.Regular := by
  apply regular_record
  simp [regular_list regular_text]

/-- What a finding is written as is regular. -/
theorem Finding.regular_toJson (finding : Finding) : finding.toJson.Regular := by
  apply regular_record
  simp [regular_text, Check.toJson, Severity.toJson]

namespace Report

/-- A report is decoded from its JSON value, with the memory figure that the reader makes of
the written one. -/
theorem ofJson?_toJson_of_figure {report : Report} {figure : Option Double}
    (read : optional double? (some (ofOption .ofDouble report.freeMemoryGb)) = some figure) :
    ofJson? report.toJson = some { report with freeMemoryGb := figure } := by
  have fields : report.toJson.fields? fieldNames =
      some [some report.status.toJson,
        some (ofOption .bool report.hyperthreading),
        some (ofOption (fun n => .count n.toNat) report.cores),
        some (ofOption .ofDouble report.freeMemoryGb),
        some (ofOption DeviceReport.toJson report.devices),
        some report.findings.toJson] :=
    fields?_record (by decide) rfl
  have hyperthreading : optional bool? (some (ofOption .bool report.hyperthreading)) =
      some report.hyperthreading :=
    optional_ofOption rfl fun _ _ => rfl
  have cores : optional word64? (some (ofOption (fun n => .count n.toNat) report.cores)) =
      some report.cores :=
    optional_ofOption rfl fun n _ => word64?_count n
  have devices : optional DeviceReport.ofJson?
      (some (ofOption DeviceReport.toJson report.devices)) = some report.devices :=
    optional_ofOption rfl fun devices _ => devices.ofJson?_toJson
  rw [ofJson?, fields]
  simp [hyperthreading, cores, read, devices, Status.ofJson?_toJson, Findings.ofJson?_toJson]

/-- **A report is decoded from its JSON value.** -/
theorem ofJson?_toJson {report : Report} (memory : ∀ x ∈ report.freeMemoryGb, x.ReadsBack) :
    ofJson? report.toJson = some report :=
  ofJson?_toJson_of_figure (optional_ofOption rfl fun x mem => (memory x mem).double?_ofDouble)

/-- What a report is written as is regular, whatever its memory figure. -/
theorem regular_toJson (report : Report) : report.toJson.Regular := by
  apply regular_record
  simp only [List.forall_mem_cons]
  exact ⟨regular_text _, regular_ofOption .bool _, regular_ofOption (fun _ => regular_count _) _,
    regular_ofOption regular_ofDouble _, regular_ofOption DeviceReport.regular_toJson _,
    regular_list Finding.regular_toJson _, nofun⟩

/-- A report is read from every text that spells its JSON value. -/
theorem ofJsonText?_of_spells {report : Report}
    (memory : ∀ x ∈ report.freeMemoryGb, x.ReadsBack) {cs : List Char}
    (h : Spells report.toJson cs) : ofJsonText? (String.ofList cs) = some report := by
  rw [ofJsonText?, parse?_of_spells h, Option.bind_some, ofJson?_toJson memory]

/-- **A report is read back from its JSON text.**  Either layout gives the same report,
with every field, every device and every finding in its place, and that report is written
as the same text again. -/
theorem roundTrip_jsonText {report : Report}
    (memory : ∀ x ∈ report.freeMemoryGb, x.ReadsBack) :
    ofJsonText? report.jsonText = some report ∧
    ofJsonText? report.toJson.compact = some report ∧
    (ofJsonText? report.jsonText).map jsonText = some report.jsonText ∧
    (ofJsonText? report.toJson.compact).map jsonText = some report.jsonText := by
  have regular := report.regular_toJson
  have pretty : ofJsonText? report.jsonText = some report :=
    ofJsonText?_of_spells memory (spells_prettyText regular 0)
  have compact : ofJsonText? report.toJson.compact = some report :=
    ofJsonText?_of_spells memory (spells_compactText regular)
  refine ⟨pretty, compact, ?_, ?_⟩
  · rw [pretty, Option.map_some]
  · rw [compact, Option.map_some]

/-- A report with awkward texts: quotes, controls, and characters outside of ASCII. -/
def awkward : Report where
  status := .failed
  hyperthreading := some true
  cores := some 18446744073709551615
  freeMemoryGb := some (.ofRatio false 16801 1000)
  devices := some ⟨["0000:02:00.0", "0000:\"03\":00.1"], []⟩
  findings := [
    .warning .hyperthreading "SMT is \\on\\\n\t\x01",
    .error .devices "keine Ger\u00e4te 🔌"]

/-- The awkward report is read back: its memory figure survives the reader. -/
theorem roundTrip_awkward :
    (∀ x ∈ awkward.freeMemoryGb, x.ReadsBack) ∧
    ofJsonText? awkward.jsonText = some awkward := by
  have memory : ∀ x ∈ awkward.freeMemoryGb, x.ReadsBack := by
    intro x h
    obtain rfl : Double.ofRatio false 16801 1000 = x := Option.some.inj h
    decide +kernel
  exact ⟨memory, (roundTrip_jsonText memory).1⟩

end Report

end HostPreflight
