import HostPreflight.Proofs.Device.Classification
import HostPreflight.Proofs.Run.Course
import HostPreflight.Proofs.Text.OneLine

/-!
# The messages of a run

Every message of a run stands on one line, although it may hold text of the host: device ids
are words and hold no blank, and what the memory table holds is quoted.  Only the failures of
a source are worded elsewhere.  The facts of a run begin with fixed words, which tell the check
that they belong to.

## Main definitions

* `Finding.ofFact?` — the finding of a fact, told from its message.
* `Finding.Legible` — a finding that can be told from its line.
* `PlainFailure`, `Source.FailsOnOneLine` — the failures of an answer and of a source are
  worded on one line.

## Main statements

* `Fixture.failsOnOneLine` — the failures of fixtures are.
* `Source.legible_report` — the findings of a run can be told from their lines.
-/

namespace HostPreflight

open Text

/-- How the facts of a run begin, and the checks that state them. -/
def factHeads : List (String × Check) :=
  [("sockets found: ", .cores), ("memory found: ", .memory), ("Primary cards: ", .devices),
    ("Backup cards: ", .devices)]

/-- The finding of a fact, told from its message. -/
def Finding.ofFact? (message : List Char) : Option Finding :=
  (factHeads.find? fun head => head.1.toList.isPrefixOf message).map fun head =>
    .info head.2 (String.ofList message)

/-- A finding that can be told from its line: its message stands on one line, and the message
of a fact tells its check. -/
structure Finding.Legible (finding : Finding) : Prop where
  oneLine : OneLine finding.message
  fact : finding.severity = .info → Finding.ofFact? finding.message.toList = some finding

/-- Findings that can be told from their lines. -/
def Findings.Legible (findings : Findings) : Prop := ∀ finding ∈ findings, finding.Legible

@[simp] theorem Findings.legible_nil : Legible [] := nofun

@[simp] theorem Findings.legible_cons {finding : Finding} {findings : Findings} :
    Legible (finding :: findings) ↔ finding.Legible ∧ Legible findings :=
  List.forall_mem_cons

@[simp] theorem Findings.legible_append {a b : Findings} :
    Legible (a ++ b) ↔ Legible a ∧ Legible b :=
  List.forall_mem_append

namespace Finding

variable {check : Check} {message head : String}

/-- Advice can be told from its line if it stands on one. -/
theorem legible_warning (oneLine : OneLine message) : (warning check message).Legible :=
  ⟨oneLine, nofun⟩

/-- So can an objection. -/
theorem legible_error (oneLine : OneLine message) : (error check message).Legible :=
  ⟨oneLine, nofun⟩

/-- No head of a fact is the start of another one. -/
theorem ofFact?_append (known : (head, check) ∈ factHeads) (rest : List Char) :
    ofFact? (head.toList ++ rest) = some (info check (String.ofList (head.toList ++ rest))) := by
  simp only [factHeads, List.mem_cons, List.not_mem_nil, or_false, Prod.mk.injEq] at known
  rcases known with ⟨rfl, rfl⟩ | ⟨rfl, rfl⟩ | ⟨rfl, rfl⟩ | ⟨rfl, rfl⟩ <;> rfl

/-- A fact can be told from its line if it begins as facts do. -/
theorem legible_info (known : (head, check) ∈ factHeads) (oneLine : OneLine message) :
    (info check (head ++ message)).Legible := by
  have heads : ∀ fact ∈ factHeads, OneLine fact.1 := by decide
  refine ⟨oneLine_append.2 ⟨heads _ known, oneLine⟩, fun _ => ?_⟩
  have told := ofFact?_append known message.toList
  rwa [← String.toList_append, String.ofList_toList] at told

end Finding

open Finding Findings

/-- The failure of an answer, if it is one, is worded on one line. -/
def PlainFailure (answer : Except Failure String) : Prop :=
  ∀ failure, answer = .error failure → OneLine failure.message

/-! ## What each check says -/

/-- What is said about the listing holds nothing of it, but perhaps a failure of the source. -/
theorem legible_topologyFindings {answer : Except Failure String}
    (failing : PlainFailure answer) :
    Legible (topologyFindings answer) := by
  cases answer with
  | error failure =>
    have worded : OneLine ("could not read CPU topology: " ++ failure.message) :=
      oneLine_append.2 ⟨by decide, failing failure rfl⟩
    exact legible_cons.2 ⟨legible_warning worded, legible_nil⟩
  | ok listing =>
    simp only [topologyFindings, hyperthreadingFindings]
    split
    · exact legible_cons.2 ⟨legible_warning (by decide),
        legible_cons.2 ⟨legible_warning (by decide), legible_nil⟩⟩
    · exact legible_nil

/-- What is said about the cores holds counts. -/
theorem legible_coresFindings (least cores : UInt64) : Legible (coresFindings least cores) := by
  unfold coresFindings
  split
  · have worded : OneLine ("Too few cores: found " ++ Decimal.text cores.toNat
        ++ ", need at least " ++ Decimal.text least.toNat) := by
      simp only [oneLine_append, oneLine_decimal, and_true]
      decide
    exact legible_cons.2 ⟨legible_error worded, legible_nil⟩
  · exact legible_cons.2 ⟨legible_info (by decide) (oneLine_decimal _), legible_nil⟩

/-- What is said about the memory holds two memory figures. -/
theorem legible_memoryFindings (least : Double) (memory : FreeMemory) :
    Legible (memoryFindings least memory) := by
  have found : (info .memory ("memory found: " ++ memory.gigabytes.text ++ " gb")).Legible := by
    rw [String.append_assoc]
    exact legible_info (by decide) (oneLine_append.2 ⟨oneLine_double _, by decide⟩)
  unfold memoryFindings
  split
  · rw [legible_cons]
    exact ⟨found, legible_nil⟩
  · have worded : OneLine ("Should have at least " ++ least.text ++ " gb of free memory (found "
        ++ memory.gigabytes.text ++ " gb)") := by
      simp only [oneLine_append, oneLine_double, and_true]
      decide
    rw [legible_cons, legible_cons]
    exact ⟨found, legible_error worded, legible_nil⟩

/-- A fault of the memory table quotes what it finds there. -/
theorem MeminfoFault.oneLine_message (fault : MeminfoFault) : OneLine fault.message := by
  cases fault with
  | missingLine => decide
  | missingValue line => exact oneLine_append.2 ⟨by decide, oneLine_quoted line⟩
  | notNumeric word => exact oneLine_append.2 ⟨by decide, oneLine_quoted word⟩

/-- The memory figure is missed for a failure of the source or a fault of the table. -/
theorem oneLine_of_freeMemory {answer : Except Failure String} {failure : Failure}
    (failing : PlainFailure answer)
    (unknown : freeMemory answer = .error failure) : OneLine failure.message := by
  cases answer with
  | error cause =>
    obtain rfl : cause = failure := Except.error.inj unknown
    exact failing cause rfl
  | ok table =>
    have faulty : (FreeMemory.ofMeminfo table).mapError MeminfoFault.failure = .error failure :=
      unknown
    cases read : FreeMemory.ofMeminfo table with
    | ok memory => simp [read, Except.mapError] at faulty
    | error fault =>
      obtain rfl : fault.failure = failure := by simpa [read, Except.mapError] using faulty
      exact oneLine_append.2 ⟨by decide, fault.oneLine_message⟩

/-! ## Devices -/

/-- A list of devices stands on one line if every id does. -/
theorem oneLine_cardList {ids : List String} (plain : ∀ id ∈ ids, OneLine id) :
    OneLine (cardList ids) := by
  have quoted : ∀ piece ∈ ids.map cardText, '\n' ∉ piece := by
    intro piece mem
    obtain ⟨id, known, rfl⟩ := List.mem_map.1 mem
    have visible : '\n' ∉ id.toList := plain id known
    simp [cardText, visible]
  have inside : '\n' ∉ [',', ' '].intercalate (ids.map cardText) :=
    newline_notMem_intercalate (by decide) quoted
  rw [cardList, oneLine_ofList]
  simp [inside]

/-- What is said about devices holds their ids. -/
theorem legible_deviceFindings {devices : DeviceReport}
    (primary : ∀ id ∈ devices.primary, OneLine id) (backup : ∀ id ∈ devices.backup, OneLine id) :
    Legible (deviceFindings devices) := by
  have first : (info .devices ("Primary cards: " ++ cardList devices.primary)).Legible :=
    legible_info (by decide) (oneLine_cardList primary)
  have second : (info .devices ("Backup cards: " ++ cardList devices.backup)).Legible :=
    legible_info (by decide) (oneLine_cardList backup)
  unfold deviceFindings
  split
  · exact legible_cons.2 ⟨first, legible_cons.2 ⟨second, legible_nil⟩⟩
  · exact legible_cons.2 ⟨first, legible_cons.2 ⟨legible_warning (by decide), legible_nil⟩⟩
  · exact legible_cons.2 ⟨legible_error (by decide), legible_cons.2 ⟨second, legible_nil⟩⟩
  · exact legible_cons.2 ⟨legible_error (by decide), legible_nil⟩

/-- A word stands on one line, since a line feed is a blank. -/
theorem oneLine_of_isWord {id : String} (word : IsWord id.toList) : OneLine id :=
  fun mem => absurd (word.visible _ mem) (by decide)

/-- The devices that an answer tells are named on one line each. -/
theorem legible_devicesOf (answer : Except Failure String) :
    Legible (deviceFindings (devicesOf answer)) := by
  cases answer with
  | error failure => exact legible_deviceFindings nofun nofun
  | ok status =>
    exact legible_deviceFindings
      (fun _ mem => oneLine_of_isWord (DeviceReport.isWord_of_mem_primary mem))
      fun _ mem => oneLine_of_isWord (DeviceReport.isWord_of_mem_backup mem)

/-- What is said about the lack of a status report holds a failure of the source. -/
theorem legible_unavailableFindings {answer : Except Failure String}
    (failing : PlainFailure answer) :
    Legible (unavailableFindings answer) := by
  cases answer with
  | ok status => exact legible_nil
  | error failure =>
    have worded : OneLine ("device status unavailable: " ++ failure.message) :=
      oneLine_append.2 ⟨by decide, failing failure rfl⟩
    exact legible_cons.2 ⟨legible_error worded, legible_nil⟩

/-! ## What a run says -/

/-- The failures of a source are worded on one line each. -/
structure Source.FailsOnOneLine (source : Source) : Prop where
  topology : PlainFailure (source .cpuTopology)
  meminfo : PlainFailure (source .meminfo)
  status : PlainFailure (source .devbindStatus)

/-- A fixture fails with fixed words. -/
theorem Fixture.failsOnOneLine (fixture : Fixture) : fixture.source.FailsOnOneLine := by
  have absent (text : Option String) {cause : Failure} (worded : OneLine cause.message) :
      PlainFailure (orFailure text cause) := by
    intro failure failed
    cases text with
    | some text => exact nomatch failed
    | none => exact Except.error.inj failed ▸ worded
  constructor
  case topology => exact absent _ (by decide)
  case meminfo => exact absent _ (by decide)
  case status => exact absent _ (by decide)

namespace Source

variable {source : Source} (settings : Settings)

/-- What a run says about the memory can be told from its lines. -/
theorem legible_memory (failing : source.FailsOnOneLine) :
    Legible ((source.course settings).memoryFindings settings.minFreeMemoryGb) := by
  have follows := source.follows_course settings
  generalize source.course settings = course at follows ⊢
  cases follows with
  | fewCores few => exact legible_nil
  | noMemory cores unknown =>
    have worded : OneLine ("could not determine free memory: " ++ _) :=
      oneLine_append.2 ⟨by decide, oneLine_of_freeMemory failing.meminfo unknown⟩
    exact legible_cons.2 ⟨legible_error worded, legible_nil⟩
  | littleMemory cores known little => exact legible_memoryFindings _ _
  | complete cores known enough => exact legible_memoryFindings _ _

/-- What a run says about the devices can be told from its lines. -/
theorem legible_devices (failing : source.FailsOnOneLine) :
    Legible (source.course settings).deviceFindings := by
  have follows := source.follows_course settings
  generalize source.course settings = course at follows ⊢
  cases follows with
  | complete cores known enough =>
    exact legible_append.2 ⟨legible_unavailableFindings failing.status, legible_devicesOf _⟩
  | _ => exact legible_nil

/-- The findings of a run can be told from their lines. -/
theorem legible_report (failing : source.FailsOnOneLine) :
    Legible (source.report settings).findings := by
  have opening : Legible (source.openingFindings settings) :=
    legible_append.2 ⟨legible_topologyFindings failing.topology, legible_coresFindings _ _⟩
  have closing : Legible (source.closingFindings settings) :=
    legible_append.2 ⟨legible_memory settings failing, legible_devices settings failing⟩
  rw [report_eq]
  exact legible_append.2 ⟨opening, closing⟩

end Source

end HostPreflight
