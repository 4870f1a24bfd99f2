import HostPreflight.Proofs.Device.Classification
import HostPreflight.Proofs.Json.Record
import HostPreflight.Proofs.Run.Course
import HostPreflight.Proofs.Text.Start

/-!
# Lists of devices are read back

A run lists devices in apostrophes and with commas between them, and it spells nothing out: an
id that holds an apostrophe, a comma or a bracket is listed as it is.  There is nevertheless
only one way to read the list.  Ids are words, so a blank stands between two of them and
nowhere else.

## Main definitions

* `cards?` — reads a list of devices.
* `Findings.listed heading findings` — the devices that stand behind a heading.

## Main statements

* `cards?_cardList` — a list of words is read back.
* `Source.listed_report` — the devices of a report are read back from what the run says.
* `cardLists_unambiguous` — lists of classified devices tell which devices these are.
-/

namespace HostPreflight

open Text

/-! ## Reading a list -/

/-- Reads an id in apostrophes, with a comma behind it. -/
def cardId? : List Char → Option String
  | '\x27' :: rest =>
    match rest.reverse with
    | ',' :: '\x27' :: id => some (String.ofList id.reverse)
    | _ => none
  | _ => none

/-- Reads a list of devices.  A comma behind the last one makes it look like the others, which
are told apart by the blanks between them. -/
def cards? : List Char → Option (List String)
  | '[' :: rest =>
    if rest.getLast? = some ']' then
      if rest.dropLast.isEmpty then some [] else (words (rest.dropLast ++ [','])).mapM cardId?
    else none
  | _ => none

variable {ids : List String}

/-- An id is read back, whatever it holds. -/
theorem cardId?_cardText (id : String) : cardId? (cardText id ++ [',']) = some id := by
  simp [cardId?, cardText]

/-- In a list every word but the last one ends in a comma. -/
theorem intercalate_append_comma {pieces : List (List Char)} (some : pieces ≠ []) :
    [',', ' '].intercalate pieces ++ [','] =
      [' '].intercalate (pieces.map fun piece => piece ++ [',']) := by
  induction pieces with
  | nil => exact absurd rfl some
  | cons first others ih =>
    cases others with
    | nil => simp
    | cons second others =>
      rw [List.intercalate_cons_cons, List.append_assoc, ih (List.cons_ne_nil _ _)]
      simp [List.intercalate_cons_cons]

/-- An id in apostrophes, with a comma behind it, is a word if the id is one. -/
theorem isWord_cardText {id : String} (word : IsWord id.toList) :
    IsWord (cardText id ++ [',']) where
  nonempty := by simp
  visible := by
    intro c mem
    simp only [cardText, List.cons_append, List.append_assoc, List.mem_cons, List.mem_append,
      List.not_mem_nil, or_false, false_or] at mem
    rcases mem with rfl | inside | rfl | rfl
    · decide
    · exact word.visible c inside
    · decide
    · decide

/-- **A list of words is read back.** -/
theorem cards?_cardList (named : ∀ id ∈ ids, IsWord id.toList) :
    cards? (cardList ids).toList = some ids := by
  cases ids with
  | nil => decide
  | cons id others =>
    have pieces : ((id :: others).map cardText) ≠ [] := by simp
    have inside : ([',', ' '].intercalate ((id :: others).map cardText)) ≠ [] := by
      rw [List.map_cons]
      cases others <;> simp [List.intercalate_cons_cons, cardText]
    have told : words ([',', ' '].intercalate ((id :: others).map cardText) ++ [',']) =
        (id :: others).map fun id => cardText id ++ [','] := by
      rw [intercalate_append_comma pieces, List.map_map]
      refine (spaced_intercalate fun word mem => ?_).words_eq
      obtain ⟨id, listed, rfl⟩ := List.mem_map.1 mem
      exact isWord_cardText (named id listed)
    have read := Json.mapM_map_of cardId?_cardText (id :: others)
    rw [cardList, String.toList_ofList, List.cons_append, cards?, List.getLast?_concat,
      if_pos rfl, List.dropLast_concat, if_neg (by simpa using inside), told, read]

/-- Different lists of words are written differently. -/
theorem cardList_inj {ids' : List String} (named : ∀ id ∈ ids, IsWord id.toList)
    (named' : ∀ id ∈ ids', IsWord id.toList) (same : cardList ids = cardList ids') :
    ids = ids' := by
  have read := cards?_cardList named
  rw [same, cards?_cardList named', Option.some.injEq] at read
  exact read.symm

/-! ## Reading what a run says -/

/-- The devices that a finding lists behind a heading. -/
def Finding.listed? (heading : String) (finding : Finding) : Option (List String) :=
  if Begins heading finding.message then
    cards? (finding.message.toList.drop heading.toList.length)
  else none

namespace Findings

/-- The devices that stand behind a heading in some findings; none if there is no such heading. -/
def listed (heading : String) (findings : Findings) : List String :=
  (findings.findSome? (Finding.listed? heading)).getD []

@[simp] theorem listed_nil (heading : String) : listed heading [] = [] := rfl

/-- The first finding with the heading counts. -/
@[simp] theorem listed_cons (heading : String) (finding : Finding) (findings : Findings) :
    listed heading (finding :: findings) =
      (finding.listed? heading).getD (listed heading findings) := by
  unfold listed
  rw [List.findSome?_cons]
  cases finding.listed? heading <;> rfl

/-- What the findings begin with that list no devices. -/
def otherStarts : List String :=
  ["could not read CPU topology: ", "disable hyperthreading", "Run: ", "Too few cores: found ",
    "sockets found: ", "could not determine free memory: ", "memory found: ",
    "Should have at least ", "device status unavailable: ", "no backup cards found",
    "primary devs not found", "no suitable eth cards found"]

/-- None of the findings lists devices. -/
def Unlisted (findings : Findings) : Prop :=
  ∀ finding ∈ findings, ∃ start ∈ otherStarts, Begins start finding.message

/-- The headings of devices part from all other beginnings. -/
theorem apart_heading {heading : String} (known : heading ∈ ["Primary cards: ", "Backup cards: "]) :
    ∀ start ∈ otherStarts, Apart heading start := by
  revert heading
  decide

end Findings

open Findings

variable {check : Check} {heading start : String} {finding : Finding}

/-- A list of words is read back behind its heading. -/
theorem Finding.listed?_cardList (named : ∀ id ∈ ids, IsWord id.toList) :
    (Finding.info check (heading ++ cardList ids)).listed? heading = some ids := by
  rw [listed?, info, if_pos (begins_append ..), String.toList_append, List.drop_left,
    cards?_cardList named]

/-- A finding that begins in another way lists nothing. -/
theorem Finding.listed?_of_apart (apart : Apart heading start)
    (begins : Begins start finding.message) : finding.listed? heading = none :=
  if_neg (apart.not_begins begins)

/-- Findings that list no devices can be left out. -/
theorem Findings.listed_append {a b : Findings} (unlisted : Unlisted a)
    (known : heading ∈ ["Primary cards: ", "Backup cards: "]) :
    listed heading (a ++ b) = listed heading b := by
  have none : a.findSome? (Finding.listed? heading) = none := by
    rw [List.findSome?_eq_none_iff]
    intro finding mem
    obtain ⟨start, other, begins⟩ := unlisted finding mem
    exact Finding.listed?_of_apart (apart_heading known start other) begins
  rw [listed, List.findSome?_append, none, Option.none_or, listed]

/-- What is said about the listing of the processors lists no devices. -/
theorem unlisted_topologyFindings (answer : Except Failure String) :
    Unlisted (topologyFindings answer) := by
  cases answer with
  | error failure =>
    intro finding mem
    obtain rfl := List.mem_singleton.1 mem
    exact ⟨_, by decide, begins_append "could not read CPU topology: " _⟩
  | ok listing =>
    cases on : (CpuTopology.ofListing listing).hyperthreading with
    | false => simp [topologyFindings, hyperthreadingFindings, on, Unlisted]
    | true =>
      rw [topologyFindings, on, Unlisted]
      decide

/-- Nor does what is said about the cores. -/
theorem unlisted_coresFindings (least cores : UInt64) : Unlisted (coresFindings least cores) := by
  intro finding mem
  unfold coresFindings at mem
  split at mem <;> obtain rfl := List.mem_singleton.1 mem
  · exact ⟨"Too few cores: found ", by decide, ((begins_append ..).append _).append _⟩
  · exact ⟨"sockets found: ", by decide, begins_append ..⟩

/-- Nor does what is said about the memory. -/
theorem unlisted_memoryFindings (least : Double) (memory : FreeMemory) :
    Unlisted (memoryFindings least memory) := by
  intro finding mem
  rcases List.mem_cons.1 mem with rfl | mem
  · exact ⟨"memory found: ", by decide, (begins_append ..).append _⟩
  · split at mem
    · exact absurd mem List.not_mem_nil
    · obtain rfl := List.mem_singleton.1 mem
      exact ⟨"Should have at least ", by decide,
        (((begins_append ..).append _).append _).append _⟩

/-- Nor does what is said about an unavailable status report. -/
theorem unlisted_unavailableFindings (answer : Except Failure String) :
    Unlisted (unavailableFindings answer) := by
  cases answer with
  | ok status => exact nofun
  | error failure =>
    intro finding mem
    obtain rfl := List.mem_singleton.1 mem
    exact ⟨_, by decide, begins_append "device status unavailable: " _⟩

/-- The devices are read back from what is said about them. -/
theorem listed_deviceFindings {devices : DeviceReport}
    (primary : ∀ id ∈ devices.primary, IsWord id.toList)
    (backup : ∀ id ∈ devices.backup, IsWord id.toList) :
    listed "Primary cards: " (deviceFindings devices) = devices.primary ∧
      listed "Backup cards: " (deviceFindings devices) = devices.backup := by
  let first := Finding.info .devices ("Primary cards: " ++ cardList devices.primary)
  let second := Finding.info .devices ("Backup cards: " ++ cardList devices.backup)
  have read : first.listed? "Primary cards: " = some devices.primary :=
    Finding.listed?_cardList primary
  have read' : second.listed? "Backup cards: " = some devices.backup :=
    Finding.listed?_cardList backup
  have other : first.listed? "Backup cards: " = none :=
    Finding.listed?_of_apart (by decide) (begins_append "Primary cards: " _)
  have other' : second.listed? "Primary cards: " = none :=
    Finding.listed?_of_apart (by decide) (begins_append "Backup cards: " _)
  have noHeading : (Finding.warning .devices "no backup cards found").listed? "Backup cards: " =
      none := by decide
  have noHeading' : ∀ heading ∈ ["Primary cards: ", "Backup cards: "],
      (Finding.error .devices "primary devs not found").listed? heading = none := by decide
  unfold deviceFindings
  cases noPrimary : devices.primary.isEmpty <;> cases noBackup : devices.backup.isEmpty
  · change listed _ [first, second] = _ ∧ listed _ [first, second] = _
    simp [read, read', other]
  · change listed _ [first, _] = _ ∧ listed _ [first, _] = _
    simp [read, other, noHeading, List.isEmpty_iff.1 noBackup]
  · change listed _ [_, second] = _ ∧ listed _ [_, second] = _
    simp [read', other', noHeading', List.isEmpty_iff.1 noPrimary]
  · rw [List.isEmpty_iff.1 noPrimary, List.isEmpty_iff.1 noBackup]
    decide

/-- The devices that an answer tells are words. -/
theorem isWord_devicesOf (answer : Except Failure String) :
    (∀ id ∈ (devicesOf answer).primary, IsWord id.toList) ∧
      ∀ id ∈ (devicesOf answer).backup, IsWord id.toList := by
  cases answer with
  | error failure => exact ⟨nofun, nofun⟩
  | ok status =>
    exact ⟨fun _ => DeviceReport.isWord_of_mem_primary, fun _ => DeviceReport.isWord_of_mem_backup⟩

/-- **The devices of a report are read back from what the run says.** -/
theorem Source.listed_report {source : Source} {settings : Settings} {devices : DeviceReport}
    (known : (source.report settings).devices = some devices) :
    devices = devicesOf (source .devbindStatus) ∧
    listed "Primary cards: " (source.report settings).findings = devices.primary ∧
      listed "Backup cards: " (source.report settings).findings = devices.backup := by
  have follows := source.follows_course settings
  rw [report_eq] at known ⊢
  rw [outcome] at known ⊢
  simp only [allFindings, openingFindings, closingFindings] at known ⊢
  generalize source.course settings = course at follows known ⊢
  cases follows with
  | @complete memory cores found enough =>
    obtain rfl : devicesOf (source .devbindStatus) = devices := by simpa using known
    obtain ⟨primary, backup⟩ := isWord_devicesOf (source .devbindStatus)
    have skip {heading : String} (shown : heading ∈ ["Primary cards: ", "Backup cards: "]) :
        listed heading (topologyFindings (source .cpuTopology)
            ++ coresFindings settings.minCores (source .logicalCores)
            ++ (memoryFindings settings.minFreeMemoryGb memory
              ++ (unavailableFindings (source .devbindStatus)
                ++ deviceFindings (devicesOf (source .devbindStatus))))) =
          listed heading (deviceFindings (devicesOf (source .devbindStatus))) := by
      rw [List.append_assoc, listed_append (unlisted_topologyFindings _) shown,
        listed_append (unlisted_coresFindings _ _) shown,
        listed_append (unlisted_memoryFindings _ _) shown,
        listed_append (unlisted_unavailableFindings _) shown]
    have read := listed_deviceFindings primary backup
    exact ⟨rfl, (skip (by simp)).trans read.1, (skip (by simp)).trans read.2⟩
  | _ => simp at known

/-- **Lists of devices are unambiguous.**  Status reports whose primary devices, or whose
backups, are listed alike have the same ones, in order and with their repetitions: devices are
words, and a list of words can be read in one way only.  So the devices of a report, which are
those of the status report, are read back from what the run says. -/
theorem cardLists_unambiguous :
    (∀ status status' : String,
      (cardList (DeviceReport.ofStatus status).primary =
          cardList (DeviceReport.ofStatus status').primary →
        (DeviceReport.ofStatus status).primary = (DeviceReport.ofStatus status').primary) ∧
      (cardList (DeviceReport.ofStatus status).backup =
          cardList (DeviceReport.ofStatus status').backup →
        (DeviceReport.ofStatus status).backup = (DeviceReport.ofStatus status').backup)) ∧
    (∀ status : String,
      (∀ id ∈ (DeviceReport.ofStatus status).primary, IsWord id.toList) ∧
        ∀ id ∈ (DeviceReport.ofStatus status).backup, IsWord id.toList) ∧
    (∀ (source : Source) (settings : Settings) (devices : DeviceReport),
      (source.report settings).devices = some devices →
      devices = devicesOf (source .devbindStatus) ∧
        listed "Primary cards: " (source.report settings).findings = devices.primary ∧
        listed "Backup cards: " (source.report settings).findings = devices.backup) := by
  have words (status : String) := isWord_devicesOf (.ok status)
  refine ⟨fun status status' => ⟨?_, ?_⟩, words, fun source settings devices => ?_⟩
  · exact cardList_inj (words status).1 (words status').1
  · exact cardList_inj (words status).2 (words status').2
  · exact Source.listed_report

/-- Two devices whose ids look like parts of a list are listed as what might be three devices,
and read back as two.  A status report that tells more of them has the same list. -/
theorem cardLists_unambiguous_quoted :
    let status := "[a','b'], if=eth0\n'a' if=eth1\n"
    let longer := "[a','b'], if=eth0 drv=ixgbe\nno device\n'a' if=eth1\n"
    let source := Fixture.source { Fixture.healthy with devbind := some status }
    (DeviceReport.ofStatus longer).primary = (DeviceReport.ofStatus status).primary ∧
      (source.report .default).devices = some ⟨["[a','b'],", "'a'"], []⟩ ∧
      .info .devices "Primary cards: ['[a','b'],', ''a'']" ∈ (source.report .default).findings ∧
      listed "Primary cards: " (source.report .default).findings = ["[a','b'],", "'a'"] := by
  intro status longer source
  have alike : cardList (DeviceReport.ofStatus longer).primary =
      cardList (DeviceReport.ofStatus status).primary := by
    decide +kernel
  have known : (source.report .default).devices = some ⟨["[a','b'],", "'a'"], []⟩ := by
    decide +kernel
  exact ⟨(cardLists_unambiguous.1 longer status).1 alike, known, by decide +kernel,
    (cardLists_unambiguous.2.2 source .default _ known).2.1⟩

end HostPreflight
