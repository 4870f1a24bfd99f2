import HostPreflight.Checks
import HostPreflight.Proofs.Device.Classification
import HostPreflight.Proofs.Text.Lines
import Mathlib.Data.List.Infix

/-!
# Every line with an interface is sorted once

Sorting a status report loses nothing and doubles nothing.  Each line with an interface names
a device, and goes to exactly one of three places: its device is a primary one, it is a
backup, or it is withheld.  Both lists keep the order of the report and its repetitions.

## Main definitions

* `sitsOnActiveCard` — whether a line's device sits on the card of the first marked line.
* `SortsOnce` — what is promised about the two lists.

## Main statements

* `deviceIds_filter` — a selection of devices, read off the lines that name them.
* `sortsOnce_ofStatus` — the promise is kept for every status report.
-/

namespace HostPreflight

open Text

namespace DeviceReport

/-- Whether a line's device sits on the card of the first marked line.  Without a marked line
no device does. -/
def sitsOnActiveCard (status : String) (line : List Char) : Bool :=
  match (activeLine? status).bind deviceId?, deviceId? line with
  | some active, some id => deviceIndex id == deviceIndex active
  | _, _ => false

/-- The name of the device on a line. -/
def deviceName? (line : List Char) : Option String := (deviceId? line).map String.ofList

/-- What is promised about the devices that a status report is sorted into. -/
structure SortsOnce (status : String) (devices : DeviceReport) : Prop where
  /-- The lines with an interface are those of the report that hold its marker, in order. -/
  interfaces : ∀ ls, HasLines status.toList ls →
    interfaceLines status = ls.filter fun line => decide ("if=".toList <:+: line)
  /-- Every line with an interface names a device. -/
  named : ∀ line ∈ interfaceLines status, ∃ id, deviceId? line = some id
  /-- So no such line is skipped. -/
  unskipped : ∀ line, .skippedDeviceLine line ∉ deviceEvents status
  /-- The primary devices are those of the lines on other cards, in order. -/
  primary : devices.primary.map some =
    ((interfaceLines status).filter fun line => !sitsOnActiveCard status line).map deviceName?
  /-- The backups are those of the unmarked lines on the active card, in order. -/
  backup : devices.backup.map some =
    ((interfaceLines status).filter fun line =>
      sitsOnActiveCard status line && !containsPiece activeMarker line).map deviceName?
  /-- Without a marked line every device is a primary one. -/
  unmarked : (∀ line ∈ lines status.toList, ¬ activeMarker <:+: line) →
    devices.primary.map some = (interfaceLines status).map deviceName? ∧ devices.backup = []
  /-- Together with the marked lines on the active card this accounts for all lines. -/
  conserved : devices.primary.length + devices.backup.length
      + ((interfaceLines status).filter fun line =>
          sitsOnActiveCard status line && containsPiece activeMarker line).length =
    (interfaceLines status).length

variable {status : String}

/-! ## Devices of lines -/

/-- A selection of devices, read off the lines that name them.  Filtering by a property of
devices is filtering by the same property of lines, because every line has a device. -/
theorem deviceIds_filter {select : DeviceLine → Bool} {choose : List Char → Bool}
    {lines : List (List Char)} (named : ∀ line ∈ lines, ∃ id, deviceId? line = some id)
    (same : ∀ line ∈ lines, ∀ id, deviceId? line = some id →
      select ⟨id, deviceIndex id, containsPiece activeMarker line⟩ = choose line) :
    (((lines.filterMap DeviceLine.ofLine?).filter select).map fun device =>
        String.ofList device.id).map some =
      (lines.filter choose).map deviceName? := by
  induction lines with
  | nil => rfl
  | cons line lines ih =>
    obtain ⟨id, name⟩ := named line (List.mem_cons_self ..)
    have first := same line (List.mem_cons_self ..) id name
    have others := ih (fun other mem => named other (List.mem_cons_of_mem line mem))
      fun other mem => same other (List.mem_cons_of_mem line mem)
    have read : DeviceLine.ofLine? line =
        some ⟨id, deviceIndex id, containsPiece activeMarker line⟩ := by
      rw [ofLine?_eq, name, Option.map_some]
    rw [List.filterMap_cons_some read, List.filter_cons, List.filter_cons, first]
    cases choose line with
    | false => simpa using others
    | true => simp [deviceName?, name, ← others]

/-- The card of a line's device is the active one exactly if its device sits there. -/
theorem sharesCard_eq {line id : List Char} (name : deviceId? line = some id) (active : Bool) :
    sharesCard (activeIndex? status) ⟨id, deviceIndex id, active⟩ =
      sitsOnActiveCard status line := by
  rw [sharesCard, sitsOnActiveCard, activeIndex?_eq, name]
  cases (activeLine? status).bind deviceId? with
  | none => rfl
  | some first => simp [eq_comm]

/-- Lines are on other cards, unmarked on the active card, or marked on the active card. -/
theorem length_three_ways (lines : List (List Char)) (onCard marked : List Char → Bool) :
    (lines.filter fun line => !onCard line).length
        + (lines.filter fun line => onCard line && !marked line).length
        + (lines.filter fun line => onCard line && marked line).length =
      lines.length := by
  have cards := lines.length_eq_length_filter_add onCard
  have marks := (lines.filter onCard).length_eq_length_filter_add marked
  simp only [List.filter_filter, Bool.and_comm _ (onCard _)] at marks
  omega

/-! ## The sorted devices -/

/-- The primary devices, line by line. -/
theorem primary_ofStatus (status : String) :
    (ofStatus status).primary.map some =
      ((interfaceLines status).filter fun line => !sitsOnActiveCard status line).map
        deviceName? := by
  refine deviceIds_filter (fun line mem => exists_deviceId_of_interface mem) ?_
  intro line _ id name
  rw [sharesCard_eq name]

/-- The backups, line by line. -/
theorem backup_ofStatus (status : String) :
    (ofStatus status).backup.map some =
      ((interfaceLines status).filter fun line =>
        sitsOnActiveCard status line && !containsPiece activeMarker line).map deviceName? := by
  refine deviceIds_filter (fun line mem => exists_deviceId_of_interface mem) ?_
  intro line _ id name
  rw [sharesCard_eq name]

/-- No line with an interface is skipped, since it names a device. -/
theorem skippedLines_eq_nil (status : String) : skippedLines status = [] := by
  rw [skippedLines, List.filter_eq_nil_iff]
  intro line mem
  obtain ⟨id, name⟩ := exists_deviceId_of_interface mem
  simp [ofLine?_eq, name]

/-- Without a marked line no device sits on the active card. -/
theorem sitsOnActiveCard_of_unmarked
    (unmarked : ∀ line ∈ lines status.toList, ¬ activeMarker <:+: line) (line : List Char) :
    sitsOnActiveCard status line = false := by
  have none : activeLine? status = none := by
    rw [activeLine?, List.find?_eq_none]
    exact fun line mem => mt containsPiece_iff.1 (unmarked line mem)
  rw [sitsOnActiveCard, none, Option.bind_none]

/-- **Every line with an interface is sorted once**, in order and with its repetitions. -/
theorem sortsOnce_ofStatus (status : String) : SortsOnce status (ofStatus status) := by
  have primary := primary_ofStatus status
  have backup := backup_ofStatus status
  constructor
  case interfaces =>
    intro ls laidOut
    rw [interfaceLines, laidOut.lines_eq]
    refine List.filter_congr fun line _ => ?_
    rw [Bool.eq_iff_iff, containsPiece_iff, decide_eq_true_iff, interfaceMarker]
  case named => exact fun line mem => exists_deviceId_of_interface mem
  case unskipped =>
    intro line
    rw [deviceEvents, skippedLines_eq_nil]
    cases activeIndex? status <;> simp
  case primary => exact primary
  case backup => exact backup
  case unmarked =>
    intro unmarked
    have elsewhere := sitsOnActiveCard_of_unmarked unmarked
    have all : (interfaceLines status).filter (fun line => !sitsOnActiveCard status line) =
        interfaceLines status := List.filter_eq_self.2 fun line _ => by simp [elsewhere line]
    have none : (interfaceLines status).filter (fun line =>
        sitsOnActiveCard status line && !containsPiece activeMarker line) = [] :=
      List.filter_eq_nil_iff.2 fun line _ => by simp [elsewhere line]
    rw [all] at primary
    rw [none] at backup
    exact ⟨primary, List.map_eq_nil_iff.1 backup⟩
  case conserved =>
    have primaries := congrArg List.length primary
    have backups := congrArg List.length backup
    have all := length_three_ways (interfaceLines status) (sitsOnActiveCard status)
      (containsPiece activeMarker)
    simp only [List.length_map] at primaries backups
    rw [primaries, backups, all]

/-- A device that two lines name is offered twice, at the place of each line; a marked line
without an interface names the active card. -/
example :
    let status := "eth0 *Active*\neth1 if=a\neth10 if=b\neth1 if=a\nens0 if=c *Active*\n"
    (ofStatus status).primary = ["eth1", "eth10", "eth1"] ∧ (ofStatus status).backup = [] := by
  decide +kernel

end DeviceReport

end HostPreflight
