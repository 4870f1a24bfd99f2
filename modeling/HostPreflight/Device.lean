import HostPreflight.Json.Record
import HostPreflight.Text.Fields

/-!
# Network devices

The binding status report has one line for each device.  A line with `if=` has
an interface; the one marked `*Active*` carries the host's own traffic.  Devices
with the same index as the active one sit on the same card and are kept as
backups, all others can be taken over as primary devices.

## Main definitions

* `deviceIndex id` — the part of a device id that names its card.
* `DeviceLine` — a line's device, its index and whether it is active.
* `activeIndex? status` — the index of the first active device.
* `DeviceReport` — the primary and the backup devices.
* `DeviceReport.ofStatus` — sorts the devices of a status report.
-/

namespace HostPreflight

open Text

/-- What marks the device that carries the host's own traffic. -/
def activeMarker : List Char := "*Active*".toList

/-- What marks a device with an interface. -/
def interfaceMarker : List Char := "if=".toList

/-- The digits at the end of a text. -/
def trailingDigits (cs : List Char) : List Char :=
  (cs.reverse.takeWhile Char.isDigit).reverse

/-- The part of a device id that names its card: the field after the first colon,
and without a colon the digits at the end, or all of the id if it has none. -/
def deviceIndex (id : List Char) : List Char :=
  match fields (· == ':') id with
  | _ :: index :: _ => index
  | _ =>
    let digits := trailingDigits id
    if digits.isEmpty then id else digits

/-- A line of the status report. -/
structure DeviceLine where
  id : List Char
  index : List Char
  active : Bool
  deriving DecidableEq, Repr

/-- Reads a line: its first word is the device's id. -/
def DeviceLine.ofLine? (line : List Char) : Option DeviceLine :=
  match words line with
  | [] => none
  | id :: _ => some { id, index := deviceIndex id, active := containsPiece activeMarker line }

/-- The devices that the dataplane can use. -/
structure DeviceReport where
  /-- Devices on another card than the active one. -/
  primary : List String
  /-- Devices on the card of the active one. -/
  backup : List String
  deriving DecidableEq, Repr

namespace DeviceReport

/-- No devices. -/
def empty : DeviceReport := ⟨[], []⟩

/-- The index of the first active device of a status report. -/
def activeIndex? (status : String) : Option (List Char) :=
  (((lines status.toList).filter (containsPiece activeMarker)).findSome? DeviceLine.ofLine?).map
    DeviceLine.index

/-- The lines of a status report that have an interface. -/
def interfaceLines (status : String) : List (List Char) :=
  (lines status.toList).filter (containsPiece interfaceMarker)

/-- The lines with an interface that name no device. -/
def skippedLines (status : String) : List (List Char) :=
  (interfaceLines status).filter fun line => (DeviceLine.ofLine? line).isNone

/-- Whether a device shares the card of the active one. -/
def sharesCard (active : Option (List Char)) (device : DeviceLine) : Bool :=
  active == some device.index

/-- Sorts the devices of a status report. -/
def ofStatus (status : String) : DeviceReport :=
  let active := activeIndex? status
  let devices := (interfaceLines status).filterMap DeviceLine.ofLine?
  let ids (devices : List DeviceLine) : List String :=
    devices.map fun device => String.ofList device.id
  { primary := ids (devices.filter fun device => !sharesCard active device)
    backup := ids (devices.filter fun device => sharesCard active device && !device.active) }

/-- Whether there is no device at all. -/
def isEmpty (devices : DeviceReport) : Bool :=
  devices.primary.isEmpty && devices.backup.isEmpty

/-- The JSON value of a device report. -/
def toJson (devices : DeviceReport) : Json :=
  .record [
    ("primary", .array (devices.primary.map Json.text)),
    ("backup", .array (devices.backup.map Json.text))]

/-- Reads a device report. -/
def ofJson? (v : Json) : Option DeviceReport := do
  match ← v.fields? ["primary", "backup"] with
  | [primary, backup] =>
    return {
      primary := ← Json.required (Json.list? Json.text?) primary
      backup := ← Json.required (Json.list? Json.text?) backup }
  | _ => none

end DeviceReport

end HostPreflight
