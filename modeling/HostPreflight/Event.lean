import HostPreflight.Decimal.Digits
import HostPreflight.Report
import HostPreflight.Text.Quoted

/-!
# Events

What a run notes in the log while it goes on.

## Main definitions

* `Event` — the things that are noted.
* `Event.level`, `Event.text` — how they appear in the log.
-/

namespace HostPreflight

/-- How important an event is. -/
inductive Level where
  | debug
  | info
  deriving DecidableEq, Repr

/-- The name of a level in logs. -/
def Level.name : Level → String
  | .debug => "DEBUG"
  | .info => "INFO"

/-- Something that is noted in the log. -/
inductive Event where
  /-- A finding was made. -/
  | found (finding : Finding)
  /-- A line of the processor listing is not a row. -/
  | skippedTopologyLine (line : List Char)
  /-- The card of the active device is known by its index. -/
  | activeIndex (index : List Char)
  /-- No device of the status report is active. -/
  | noActiveDevice
  /-- A line of the status report names no device. -/
  | skippedDeviceLine (line : List Char)
  /-- A command is started. -/
  | running (commandLine : String)
  /-- An entry of the library directory is not a shared object. -/
  | ignoring (entry : List Char)
  /-- The library directory was searched. -/
  | foundLibraries (count : Nat) (directory : String)
  /-- The checks are done. -/
  | finished (status : Status) (findings : Nat)
  deriving DecidableEq, Repr

namespace Event

/-- The level of an event: the two summaries are more important than the details. -/
def level : Event → Level
  | .foundLibraries .. => .info
  | .finished .. => .info
  | _ => .debug

/-- The text of an event. -/
def text : Event → String
  | .found finding =>
    "[" ++ finding.check.name ++ "] " ++ finding.severity.title ++ ": " ++ finding.message
  | .skippedTopologyLine line =>
    "Skipping topology line: " ++ String.ofList (Text.quoted line)
  | .activeIndex index => "Active device index: " ++ String.ofList index
  | .noActiveDevice => "No active device in status report"
  | .skippedDeviceLine line => "Skipping device line: " ++ String.ofList (Text.quoted line)
  | .running commandLine => "Running " ++ commandLine
  | .ignoring entry => "Ignoring " ++ String.ofList entry
  | .foundLibraries count directory =>
    "Found " ++ Decimal.text count ++ " DPDK libraries in " ++ directory
  | .finished status findings =>
    "Preflight finished: " ++ status.title ++ " (" ++ Decimal.text findings ++ " findings)"

end Event

end HostPreflight
