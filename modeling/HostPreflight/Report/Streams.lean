import HostPreflight.Failure.Cause
import HostPreflight.Report
import HostPreflight.Text.Utf8

/-!
# Findings on two streams

The findings of a report are printed in order, each on a line of its own: facts
on the output stream, advice and objections on the error stream with their
severity in front.  A stream may take only so many octets and may refuse to be
flushed; printing stops at the first failure.

## Main definitions

* `Sink` — a stream with what it has received; `Sink.write`, `Sink.flush`.
* `Streams` — the output stream and the error stream.
* `Finding.line` — the line of a finding.
* `Report.writeText` — prints the findings of a report.
-/

namespace HostPreflight

/-- A stream and what it has received. -/
structure Sink where
  /-- The number of octets that it takes in all, if there is a limit. -/
  limit : Option Nat
  /-- Whether it refuses to be flushed. -/
  flushFails : Bool
  /-- The octets that it has taken. -/
  received : List UInt8
  /-- How often it was asked to flush. -/
  flushes : Nat
  deriving DecidableEq

namespace Sink

/-- A stream that has received nothing yet. -/
def fresh (limit : Option Nat) (flushFails : Bool) : Sink := ⟨limit, flushFails, [], 0⟩

/-- A stream that takes everything. -/
def unlimited : Sink := fresh none false

/-- How many more octets a stream takes; none if there is no limit. -/
def room (sink : Sink) : Option Nat := sink.limit.map fun limit => limit - sink.received.length

/-- Whether some octets fit into a stream. -/
def fits (sink : Sink) (octets : List UInt8) : Bool :=
  match sink.room with
  | none => true
  | some room => octets.length ≤ room

/-- Sends octets to a stream: it takes what fits, and fails unless that is all. -/
def write (sink : Sink) (octets : List UInt8) : Sink × Option Failure.Cause :=
  match sink.room with
  | none => ({ sink with received := sink.received ++ octets }, none)
  | some room =>
    ({ sink with received := sink.received ++ octets.take room },
      if octets.length ≤ room then none else some .writeZero)

/-- What a stream says that refuses to be flushed. -/
def flushRefused : Failure.Cause := .described .other "flush refused"

/-- Asks a stream to flush. -/
def flush (sink : Sink) : Sink × Option Failure.Cause :=
  ({ sink with flushes := sink.flushes + 1 }, if sink.flushFails then some flushRefused else none)

end Sink

/-- The output stream and the error stream. -/
structure Streams where
  out : Sink
  err : Sink
  deriving DecidableEq

/-- What stands before a message on the error stream. -/
def Severity.label : Severity → String
  | .info => ""
  | .warning => "warning: "
  | .error => "error: "

/-- The line of a finding, with its line feed. -/
def Finding.line (finding : Finding) : List UInt8 :=
  Text.Utf8.encode (finding.severity.label.toList ++ finding.message.toList ++ ['\n'])

namespace Streams

/-- Sends the line of a finding to its stream. -/
def writeFinding (streams : Streams) (finding : Finding) : Streams × Option Failure.Cause :=
  if finding.severity.isDiagnostic then
    ({ streams with err := (streams.err.write finding.line).1 },
      (streams.err.write finding.line).2)
  else
    ({ streams with out := (streams.out.write finding.line).1 },
      (streams.out.write finding.line).2)

/-- Flushes the output stream and then, if that succeeds, the error stream. -/
def flush (streams : Streams) : Streams × Option Failure.Cause :=
  match streams.out.flush with
  | (out, some cause) => ({ streams with out }, some cause)
  | (out, none) => ({ out, err := streams.err.flush.1 }, streams.err.flush.2)

/-- Sends findings to their streams and flushes both, up to the first failure. -/
def writeFindings (streams : Streams) : Findings → Streams × Option Failure.Cause
  | [] => streams.flush
  | finding :: findings =>
    match streams.writeFinding finding with
    | (streams, some cause) => (streams, some cause)
    | (streams, none) => streams.writeFindings findings

/-- Two streams that take everything. -/
def unlimited : Streams := ⟨.unlimited, .unlimited⟩

end Streams

/-- Prints the findings of a report. -/
def Report.writeText (report : Report) (streams : Streams) : Streams × Option Failure.Cause :=
  streams.writeFindings report.findings

/-- What printing a report leaves on two streams that take everything. -/
def Report.printed (report : Report) : Streams := (report.writeText .unlimited).1

end HostPreflight
