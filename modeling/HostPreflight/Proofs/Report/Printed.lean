import HostPreflight.Proofs.Report.Printing
import HostPreflight.Proofs.Run.Messages
import HostPreflight.Proofs.Text.Lines
import HostPreflight.Proofs.Text.Utf8

/-!
# Reading the two streams back

On streams that never fail, each finding puts one line on one of them.  Since no message holds
a line feed, the lines can be told apart again, and since the two severities with a label begin
with different words, so can the findings.

## Main definitions

* `Sink.Willing`, `Streams.Willing` — streams that never fail.
* `Streams.Ready` — two such streams that hold nothing yet.
* `takenLines octets` — what a stream has taken, cut at line feeds.
* `diagnosticOfLine?` — the severity and the message in a line of the error stream.
* `Report.ReadsBack` — a report can be told from its two streams.

## Main statements

* `received_writeFindings` — what findings put on the two streams.
* `takenLines_octets` — lines without line feeds are told apart.
* `readsBack_report` — the report of a run can be told from its two streams.
-/

namespace HostPreflight

open Text

/-! ## Streams that never fail -/

namespace Sink

/-- A stream that never fails. -/
structure Willing (sink : Sink) : Prop where
  unlimited : sink.limit = none
  flushed : sink.flushFails = false

variable {sink : Sink}

/-- Everything fits into a stream that never fails. -/
theorem Willing.fits (willing : sink.Willing) (octets : List UInt8) : sink.fits octets :=
  fits_iff.2 fun _ limited => nomatch willing.unlimited.symm.trans limited

end Sink

namespace Findings

/-- The findings that advise or object. -/
def diagnostics (findings : Findings) : Findings :=
  findings.filter fun finding => finding.severity != .info

/-- The lines of findings in a row, as octets. -/
def octets (findings : Findings) : List UInt8 := findings.flatMap Finding.line

/-- The output stream is sent the lines of the facts. -/
theorem sent_out (findings : Findings) :
    sent .out findings = octets (withSeverity .info findings) := by
  have facts : (fun finding : Finding => decide (finding.channel = .out)) =
      fun finding => finding.severity == .info := by
    funext finding
    cases severity : finding.severity <;> simp [Finding.channel, severity]
  rw [sent, octets, withSeverity, facts, funext Finding.line_eq]

/-- The error stream is sent the lines of all other findings. -/
theorem sent_err (findings : Findings) : sent .err findings = octets (diagnostics findings) := by
  have others : (fun finding : Finding => decide (finding.channel = .err)) =
      fun finding => finding.severity != .info := by
    funext finding
    cases severity : finding.severity <;> simp [Finding.channel, severity]
  rw [sent, octets, diagnostics, others, funext Finding.line_eq]

end Findings

namespace Streams

open Findings

/-- Two streams that never fail. -/
structure Willing (streams : Streams) : Prop where
  out : streams.out.Willing
  err : streams.err.Willing

variable {streams : Streams}

/-- Printing succeeds and leaves the lines of the findings on the two streams, in order. -/
theorem Willing.received_writeFindings (findings : Findings) (willing : streams.Willing) :
    (streams.writeFindings findings).2 = none ∧
      (streams.writeFindings findings).1.out.received =
        streams.out.received ++ octets (withSeverity .info findings) ∧
      (streams.writeFindings findings).1.err.received =
        streams.err.received ++ octets (diagnostics findings) := by
  have fit : streams.Fits findings := by
    intro c
    cases c with
    | out => exact willing.out.fits _
    | err => exact willing.err.fits _
  have printed := writeFindings_append fit []
  rw [List.append_nil] at printed
  rw [printed, ← sent_out, ← sent_err]
  simp [writeFindings, flush, Sink.flush, willing.out.flushed, willing.err.flushed, taking,
    Sink.taking]

end Streams

/-! ## Lines -/

/-- The text of a finding on its line. -/
def Finding.lineText (finding : Finding) : List Char :=
  finding.severity.label.toList ++ finding.message.toList

/-- What a stream has taken, cut at line feeds.  Nothing stands behind the last one. -/
def takenLines (octets : List UInt8) : List (List Char) :=
  (fields (· == '\n') (Utf8.decodeLossy octets)).dropLast

/-- The lines of findings as one text. -/
theorem Findings.octets_eq (findings : Findings) :
    octets findings =
      Utf8.encode ((findings.map Finding.lineText).flatMap fun text => text ++ ['\n']) := by
  simp only [octets, Utf8.encode, List.flatMap_map, List.flatMap_assoc]
  rfl

/-- A label stands on the line of its message. -/
theorem Finding.newline_notMem_lineText {finding : Finding} (oneLine : OneLine finding.message) :
    '\n' ∉ finding.lineText := by
  have label : '\n' ∉ finding.severity.label.toList := by cases finding.severity <;> decide
  simp only [lineText, List.mem_append, not_or]
  exact ⟨label, oneLine⟩

/-- The lines of findings are told apart. -/
theorem Findings.takenLines_octets {findings : Findings}
    (oneLine : ∀ finding ∈ findings, OneLine finding.message) :
    takenLines (octets findings) = findings.map Finding.lineText := by
  have plain : ∀ text ∈ findings.map Finding.lineText, '\n' ∉ text := by
    intro text mem
    obtain ⟨finding, there, rfl⟩ := List.mem_map.1 mem
    exact Finding.newline_notMem_lineText (oneLine finding there)
  rw [takenLines, octets_eq, Utf8.decodeLossy_encode, fields_flatMap_line plain,
    List.dropLast_concat]

/-! ## Findings from lines -/

/-- The severity and the message in a line of the error stream. -/
def diagnosticOfLine? (line : List Char) : Option (Severity × String) :=
  match "warning: ".toList.isPrefixOf? line with
  | some message => some (.warning, String.ofList message)
  | none =>
    ("error: ".toList.isPrefixOf? line).map fun message => (.error, String.ofList message)

/-- The two labels differ. -/
theorem diagnosticOfLine?_lineText {finding : Finding} (problem : finding.severity ≠ .info) :
    diagnosticOfLine? finding.lineText = some (finding.severity, finding.message) := by
  obtain ⟨check, severity, message⟩ := finding
  have back (label : String) :
      label.toList.isPrefixOf? (label.toList ++ message.toList) = some message.toList :=
    List.isPrefixOf?_eq_some_iff_append_eq.2 rfl
  unfold diagnosticOfLine? Finding.lineText
  cases severity with
  | info => exact absurd rfl problem
  | warning =>
    rw [Severity.label, back]
    simp
  | error =>
    have other : "warning: ".toList.isPrefixOf? ("error: ".toList ++ message.toList) = none := rfl
    rw [Severity.label, other, back]
    simp

/-! ## Reports -/

/-- Two streams that never fail and hold nothing yet. -/
structure Streams.Ready (streams : Streams) : Prop extends streams.Willing where
  emptyOut : streams.out.received = []
  emptyErr : streams.err.received = []

/-- Two streams tell findings: each fact has one line on the output stream and every other
finding one line on the error stream, in the order of the findings, so that the facts and the
severities and messages of the others are read off the lines. -/
structure Streams.Tell (streams : Streams) (findings : Findings) : Prop where
  out : streams.out.received = Utf8.encode
    ((findings.withSeverity .info).flatMap fun finding => finding.message.toList ++ ['\n'])
  err : streams.err.received = Utf8.encode
    (findings.diagnostics.flatMap fun finding =>
      finding.severity.label.toList ++ finding.message.toList ++ ['\n'])
  outLines : takenLines streams.out.received =
    (findings.withSeverity .info).map fun finding => finding.message.toList
  errLines : takenLines streams.err.received =
    findings.diagnostics.map fun finding =>
      finding.severity.label.toList ++ finding.message.toList
  facts : (takenLines streams.out.received).filterMap Finding.ofFact? =
    findings.withSeverity .info
  diagnostics : (takenLines streams.err.received).filterMap diagnosticOfLine? =
    findings.diagnostics.map fun finding => (finding.severity, finding.message)

/-- A report can be told from its two streams: no message holds a line feed, and on streams
that never fail, printing succeeds and tells the findings. -/
structure Report.ReadsBack (report : Report) : Prop where
  oneLine : ∀ finding ∈ report.findings, OneLine finding.message
  succeeds : ∀ streams : Streams, streams.Ready → (report.writeText streams).2 = none
  told : ∀ streams : Streams, streams.Ready → (report.writeText streams).1.Tell report.findings

/-- A fact has no label. -/
theorem Finding.lineText_of_info {finding : Finding} (fact : finding.severity = .info) :
    finding.lineText = finding.message.toList := by
  rw [lineText, fact]
  rfl

/-- Reading the lines of findings one by one gives what each of them is read as. -/
theorem Findings.filterMap_lineText {α : Type} {read : List Char → Option α} {value : Finding → α}
    {findings : Findings}
    (reads : ∀ finding ∈ findings, read finding.lineText = some (value finding)) :
    (findings.map Finding.lineText).filterMap read = findings.map value := by
  induction findings with
  | nil => rfl
  | cons finding findings ih =>
    have rest := ih fun other mem => reads other (List.mem_cons_of_mem finding mem)
    rw [List.map_cons, List.filterMap_cons_some (reads finding List.mem_cons_self), rest,
      List.map_cons]

/-- The facts on their lines are their messages. -/
theorem Findings.lineText_facts (findings : Findings) :
    (findings.withSeverity .info).map Finding.lineText =
      (findings.withSeverity .info).map fun finding => finding.message.toList := by
  refine List.map_congr_left fun finding mem => Finding.lineText_of_info ?_
  simpa using (List.mem_filter.1 mem).2

/-- Findings that can be told from their lines are told by streams that have taken them. -/
theorem Findings.Legible.tell {findings : Findings} (legible : findings.Legible)
    {streams : Streams} (out : streams.out.received = octets (findings.withSeverity .info))
    (err : streams.err.received = octets findings.diagnostics) : streams.Tell findings := by
  have facts : ∀ finding ∈ findings.withSeverity .info,
      finding.Legible ∧ finding.severity = .info := by
    intro finding mem
    obtain ⟨there, fact⟩ := List.mem_filter.1 mem
    exact ⟨legible finding there, by simpa using fact⟩
  have problems : ∀ finding ∈ findings.diagnostics,
      finding.Legible ∧ finding.severity ≠ .info := by
    intro finding mem
    obtain ⟨there, problem⟩ := List.mem_filter.1 mem
    exact ⟨legible finding there, by simpa using problem⟩
  have outLines := takenLines_octets fun finding mem => (facts finding mem).1.oneLine
  have errLines := takenLines_octets fun finding mem => (problems finding mem).1.oneLine
  constructor
  case out => rw [out, octets_eq, lineText_facts, List.flatMap_map]
  case err =>
    rw [err, octets_eq, List.flatMap_map]
    rfl
  case outLines => rw [out, outLines, lineText_facts]
  case errLines =>
    rw [err, errLines]
    rfl
  case facts =>
    have read : ∀ finding ∈ findings.withSeverity .info,
        Finding.ofFact? finding.lineText = some (id finding) := by
      intro finding mem
      rw [Finding.lineText_of_info (facts finding mem).2]
      exact (facts finding mem).1.fact (facts finding mem).2
    rw [out, outLines, filterMap_lineText read, List.map_id]
  case diagnostics =>
    rw [err, errLines]
    exact filterMap_lineText fun finding mem => diagnosticOfLine?_lineText (problems finding mem).2

/-- A report with such findings can be told from its two streams. -/
theorem Report.readsBack_of_legible {report : Report} (legible : report.findings.Legible) :
    report.ReadsBack := by
  constructor
  case oneLine => exact fun finding mem => (legible finding mem).oneLine
  case succeeds => exact fun streams ready => (ready.received_writeFindings _).1
  case told =>
    intro streams ready
    obtain ⟨-, out, err⟩ := ready.received_writeFindings report.findings
    rw [ready.emptyOut, List.nil_append] at out
    rw [ready.emptyErr, List.nil_append] at err
    exact legible.tell out err

/-- **The report of a run can be told from its two streams**, for every fixture and for every
source whose failures are worded on one line, whatever the settings. -/
theorem readsBack_report (settings : Settings) :
    (∀ fixture : Fixture, (fixture.source.report settings).ReadsBack) ∧
      ∀ source : Source, source.FailsOnOneLine → (source.report settings).ReadsBack := by
  have told (source : Source) (failing : source.FailsOnOneLine) :
      (source.report settings).ReadsBack :=
    Report.readsBack_of_legible (source.legible_report settings failing)
  exact ⟨fun fixture => told _ fixture.failsOnOneLine, told⟩

/-- A source with a memory table that holds quotes and a backslash where a count should stand,
and with a failure that ends in a carriage return. -/
def garbled : Source
  | .cpuTopology => .error (.commandFailed "lscpu -p" "exit status: 1: \r")
  | .logicalCores => 4
  | .meminfo => .ok "MemTotal: 16000000 kB\nMemFree: \"\\\" kB\n"
  | .devbindStatus => .error (.missingVariable "RTE_SDK")

/-- Its two complaints are read off the error stream, one line each. -/
theorem readsBack_garbled :
    garbled.FailsOnOneLine ∧ (garbled.report .default).ReadsBack ∧
      (takenLines (garbled.report .default).printed.err.received).filterMap diagnosticOfLine? =
        [(.warning, "could not read CPU topology: Command 'lscpu -p' failed: exit status: 1: \r"),
          (.error, "could not determine free memory: Malformed meminfo output: "
            ++ "non-numeric value \"\\\"\\\\\\\"\"")] := by
  have failing : garbled.FailsOnOneLine := by
    constructor
    case topology => exact fun _ failed => Except.error.inj failed ▸ by decide
    case meminfo => exact nofun
    case status => exact fun _ failed => Except.error.inj failed ▸ by decide
  have back := (readsBack_report .default).2 garbled failing
  have ready : Streams.unlimited.Ready := ⟨⟨⟨rfl, rfl⟩, ⟨rfl, rfl⟩⟩, rfl, rfl⟩
  refine ⟨failing, back, (back.told _ ready).diagnostics.trans ?_⟩
  decide +kernel

end HostPreflight
