import HostPreflight.Report.Streams

/-!
# Printing findings

What printing does to the two streams, finding by finding.  The invariant of the printing loop
is that as long as everything fits, the two streams differ from the ones at the start by
exactly the findings already printed.

A finding may be sent in pieces, such as its label, its message and a line feed.  A stream that
takes so many octets and no more takes the same of the whole line, so the pieces do not matter.

## Main definitions

* `Sink.taking octets` — a stream that has taken more octets.
* `Sink.writePieces` — sends pieces to a stream one after another.
* `Channel` — the two streams; `Finding.channel` — the one to which a finding goes.
* `Findings.sent c findings` — what findings put on a stream.
* `Streams.Fits` — all findings fit into what the streams still take.
* `Streams.writeFindingsIn cut` — the printing loop, with each finding sent in pieces.

## Main statements

* `Sink.writePieces_eq` — a text may be written in pieces.
* `writeFinding_of_fits`, `writeFindings_cons_of_limit` — a finding that fits, and one that
  does not.
* `writeFindings_append` — all findings that fit.
* `writeFindingsIn_eq` — the pieces do not matter.
-/

namespace HostPreflight

open Text

/-! ## One stream -/

namespace Sink

variable {sink : Sink} {octets octets' : List UInt8} {limit : Nat}

/-- A stream that has taken more octets. -/
def taking (sink : Sink) (octets : List UInt8) : Sink :=
  { sink with received := sink.received ++ octets }

@[simp] theorem taking_nil (sink : Sink) : sink.taking [] = sink := by
  simp [taking]

theorem taking_taking (sink : Sink) (octets octets' : List UInt8) :
    (sink.taking octets).taking octets' = sink.taking (octets ++ octets') := by
  simp [taking]

theorem room_of_none (unlimited : sink.limit = none) : sink.room = none := by
  rw [room, unlimited, Option.map_none]

theorem room_of_limit (limited : sink.limit = some limit) :
    sink.room = some (limit - sink.received.length) := by
  rw [room, limited, Option.map_some]

/-- Octets fit into a stream without a limit, and otherwise if the limit leaves room. -/
theorem fits_iff :
    sink.fits octets ↔
      ∀ limit, sink.limit = some limit → octets.length ≤ limit - sink.received.length := by
  unfold fits
  cases limited : sink.limit with
  | none => simp [room_of_none limited]
  | some limit => simp [room_of_limit limited]

/-- Octets that do not fit meet a limit. -/
theorem exists_limit_of_not_fits (h : sink.fits octets = false) :
    ∃ limit, sink.limit = some limit ∧ limit - sink.received.length < octets.length := by
  unfold fits at h
  cases limited : sink.limit with
  | none => simp [room_of_none limited] at h
  | some limit => exact ⟨limit, rfl, by simpa [room_of_limit limited] using h⟩

/-- A limited stream takes as much as there is room for, and fails if that is not all. -/
theorem write_eq_of_limit (limited : sink.limit = some limit) (octets : List UInt8) :
    sink.write octets =
      (sink.taking (octets.take (limit - sink.received.length)),
        if octets.length ≤ limit - sink.received.length then none else some .writeZero) := by
  unfold write
  rw [room_of_limit limited]
  rfl

/-- What fits is taken. -/
theorem write_of_fits (h : sink.fits octets) : sink.write octets = (sink.taking octets, none) := by
  cases limited : sink.limit with
  | none =>
    unfold write
    rw [room_of_none limited]
    rfl
  | some limit =>
    have enough := fits_iff.1 h limit limited
    rw [write_eq_of_limit limited, if_pos enough, List.take_of_length_le enough]

/-- Of what does not fit the stream takes as much as there is room for, and fails. -/
theorem write_of_limit (limited : sink.limit = some limit)
    (short : limit - sink.received.length < octets.length) :
    sink.write octets =
      (sink.taking (octets.take (limit - sink.received.length)), some .writeZero) := by
  rw [write_eq_of_limit limited, if_neg (Nat.not_le.2 short)]

/-- Octets fit in a row if the first ones fit and then the others. -/
theorem fits_append : sink.fits (octets ++ octets') ↔
    sink.fits octets ∧ (sink.taking octets).fits octets' := by
  simp only [fits_iff, taking, List.length_append]
  constructor
  · intro h
    refine ⟨fun limit limited => ?_, fun limit limited => ?_⟩ <;>
    · have := h limit limited
      omega
  · rintro ⟨h, h'⟩ limit limited
    have := h limit limited
    have := h' limit limited
    omega

/-- Sends pieces to a stream one after another, up to the first failure. -/
def writePieces (sink : Sink) : List (List UInt8) → Sink × Option Failure.Cause
  | [] => (sink, none)
  | piece :: pieces =>
    match sink.write piece with
    | (sink, some cause) => (sink, some cause)
    | (sink, none) => sink.writePieces pieces

/-- What follows octets that fit is written as if they had been written before. -/
theorem write_append_of_fits (h : sink.fits octets) (octets' : List UInt8) :
    sink.write (octets ++ octets') = (sink.taking octets).write octets' := by
  cases fitting : (sink.taking octets).fits octets' with
  | true =>
    rw [write_of_fits (fits_append.2 ⟨h, fitting⟩), write_of_fits fitting, taking_taking]
  | false =>
    obtain ⟨limit, limited, short⟩ := exists_limit_of_not_fits fitting
    have room := fits_iff.1 h limit limited
    have left : limit - (sink.taking octets).received.length =
        limit - sink.received.length - octets.length := by
      simp only [taking, List.length_append]
      omega
    rw [left] at short
    have whole : limit - sink.received.length < (octets ++ octets').length := by
      rw [List.length_append]
      omega
    have limited' : sink.limit = some limit := limited
    rw [write_of_limit limited' whole, write_of_limit limited (left ▸ short), left, taking_taking,
      List.take_append, List.take_of_length_le room]

/-- What follows octets that do not fit is not written. -/
theorem write_append_of_not_fits (h : sink.fits octets = false) (octets' : List UInt8) :
    sink.write (octets ++ octets') = sink.write octets := by
  obtain ⟨limit, limited, short⟩ := exists_limit_of_not_fits h
  have whole : limit - sink.received.length < (octets ++ octets').length := by
    rw [List.length_append]
    omega
  rw [write_of_limit limited short, write_of_limit limited whole,
    List.take_append_of_le_length (Nat.le_of_lt short)]

/-- **A text may be written in pieces**: wherever it is cut, the stream takes the same octets
and fails alike. -/
theorem writePieces_eq (sink : Sink) (pieces : List (List UInt8)) :
    sink.writePieces pieces = sink.write pieces.flatten := by
  induction pieces generalizing sink with
  | nil =>
    have none : sink.fits [] := fits_iff.2 fun _ _ => Nat.zero_le _
    rw [List.flatten_nil, write_of_fits none, taking_nil]
    rfl
  | cons piece pieces ih =>
    rw [List.flatten_cons]
    cases fitting : sink.fits piece with
    | true =>
      rw [write_append_of_fits fitting, ← ih]
      simp only [writePieces, write_of_fits fitting]
    | false =>
      -- nothing behind this piece is written, neither in pieces nor at once
      obtain ⟨limit, limited, short⟩ := exists_limit_of_not_fits fitting
      rw [write_append_of_not_fits fitting]
      simp only [writePieces, write_of_limit limited short]

end Sink

/-! ## Findings -/

/-- The two streams of a report. -/
inductive Channel where
  | out
  | err
  deriving DecidableEq

/-- Facts go to the output stream, advice and objections to the error stream. -/
def Finding.channel (finding : Finding) : Channel :=
  match finding.severity with
  | .info => .out
  | .warning | .error => .err

/-- How a finding is printed. -/
def Finding.rendering (finding : Finding) : String :=
  match finding.severity with
  | .info => finding.message ++ "\n"
  | .warning => "warning: " ++ finding.message ++ "\n"
  | .error => "error: " ++ finding.message ++ "\n"

/-- How a finding is printed, as octets. -/
def Finding.rendered (finding : Finding) : List UInt8 := Utf8.encode finding.rendering.toList

/-- The line of a finding is what is printed of it. -/
theorem Finding.line_eq (finding : Finding) : finding.line = finding.rendered := by
  obtain ⟨check, severity, message⟩ := finding
  cases severity <;> simp [line, rendered, rendering, Severity.label]

/-- What findings put on a stream. -/
def Findings.sent (c : Channel) (findings : Findings) : List UInt8 :=
  (findings.filter fun finding => finding.channel = c).flatMap Finding.rendered

namespace Findings

variable {c : Channel} {finding : Finding}

@[simp] theorem sent_nil : sent c [] = [] := rfl

theorem sent_append (a b : Findings) : sent c (a ++ b) = sent c a ++ sent c b := by
  simp [sent]

/-- A finding puts itself on its own stream. -/
theorem sent_singleton (finding : Finding) : sent finding.channel [finding] = finding.rendered := by
  simp [sent]

/-- A finding puts nothing on the other stream. -/
theorem sent_singleton_of_ne (other : finding.channel ≠ c) : sent c [finding] = [] := by
  simp [sent, other]

end Findings

/-! ## Two streams -/

namespace Streams

open Findings

/-- One of the two streams. -/
def sink (streams : Streams) : Channel → Sink
  | .out => streams.out
  | .err => streams.err

/-- Two streams that have each taken more octets. -/
def taking (streams : Streams) (octets : Channel → List UInt8) : Streams :=
  ⟨streams.out.taking (octets .out), streams.err.taking (octets .err)⟩

variable {streams : Streams} {finding : Finding} {octets : Channel → List UInt8}

@[simp] theorem sink_taking (c : Channel) :
    (streams.taking octets).sink c = (streams.sink c).taking (octets c) := by
  cases c <;> rfl

/-- Taking octets twice is taking them in a row. -/
theorem taking_taking (octets octets' : Channel → List UInt8) :
    (streams.taking octets).taking octets' = streams.taking fun c => octets c ++ octets' c := by
  simp [taking, Sink.taking_taking]

/-- A finding is sent to its own stream, which decides how much of it is taken. -/
theorem writeFinding_of_write {taken : List UInt8} {failure : Option Failure.Cause}
    (written : (streams.sink finding.channel).write finding.rendered =
      ((streams.sink finding.channel).taking taken, failure)) :
    streams.writeFinding finding =
      (streams.taking fun c => if finding.channel = c then taken else [], failure) := by
  rw [← finding.line_eq] at written
  cases severity : finding.severity <;>
    simp only [Finding.channel, severity, sink] at written <;>
    simp [writeFinding, Finding.channel, severity, Severity.isDiagnostic, written, taking]

/-- A finding that fits is taken. -/
theorem writeFinding_of_fits (h : (streams.sink finding.channel).fits finding.rendered) :
    streams.writeFinding finding = (streams.taking fun c => sent c [finding], none) := by
  have own : (fun c => if finding.channel = c then finding.rendered else []) =
      fun c => sent c [finding] := by
    funext c
    by_cases same : finding.channel = c
    · rw [if_pos same, ← same, sent_singleton]
    · rw [if_neg same, sent_singleton_of_ne same]
  rw [writeFinding_of_write (Sink.write_of_fits h), own]

/-- A finding that does not fit ends the printing. -/
theorem writeFindings_cons_of_limit {limit : Nat}
    (limited : (streams.sink finding.channel).limit = some limit)
    (short : limit - (streams.sink finding.channel).received.length < finding.rendered.length)
    (after : Findings) :
    streams.writeFindings (finding :: after) =
      (streams.taking fun c => if finding.channel = c then
          finding.rendered.take (limit - (streams.sink finding.channel).received.length)
        else [], some .writeZero) := by
  simp only [writeFindings, writeFinding_of_write (Sink.write_of_limit limited short)]

/-- All findings fit into what the two streams still take. -/
def Fits (streams : Streams) (findings : Findings) : Prop :=
  ∀ c, (streams.sink c).fits (sent c findings)

/-- Findings fit in a row if the first ones fit and then the others. -/
theorem fits_append_iff {a b : Findings} :
    streams.Fits (a ++ b) ↔ streams.Fits a ∧ (streams.taking fun c => sent c a).Fits b := by
  simp only [Fits, sent_append, Sink.fits_append, sink_taking]
  exact forall_and

/-- **As long as everything fits**, the two streams have taken exactly the findings printed,
and printing goes on with the others. -/
theorem writeFindings_append {before : Findings} (h : streams.Fits before) (rest : Findings) :
    streams.writeFindings (before ++ rest) =
      (streams.taking fun c => sent c before).writeFindings rest := by
  -- each step moves one finding from those to come to what the streams have taken
  induction before generalizing streams with
  | nil => simp [taking]
  | cons finding before ih =>
    obtain ⟨first, others⟩ := fits_append_iff.1 (show streams.Fits ([finding] ++ before) from h)
    have fitting := first finding.channel
    rw [sent_singleton] at fitting
    have both : (fun c => sent c [finding] ++ sent c before) =
        fun c => sent c (finding :: before) := by
      funext c
      rw [← sent_append, List.singleton_append]
    rw [List.cons_append]
    simp only [writeFindings, writeFinding_of_fits fitting]
    rw [ih others, taking_taking, both]

/-! ### In pieces -/

/-- Sends the pieces of a finding to its stream. -/
def writeFindingIn (cut : Finding → List (List UInt8)) (streams : Streams) (finding : Finding) :
    Streams × Option Failure.Cause :=
  if finding.severity.isDiagnostic then
    ({ streams with err := (streams.err.writePieces (cut finding)).1 },
      (streams.err.writePieces (cut finding)).2)
  else
    ({ streams with out := (streams.out.writePieces (cut finding)).1 },
      (streams.out.writePieces (cut finding)).2)

/-- Sends findings to their streams in pieces and flushes both, up to the first failure. -/
def writeFindingsIn (cut : Finding → List (List UInt8)) (streams : Streams) :
    Findings → Streams × Option Failure.Cause
  | [] => streams.flush
  | finding :: findings =>
    match streams.writeFindingIn cut finding with
    | (streams, some cause) => (streams, some cause)
    | (streams, none) => streams.writeFindingsIn cut findings

/-- **Findings may be printed in pieces**, if those of each finding make up its text. -/
theorem writeFindingsIn_eq {cut : Finding → List (List UInt8)}
    (whole : ∀ finding, (cut finding).flatten = finding.rendered) (streams : Streams)
    (findings : Findings) :
    streams.writeFindingsIn cut findings = streams.writeFindings findings := by
  have one (streams : Streams) (finding : Finding) :
      streams.writeFindingIn cut finding = streams.writeFinding finding := by
    simp only [writeFindingIn, writeFinding, Sink.writePieces_eq, whole, finding.line_eq]
  induction findings generalizing streams with
  | nil => rfl
  | cons finding findings ih =>
    rw [writeFindingsIn, writeFindings, one]
    rcases streams.writeFinding finding with ⟨streams, failure⟩
    cases failure with
    | none => exact ih streams
    | some cause => rfl

end Streams

end HostPreflight
