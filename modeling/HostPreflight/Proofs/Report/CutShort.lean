import HostPreflight.Proofs.Report.Printing
import Mathlib.Data.List.Induction

/-!
# Printing cut short

Printing stops at the first finding that does not fit into what its stream still takes.  By
then every finding before it stands on its stream, the stream that is full holds as much of
the finding as there was room for, and of the findings behind it nothing has been written
anywhere.  If everything fits, the two streams are flushed, the error stream only if the
output stream could be.

## Main definitions

* `Findings.Overflows`, `Findings.AllFit` — whether a finding, or every finding, fits.
* `Streams.fresh limit refuses` — two streams that have received nothing yet.
* `CutShort`, `PrintedInFull` — what printing leaves behind in the two cases.

## Main statements

* `allFit_iff` — every finding fits exactly if what is sent to each stream does.
* `allFit_or_exists_overflow` — otherwise there is a first one that does not.
* `writeText_stops_at_overflow` — what printing a report leaves behind.
-/

namespace HostPreflight

namespace Findings

/-- A finding does not fit: its stream has a limit, which the finding exceeds behind the
findings before it. -/
def Overflows (limit : Channel → Option Nat) (before : Findings) (finding : Finding) : Prop :=
  ∃ most, limit finding.channel = some most ∧
    most < (before.sent finding.channel).length + finding.rendered.length

/-- Every finding fits behind the findings before it. -/
def AllFit (limit : Channel → Option Nat) (findings : Findings) : Prop :=
  ∀ (before : Findings) (finding : Finding) (after : Findings),
    findings = before ++ finding :: after → ¬ before.Overflows limit finding

variable {limit : Channel → Option Nat} {findings before : Findings} {finding : Finding}

/-- The first ones of findings that fit do fit. -/
theorem AllFit.of_append {after : Findings} (h : AllFit limit (before ++ after)) :
    before.AllFit limit := by
  intro earlier finding later split
  exact h earlier finding (later ++ after) (by rw [split, List.append_assoc, List.cons_append])

/-- What is sent is within the limits as long as it was so and the last finding fits. -/
theorem length_sent_concat_le
    (earlier : ∀ c most, limit c = some most → (before.sent c).length ≤ most)
    (fits : ¬ before.Overflows limit finding) (c : Channel) (most : Nat)
    (limited : limit c = some most) : (sent c (before ++ [finding])).length ≤ most := by
  rw [sent_append, List.length_append]
  by_cases own : finding.channel = c
  · subst own
    rw [sent_singleton]
    exact Nat.le_of_not_lt fun exceeds => fits ⟨most, limited, exceeds⟩
  · rw [sent_singleton_of_ne own]
    exact earlier c most limited

/-- Every finding fits exactly if what is sent to each stream is within its limit. -/
theorem allFit_iff :
    findings.AllFit limit ↔ ∀ c most, limit c = some most → (findings.sent c).length ≤ most := by
  constructor
  · intro h
    -- from the end, since a finding must fit behind what stands before it
    induction findings using List.reverseRecOn with
    | nil => exact fun _ _ _ => Nat.zero_le _
    | append_singleton before finding ih =>
      exact length_sent_concat_le (ih h.of_append) (h before finding [] rfl)
  · rintro h before finding after rfl ⟨most, limited, exceeds⟩
    have within := h finding.channel most limited
    rw [List.append_cons, sent_append, sent_append, sent_singleton, List.length_append,
      List.length_append] at within
    omega

/-- If not every finding fits, there is a first one that does not. -/
theorem allFit_or_exists_overflow (limit : Channel → Option Nat) (findings : Findings) :
    findings.AllFit limit ∨ ∃ (before : Findings) (finding : Finding) (after : Findings),
      findings = before ++ finding :: after ∧ before.AllFit limit ∧
        before.Overflows limit finding := by
  induction findings using List.reverseRecOn with
  | nil => exact .inl (allFit_iff.2 fun _ _ _ => Nat.zero_le _)
  | append_singleton earlier last ih =>
    rcases ih with fit | ⟨before, finding, after, rfl, fit, exceeds⟩
    · by_cases exceeds : Overflows limit earlier last
      · exact .inr ⟨earlier, last, [], rfl, fit, exceeds⟩
      · exact .inl (allFit_iff.2 (length_sent_concat_le (allFit_iff.1 fit) exceeds))
    · exact .inr ⟨before, finding, after ++ [last],
        by rw [List.append_assoc, List.cons_append], fit, exceeds⟩

end Findings

namespace Streams

variable {limit : Channel → Option Nat} {refuses : Channel → Bool} {before : Findings}
  {finding : Finding}

/-- Two streams that have received nothing yet; `limit` and `refuses` say how many octets
each of them takes in all and whether it refuses to be flushed. -/
def fresh (limit : Channel → Option Nat) (refuses : Channel → Bool) : Streams :=
  ⟨.fresh (limit .out) (refuses .out), .fresh (limit .err) (refuses .err)⟩

@[simp] theorem sink_fresh (c : Channel) :
    (fresh limit refuses).sink c = .fresh (limit c) (refuses c) := by
  cases c <;> rfl

/-- Findings that fit behind each other fit into fresh streams. -/
theorem fits_fresh (refuses : Channel → Bool) (h : before.AllFit limit) :
    (fresh limit refuses).Fits before := by
  intro c
  rw [sink_fresh, Sink.fits_iff]
  intro most limited
  exact Findings.allFit_iff.1 h c most limited

/-- What fresh streams have taken when a finding does not fit: everything before it, and of
the finding itself what its stream had room for. -/
theorem writeFindings_of_overflow (refuses : Channel → Bool) (fit : before.AllFit limit)
    (exceeds : before.Overflows limit finding) :
    ∃ most, limit finding.channel = some most ∧
      (before.sent finding.channel).length ≤ most ∧
      most < (before.sent finding.channel).length + finding.rendered.length ∧
      ∀ after, (fresh limit refuses).writeFindings (before ++ finding :: after) =
        ((fresh limit refuses).taking fun c => before.sent c ++
            if finding.channel = c then
              finding.rendered.take (most - (before.sent finding.channel).length)
            else [],
          some .writeZero) := by
  obtain ⟨most, limited, exceeded⟩ := exceeds
  have within := Findings.allFit_iff.1 fit finding.channel most limited
  refine ⟨most, limited, within, exceeded, fun after => ?_⟩
  let taken := (fresh limit refuses).taking fun c => before.sent c
  have limited' : (taken.sink finding.channel).limit = some most := by
    rw [sink_taking, sink_fresh]
    exact limited
  have received : (taken.sink finding.channel).received = before.sent finding.channel := by
    rw [sink_taking, sink_fresh]
    exact List.nil_append _
  have short : most - (taken.sink finding.channel).received.length < finding.rendered.length := by
    rw [received]
    omega
  rw [writeFindings_append (fits_fresh refuses fit),
    writeFindings_cons_of_limit limited' short, received, taking_taking]

end Streams

/-- Printing was cut short at a finding. -/
structure CutShort (limit : Channel → Option Nat) (refuses : Channel → Bool) (before : Findings)
    (finding : Finding) (after : Findings) (result : Streams × Option Failure.Cause) : Prop where
  failed : result.2 = some .writeZero
  unflushed : ∀ c, (result.1.sink c).flushes = 0
  /-- The stream of the finding holds as much of its text as it takes. -/
  full : ∃ most, limit finding.channel = some most ∧
    (result.1.sink finding.channel).received.length = most ∧
    (result.1.sink finding.channel).received =
      (Findings.sent finding.channel (before ++ finding :: after)).take most
  /-- That is all findings before, and a piece of the finding. -/
  broken : ∃ piece, piece <+: finding.rendered ∧ piece ≠ finding.rendered ∧
    (result.1.sink finding.channel).received = before.sent finding.channel ++ piece
  /-- The other stream holds the findings before. -/
  other : ∀ c, c ≠ finding.channel → (result.1.sink c).received = before.sent c
  /-- Whatever would have followed, it makes no difference. -/
  unheard : ∀ others, (Streams.fresh limit refuses).writeFindings (before ++ finding :: others) =
    result

/-- All findings have been printed. -/
structure PrintedInFull (refuses : Channel → Bool) (findings : Findings)
    (result : Streams × Option Failure.Cause) : Prop where
  received : ∀ c, (result.1.sink c).received = findings.sent c
  outFlushed : result.1.out.flushes = 1
  /-- The error stream is flushed only after the output stream could be. -/
  errFlushed : result.1.err.flushes = if refuses .out then 0 else 1
  succeeds_iff : result.2 = none ↔ refuses .out = false ∧ refuses .err = false
  refused : result.2 ≠ none → result.2 = some Sink.flushRefused

section

variable {limit : Channel → Option Nat} {refuses : Channel → Bool} {before findings : Findings}
  {finding : Finding}

/-- A finding that does not fit cuts the printing short. -/
theorem cutShort_of_overflow (fit : before.AllFit limit) (exceeds : before.Overflows limit finding)
    (after : Findings) :
    CutShort limit refuses before finding after
      ((Streams.fresh limit refuses).writeFindings (before ++ finding :: after)) := by
  obtain ⟨most, limited, within, exceeded, printed⟩ :=
    Streams.writeFindings_of_overflow refuses fit exceeds
  let piece := finding.rendered.take (most - (before.sent finding.channel).length)
  have length : piece.length = most - (before.sent finding.channel).length := by
    rw [List.length_take]
    omega
  have own : (((Streams.fresh limit refuses).writeFindings (before ++ finding :: after)).1.sink
      finding.channel).received = before.sent finding.channel ++ piece := by
    rw [printed after]
    simp [Sink.taking, Sink.fresh, piece]
  constructor
  case failed => rw [printed after]
  case unflushed =>
    intro c
    rw [printed after]
    simp [Sink.taking, Sink.fresh]
  case full =>
    refine ⟨most, limited, ?_, ?_⟩
    · rw [own, List.length_append, length]
      omega
    · rw [own, List.append_cons, Findings.sent_append, Findings.sent_append,
        Findings.sent_singleton, List.append_assoc, List.take_append,
        List.take_of_length_le within, List.take_append_of_le_length (by omega)]
  case broken =>
    refine ⟨piece, List.take_prefix _ _, ?_, own⟩
    intro whole
    rw [whole] at length
    omega
  case other =>
    intro c other
    rw [printed after]
    simp [Sink.taking, Sink.fresh, Ne.symm other]
  case unheard =>
    intro others
    rw [printed others, printed after]

/-- Findings that fit are printed in full. -/
theorem printedInFull_of_allFit (fit : findings.AllFit limit) :
    PrintedInFull refuses findings ((Streams.fresh limit refuses).writeFindings findings) := by
  have printed : (Streams.fresh limit refuses).writeFindings findings =
      ((Streams.fresh limit refuses).taking fun c => findings.sent c).flush := by
    have run := Streams.writeFindings_append (Streams.fits_fresh refuses fit) []
    rwa [List.append_nil] at run
  rw [printed]
  constructor
  case received =>
    intro c
    cases c <;> cases refused : refuses .out <;>
      simp [Streams.flush, Sink.flush, Streams.taking, Sink.taking, Streams.fresh, Sink.fresh,
        Streams.sink, refused]
  all_goals
    cases refused : refuses .out <;> cases refused' : refuses .err <;>
      simp [Streams.flush, Sink.flush, Streams.taking, Sink.taking, Streams.fresh, Sink.fresh,
        refused, refused']

end

/-- **Printing stops at the first finding that does not fit**, for every report and every two
streams that have received nothing yet.  A finding that does not fit behind findings that do
cuts the printing short there.  If every finding fits, all of them are printed and the streams
are flushed.  There is no third case; and it makes no difference in which pieces the findings
are sent. -/
theorem writeText_stops_at_overflow (report : Report) (limit : Channel → Option Nat)
    (refuses : Channel → Bool) :
    (∀ (before : Findings) (finding : Finding) (after : Findings),
      report.findings = before ++ finding :: after → before.AllFit limit →
      before.Overflows limit finding →
      CutShort limit refuses before finding after (report.writeText (.fresh limit refuses))) ∧
    (report.findings.AllFit limit →
      PrintedInFull refuses report.findings (report.writeText (.fresh limit refuses))) ∧
    (report.findings.AllFit limit ∨
      ∃ (before : Findings) (finding : Finding) (after : Findings),
        report.findings = before ++ finding :: after ∧ before.AllFit limit ∧
          before.Overflows limit finding) ∧
    ∀ cut : Finding → List (List UInt8), (∀ finding, (cut finding).flatten = finding.rendered) →
      (Streams.fresh limit refuses).writeFindingsIn cut report.findings =
        report.writeText (.fresh limit refuses) := by
  refine ⟨?_, ?_, Findings.allFit_or_exists_overflow limit report.findings, ?_⟩
  · intro before finding after split fit exceeds
    rw [Report.writeText, split]
    exact cutShort_of_overflow fit exceeds after
  · exact fun fit => printedInFull_of_allFit fit
  · exact fun cut whole => Streams.writeFindingsIn_eq whole _ report.findings

/-- Two facts, the second one with a character of two octets, between them an advice, and an
objection at the end. -/
def fourFindings : Report :=
  { Report.start with
    findings := [.info .cores "ab", .warning .memory "x", .info .cores "cd\u00e9",
      .error .devices "z"] }

/-- Printed on an output stream that takes six octets, the report ends within that character;
on one that takes eight and refuses to be flushed, it is printed in full. -/
theorem writeText_fourFindings :
    CutShort (fun c => if c = .out then some 6 else none) (fun _ => false)
        [.info .cores "ab", .warning .memory "x"] (.info .cores "cd\u00e9") [.error .devices "z"]
        (fourFindings.writeText
          (.fresh (fun c => if c = .out then some 6 else none) fun _ => false)) ∧
      PrintedInFull (· = .out) fourFindings.findings
        (fourFindings.writeText
          (.fresh (fun c => if c = .out then some 8 else none) (· = .out))) := by
  constructor
  · obtain ⟨cut, -⟩ := writeText_stops_at_overflow fourFindings
      (fun c => if c = .out then some 6 else none) fun _ => false
    refine cut _ _ _ rfl (Findings.allFit_iff.2 ?_) ⟨6, rfl, by decide +kernel⟩
    intro c most limited
    cases c with
    | out => exact Option.some.inj limited ▸ by decide +kernel
    | err => exact nomatch limited
  · obtain ⟨-, full, -⟩ := writeText_stops_at_overflow fourFindings
      (fun c => if c = .out then some 8 else none) (· = .out)
    refine full (Findings.allFit_iff.2 ?_)
    intro c most limited
    cases c with
    | out => exact Option.some.inj limited ▸ by decide +kernel
    | err => exact nomatch limited

end HostPreflight
