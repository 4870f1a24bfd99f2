import HostPreflight.Probe
import HostPreflight.Proofs.Run.Course
import HostPreflight.Proofs.Text.Utf8
import HostPreflight.Proofs.Topology.Rows

/-!
# Captured output

The output of a program is decoded leniently, and a line feed is never a part of anything
that is broken.  So what is broken in one line of the processor listing stays in that line:
the other lines are read as if it were not there.

## Main definitions

* `PrintsListing machine settings octets` — the listing command succeeds with this output.
* `probedListing machine settings` — the listing that a machine gives.
* `CorePair.ofOctets?` — reads a line as it was printed.

## Main statements

* `hold_captureOutput` — a program is run once, and its output counts if it succeeds.
* `ofListing_append_feed` — the lines on both sides of a line feed are read independently.
* `ofListing_printed` — every line is read from its own octets.
* `probedListing_line_by_line` — what both come to for the listing of a machine.
-/

namespace HostPreflight

open Dialogue Text

section Capture

variable (answer : (request : Request) → request.Answer)

/-- A program is run once, and its output counts if it succeeds. -/
theorem hold_captureOutput (program : String) (arguments : List String) :
    hold answer (captureOutput program arguments) = {
      result :=
        match answer (.execute program arguments) with
        | .error cause => .error (.commandFailed (commandLine program arguments) cause.message)
        | .ok completion => completion.output (commandLine program arguments)
      events := [.running (commandLine program arguments)]
      questions := [.execute program arguments] } := by
  simp only [captureOutput, log, query, note_bind, ask_bind, done_bind, hold_note, hold_ask]
  cases answer (.execute program arguments) <;> rfl

end Capture

/-! ## The listing of a machine -/

/-- On a machine the listing command succeeds with some output. -/
inductive PrintsListing (machine : (request : Request) → request.Answer) (settings : Settings) :
    List UInt8 → Prop where
  | intro {program : String} {arguments : List String} {completion : Completion}
      (command : settings.topologyCommand = program :: arguments)
      (ran : machine (.execute program arguments) = .ok completion)
      (success : completion.ending = .exited 0) : PrintsListing machine settings completion.out

/-- The processor listing that a machine gives. -/
def probedListing (machine : (request : Request) → request.Answer) (settings : Settings) :
    Except Failure String :=
  (hold machine (probe settings .cpuTopology)).result

variable {machine front back : (request : Request) → request.Answer} {settings : Settings}

/-- The listing that a machine gives is what the listing command prints. -/
theorem PrintsListing.probedListing_eq {octets : List UInt8}
    (prints : PrintsListing machine settings octets) :
    probedListing machine settings = .ok (Utf8.stringLossy octets) := by
  obtain @⟨program, arguments, completion, command, ran, success⟩ := prints
  simp only [probedListing, probe, command, hold_captureOutput, ran, Completion.output, success,
    if_true]

/-! ## Lines on their own -/

/-- Reads a line as it was printed, with nothing before and behind it. -/
def CorePair.ofOctets? (line : List UInt8) : Option CorePair := ofLine? (Utf8.decodeLossy line)

namespace CpuTopology

/-- The lines on both sides of a line feed are read independently. -/
theorem ofListing_append_feed (a b : List UInt8) :
    (ofListing (Utf8.stringLossy (a ++ 0x0A :: b))).pairs =
        (ofListing (Utf8.stringLossy (a ++ [0x0A]))).pairs
          ++ (ofListing (Utf8.stringLossy b)).pairs ∧
      (ofListing (Utf8.stringLossy (a ++ 0x0A :: b))).skipped =
        (ofListing (Utf8.stringLossy (a ++ [0x0A]))).skipped
          + (ofListing (Utf8.stringLossy b)).skipped := by
  have cut (rest : List UInt8) : Utf8.decodeLossy (a ++ 0x0A :: rest) =
      Utf8.decodeLossy a ++ '\n' :: Utf8.decodeLossy rest :=
    Utf8.decodeLossy_append_ascii (by decide) a rest
  have split : lines (Utf8.decodeLossy (a ++ 0x0A :: b)) =
      lines (Utf8.decodeLossy (a ++ [0x0A])) ++ lines (Utf8.decodeLossy b) := by
    rw [cut, cut, lines_append_feed]
    rfl
  simp only [ofListing, skippedLines, Utf8.stringLossy, String.toList_ofList, split,
    List.filterMap_append, List.filter_append, List.length_append, and_self]

/-- Octets without a line feed are no line feed's text. -/
theorem newline_notMem_decodeLossy {line : List UInt8} (plain : 0x0A ∉ line) :
    '\n' ∉ Utf8.decodeLossy line := by
  refine Utf8.not_mem_decodeLossy (by decide) fun octet mem same => ?_
  obtain rfl : octet = 0x0A := UInt8.toNat_inj.1 same
  exact plain mem

/-- The lines of octets: what stands behind the last line feed is a line unless it is empty. -/
def octetLines (rows : List (List UInt8)) (last : List UInt8) : List (List UInt8) :=
  rows ++ if last.isEmpty then [] else [last]

/-- Every line is decoded on its own. -/
theorem lines_decodeLossy {rows : List (List UInt8)} {last : List UInt8}
    (plain : ∀ row ∈ rows, 0x0A ∉ row) (plainLast : 0x0A ∉ last) :
    lines (Utf8.decodeLossy (rows.flatMap (fun row => row ++ [0x0A]) ++ last)) =
      rows.map (fun row => dropReturn (Utf8.decodeLossy row))
        ++ if last.isEmpty then [] else [Utf8.decodeLossy last] := by
  induction rows with
  | nil =>
    cases last with
    | nil => rfl
    | cons octet octets =>
      have some : Utf8.decodeLossy (octet :: octets) ≠ [] :=
        fun empty => nomatch Utf8.decodeLossy_eq_nil empty
      exact lines_of_newline_notMem some (newline_notMem_decodeLossy plainLast)
  | cons row rows ih =>
    have first : '\n' ∉ Utf8.decodeLossy row :=
      newline_notMem_decodeLossy (plain row List.mem_cons_self)
    have rest := ih fun other mem => plain other (List.mem_cons_of_mem row mem)
    rw [List.flatMap_cons, List.append_assoc, List.append_assoc, List.singleton_append,
      Utf8.decodeLossy_append_ascii (by decide)]
    exact (lines_append_newline first _).trans (congrArg _ rest)

/-- Every line is read from its own octets. -/
theorem ofListing_printed {rows : List (List UInt8)} {last : List UInt8}
    (plain : ∀ row ∈ rows, 0x0A ∉ row) (plainLast : 0x0A ∉ last) :
    ofListing (Utf8.stringLossy (rows.flatMap (fun row => row ++ [0x0A]) ++ last)) =
      ⟨(octetLines rows last).filterMap CorePair.ofOctets?,
        ((octetLines rows last).filter fun line => (CorePair.ofOctets? line).isNone).length⟩ := by
  refine ofListing_of_lines ?_
  have alike : CorePair.ofLine? ∘ (fun row => dropReturn (Utf8.decodeLossy row)) =
      CorePair.ofOctets? := funext fun row => CorePair.ofLine?_dropReturn _
  rw [lines_decodeLossy plain plainLast, octetLines, List.map_append, List.map_append,
    List.map_map, alike]
  cases last <;> rfl

end CpuTopology

/-- **What is broken in one line stays in that line.**  If the listing command prints `a`, a
line feed and `b`, then the pairs that are read are those that are read from `a` with its line
feed, followed by those that are read from `b`, and the skipped lines add up.  So every line
is read from its own octets, whatever the others are; and output that is text is taken over
as it is. -/
theorem probedListing_line_by_line (settings : Settings) :
    (∀ (a b : List UInt8) (machine front back : (request : Request) → request.Answer),
      PrintsListing machine settings (a ++ [0x0A] ++ b) →
      PrintsListing front settings (a ++ [0x0A]) → PrintsListing back settings b →
      ∃ listing first second, probedListing machine settings = .ok listing ∧
        probedListing front settings = .ok first ∧ probedListing back settings = .ok second ∧
        (CpuTopology.ofListing listing).pairs =
          (CpuTopology.ofListing first).pairs ++ (CpuTopology.ofListing second).pairs ∧
        (CpuTopology.ofListing listing).skipped =
          (CpuTopology.ofListing first).skipped + (CpuTopology.ofListing second).skipped) ∧
    (∀ (rows : List (List UInt8)) (last : List UInt8)
      (machine : (request : Request) → request.Answer),
      (∀ row ∈ rows, 0x0A ∉ row) → 0x0A ∉ last →
      PrintsListing machine settings (rows.flatMap (fun row => row ++ [0x0A]) ++ last) →
      ∃ listing, probedListing machine settings = .ok listing ∧
        CpuTopology.ofListing listing =
          ⟨(CpuTopology.octetLines rows last).filterMap CorePair.ofOctets?,
            ((CpuTopology.octetLines rows last).filter fun line =>
              (CorePair.ofOctets? line).isNone).length⟩) ∧
    ∀ (text : String) (machine : (request : Request) → request.Answer),
      PrintsListing machine settings (Utf8.encode text.toList) →
      probedListing machine settings = .ok text := by
  refine ⟨?cut, ?alone, ?unchanged⟩
  case cut =>
    intro a b machine front back whole first second
    rw [List.append_assoc, List.singleton_append] at whole
    exact ⟨_, _, _, whole.probedListing_eq, first.probedListing_eq, second.probedListing_eq,
      CpuTopology.ofListing_append_feed a b⟩
  case alone =>
    intro rows last machine plain plainLast prints
    exact ⟨_, prints.probedListing_eq, CpuTopology.ofListing_printed plain plainLast⟩
  case unchanged =>
    intro text machine prints
    rw [prints.probedListing_eq, Utf8.stringLossy, Utf8.decodeLossy_encode, String.ofList_toList]

/-- A machine on which every program ends in the same way. -/
def completionAnswer (completion : Completion) : (request : Request) → request.Answer
  | .isFile _ => false
  | .isDirectory _ => false
  | .read _ => .error .noEntry
  | .list _ => .error ⟨[], .noEntry⟩
  | .execute _ _ => .ok completion
  | .logicalCores => 4
  | .summary => ⟨"host", "cpu", "vendor", 4, none, "x86_64"⟩

/-- A machine on which every program succeeds with the same output. -/
def outputAnswer (octets : List UInt8) : (request : Request) → request.Answer :=
  completionAnswer ⟨.exited 0, octets, []⟩

/-- Two of the three octets of a character stand before the line feed, and the third one behind
it.  The row before and the row after are read, and the line between them is skipped. -/
theorem probedListing_broken_at_feed :
    let a : List UInt8 := [0x30, 0x2C, 0x31, 0x2C, 0xE2, 0x82]
    let b : List UInt8 := [0xAC, 0x2C, 0x37, 0x0A, 0x33, 0x2C, 0x33]
    let machine := outputAnswer (a ++ [0x0A] ++ b)
    PrintsListing machine .default (a ++ [0x0A] ++ b) ∧
      ∃ listing, probedListing machine .default = .ok listing ∧
        (CpuTopology.ofListing listing).pairs = [⟨0, 1⟩, ⟨3, 3⟩] ∧
        (CpuTopology.ofListing listing).skipped = 1 := by
  intro a b machine
  have prints (octets : List UInt8) :
      PrintsListing (outputAnswer octets) .default (Completion.mk (.exited 0) octets []).out :=
    .intro rfl rfl rfl
  obtain ⟨cut, -, -⟩ := probedListing_line_by_line .default
  obtain ⟨listing, first, second, whole, front, back, pairs, skipped⟩ :=
    cut a b _ _ _ (prints _) (prints _) (prints _)
  rw [(prints _).probedListing_eq] at front back
  obtain rfl := Except.ok.inj front
  obtain rfl := Except.ok.inj back
  exact ⟨prints _, listing, whole, pairs.trans (by decide +kernel),
    skipped.trans (by decide +kernel)⟩

end HostPreflight
