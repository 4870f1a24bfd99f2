import HostPreflight.Probe
import HostPreflight.Proofs.Dialogue.World
import HostPreflight.Proofs.Run.WellFormed

/-!
# A failed requirement stops the run

A hard requirement that fails ends the run: no later question is asked, so nothing that a
later answer might have held can show.  On the live machine this means that neither the
memory table is read nor the binding utility is run.

A live machine changes while it is asked, and the program that lists the processors may
change it.  Since each question is asked at most once and in a fixed order, a run against
such a machine is still a run against one source: the answers that the machine gives in
that order.

## Main definitions

* `Source.LacksMemory` — the three ways in which the memory check fails.
* `Source.inOrder world s` — the answers of a changing world to the questions in order.
* `listingRequests` — what is asked of the machine to list the processors.
* `Settings.StopsRuns` — how a failed requirement stops the runs with some settings.

## Main statements

* `questions_of_few`, `questions_of_lacksMemory`, `questions_of_enough` — the questions.
* `run_carry_runChecks` — a run against a changing world is one against a source.
* `stops_at_failed_requirement` — the stop, for questions, reports and requests.
-/

namespace HostPreflight

open Dialogue

/-! ## The questions of a run -/

/-- The memory check fails: there is no table, or it cannot be read, or it tells of too
little. -/
inductive Source.LacksMemory (source : Source) (settings : Settings) : Prop where
  | unavailable {failure : Failure} (answer : source .meminfo = .error failure)
  | malformed {table : String} {fault : MeminfoFault} (answer : source .meminfo = .ok table)
      (read : FreeMemory.ofMeminfo table = .error fault)
  | little {table : String} {memory : FreeMemory} (answer : source .meminfo = .ok table)
      (read : FreeMemory.ofMeminfo table = .ok memory)
      (below : memory.meets settings.minFreeMemoryGb = false)

namespace Source

variable {source other : Source} {settings : Settings}

/-- The memory check fails or there is a table that tells of enough. -/
theorem not_lacksMemory_iff :
    ¬ source.LacksMemory settings ↔
      ∃ memory, freeMemory (source .meminfo) = .ok memory ∧
        memory.meets settings.minFreeMemoryGb := by
  constructor
  · intro suffices_
    cases answer : source .meminfo with
    | error failure => exact absurd (.unavailable answer) suffices_
    | ok table =>
      cases read : FreeMemory.ofMeminfo table with
      | error fault => exact absurd (.malformed answer read) suffices_
      | ok memory =>
        cases enough : memory.meets settings.minFreeMemoryGb with
        | false => exact absurd (.little answer read enough) suffices_
        | true => exact ⟨memory, freeMemory_eq_ok_iff.2 ⟨table, rfl, read⟩, enough⟩
  · rintro ⟨memory, known, enough⟩ lacks
    obtain ⟨table, answer, read⟩ := freeMemory_eq_ok_iff.1 known
    cases lacks with
    | unavailable answer' => simp [answer'] at answer
    | malformed answer' read' =>
      obtain rfl : _ = table := by simpa [answer'] using answer
      simp [read'] at read
    | little answer' read' below =>
      obtain rfl : _ = table := by simpa [answer'] using answer
      obtain rfl : _ = memory := by simpa [read'] using read
      simp [below] at enough

/-- Too few cores: two questions. -/
theorem questions_of_few (few : source .logicalCores < settings.minCores) :
    (source.transcript settings).questions = [.cpuTopology, .logicalCores] := by
  have follows := source.follows_course settings
  rw [transcript_eq]
  generalize source.course settings = course at follows ⊢
  cases follows with
  | fewCores few => rfl
  | _ => exact absurd few (UInt64.not_lt.2 ‹_›)

/-- Enough cores, but the memory check fails: three questions. -/
theorem questions_of_lacksMemory (cores : settings.minCores ≤ source .logicalCores)
    (lacks : source.LacksMemory settings) :
    (source.transcript settings).questions = [.cpuTopology, .logicalCores, .meminfo] := by
  have follows := source.follows_course settings
  rw [transcript_eq]
  generalize source.course settings = course at follows ⊢
  cases follows with
  | fewCores few => exact absurd cores (UInt64.not_le.2 few)
  | noMemory cores unknown => rfl
  | littleMemory cores known little => rfl
  | complete cores known enough => exact absurd lacks (not_lacksMemory_iff.2 ⟨_, known, enough⟩)

/-- Enough cores and enough memory: all questions. -/
theorem questions_of_enough (cores : settings.minCores ≤ source .logicalCores)
    (enough : ¬ source.LacksMemory settings) :
    (source.transcript settings).questions =
      [.cpuTopology, .logicalCores, .meminfo, .devbindStatus] := by
  obtain ⟨memory, known, enough⟩ := not_lacksMemory_iff.1 enough
  have follows := source.follows_course settings
  rw [transcript_eq]
  generalize source.course settings = course at follows ⊢
  cases follows with
  | fewCores few => exact absurd cores (UInt64.not_le.2 few)
  | noMemory cores unknown => simp [known] at unknown
  | littleMemory cores known' little =>
    obtain rfl : memory = _ := by simpa [known] using known'
    simp [enough] at little
  | complete cores known' enough' => rfl

/-- Two sources show the same if they agree on the questions that the first one is asked. -/
theorem transcript_congr {questions : List Query}
    (asked : (source.transcript settings).questions = questions)
    (same : ∀ query ∈ questions, other query = source query) :
    other.transcript settings = source.transcript settings :=
  hold_congr (runChecks settings) fun query mem => same query (asked ▸ mem)

end Source

/-! ## Changing worlds -/

namespace Source

variable {σ : Type} (world : (query : Query) → StateM σ query.Answer) (s : σ)

/-- The answers that a changing world gives when the questions are put to it in order. -/
def inOrder : Source
  | .cpuTopology => ((world .cpuTopology).run s).1
  | .logicalCores => ((world .logicalCores).run (stateAfter world s [.cpuTopology])).1
  | .meminfo => ((world .meminfo).run (stateAfter world s [.cpuTopology, .logicalCores])).1
  | .devbindStatus =>
    ((world .devbindStatus).run (stateAfter world s [.cpuTopology, .logicalCores, .meminfo])).1

/-- Whatever the course of a run, its questions are put in order. -/
theorem agrees_inOrder (course : Course) :
    Agrees world (inOrder world s) s course.questions := by
  cases course <;> simp [Agrees, inOrder, stateAfter]

/-- A run against a changing world shows what the run against its answers in order shows. -/
theorem run_carry_runChecks (settings : Settings) :
    (carry world (runChecks settings)).run s =
      ((inOrder world s).transcript settings,
        stateAfter world s ((inOrder world s).transcript settings).questions) := by
  have agrees := agrees_inOrder world s ((inOrder world s).course settings)
  refine run_carry_of_agrees world (runChecks settings) ?_
  have shown :
      hold (inOrder world s) (runChecks settings) = (inOrder world s).transcript settings := rfl
  rw [shown, transcript_eq]
  exact agrees

end Source

/-! ## The live machine -/

section Machine

variable {σ : Type} (machine : (request : Request) → StateM σ request.Answer) (s : σ)
  (settings : Settings)

/-- What is asked of the machine to list the processors. -/
def listingRequests (settings : Settings) : List Request :=
  match settings.topologyCommand with
  | [] => []
  | program :: arguments => [.execute program arguments]

/-- Running a program is one request. -/
theorem questions_captureOutput (program : String) (arguments : List String) :
    ((carry machine (captureOutput program arguments)).run s).1.questions =
      [.execute program arguments] := by
  simp only [captureOutput, log, query, note_bind, ask_bind, done_bind, run_carry_note,
    run_carry_ask]
  cases ((machine (.execute program arguments)).run s).1 <;> rfl

/-- Reading a file is one request. -/
theorem questions_readText (path : String) :
    ((carry machine (readText path)).run s).1.questions = [.read path] := by
  simp only [readText, query, ask_bind, done_bind, run_carry_ask]
  generalize (machine (.read path)).run s = answered
  split
  · rfl
  · split <;> rfl

/-- The listing comes from a program, if one is set. -/
theorem questions_probe_cpuTopology :
    ((carry machine (probe settings .cpuTopology)).run s).1.questions =
      listingRequests settings := by
  unfold probe listingRequests
  cases settings.topologyCommand with
  | nil => rfl
  | cons program arguments => exact questions_captureOutput machine s program arguments

/-- The number of cores is one request. -/
theorem questions_probe_logicalCores :
    ((carry machine (probe settings .logicalCores)).run s).1.questions = [.logicalCores] := rfl

/-- The memory table is a file. -/
theorem questions_probe_meminfo :
    ((carry machine (probe settings .meminfo)).run s).1.questions =
      [.read settings.meminfoPath] :=
  questions_readText machine s settings.meminfoPath

/-- The answers of a machine to the questions of a run, in order. -/
def machineSource : Source := Source.inOrder (routed (probe settings) machine) s

/-- The checks of a machine end as the checks of its answers do, and ask of the machine what
the questions of that run call for. -/
theorem run_carry_checkMachine :
    let run := ((carry machine (checkMachine settings)).run s).1
    let shown := (machineSource machine s settings).transcript settings
    run.result = shown.result ∧
      run.questions = forwarded (probe settings) machine s shown.questions := by
  obtain ⟨result, -, questions⟩ := run_carry_route (probe settings) machine (runChecks settings) s
  rw [Source.run_carry_runChecks] at result questions
  exact ⟨result, questions⟩

/-- The first two questions call for a listing and a number. -/
theorem forwarded_two :
    forwarded (probe settings) machine s [.cpuTopology, .logicalCores] =
      listingRequests settings ++ [.logicalCores] := by
  rw [forwarded_cons, forwarded_cons, forwarded_nil, questions_probe_cpuTopology,
    questions_probe_logicalCores, List.append_nil]

/-- The third question calls for the memory table. -/
theorem forwarded_three :
    forwarded (probe settings) machine s [.cpuTopology, .logicalCores, .meminfo] =
      listingRequests settings ++ [.logicalCores, .read settings.meminfoPath] := by
  rw [forwarded_cons, forwarded_cons, forwarded_cons, forwarded_nil, questions_probe_cpuTopology,
    questions_probe_logicalCores, questions_probe_meminfo, List.append_nil]
  rfl

end Machine

/-! ## The stop -/

/-- How a failed hard requirement stops the runs with some settings. -/
structure Settings.StopsRuns (settings : Settings) : Prop where
  /-- With too few cores neither the memory table nor the status report is asked for, and
  whatever they might have been, the run shows the same. -/
  few : ∀ source : Source, source .logicalCores < settings.minCores →
    (source.transcript settings).questions = [.cpuTopology, .logicalCores] ∧
      ∀ other : Source, (∀ query ∈ [.cpuTopology, .logicalCores], other query = source query) →
        other.transcript settings = source.transcript settings
  /-- With enough cores but a failed memory check the status report is not asked for, and
  whatever it might have been, the run shows the same. -/
  lacking : ∀ source : Source, settings.minCores ≤ source .logicalCores →
    source.LacksMemory settings →
    (source.transcript settings).questions = [.cpuTopology, .logicalCores, .meminfo] ∧
      ∀ other : Source,
        (∀ query ∈ [.cpuTopology, .logicalCores, .meminfo], other query = source query) →
        other.transcript settings = source.transcript settings
  /-- Otherwise each question is asked once, in order. -/
  enough : ∀ source : Source, settings.minCores ≤ source .logicalCores →
    ¬ source.LacksMemory settings →
    (source.transcript settings).questions =
      [.cpuTopology, .logicalCores, .meminfo, .devbindStatus]
  /-- On a machine, which may change while it is asked, the same holds of its answers; and
  once a requirement has failed, no file is read and no program is run any more. -/
  machine : ∀ {σ : Type} (machine : (request : Request) → StateM σ request.Answer) (s : σ),
    let run := ((carry machine (checkMachine settings)).run s).1
    let answers := machineSource machine s settings
    run.result = answers.report settings ∧
      (answers .logicalCores < settings.minCores →
        run.questions = listingRequests settings ++ [.logicalCores]) ∧
      (settings.minCores ≤ answers .logicalCores → answers.LacksMemory settings →
        run.questions = listingRequests settings ++ [.logicalCores, .read settings.meminfoPath])

/-- **A failed hard requirement stops the run**, whatever the settings are: no later question
is asked, and nothing that it might have brought shows. -/
theorem stops_at_failed_requirement (settings : Settings) : settings.StopsRuns := by
  constructor
  case few =>
    intro source few
    have asked := Source.questions_of_few few
    exact ⟨asked, fun other same => Source.transcript_congr asked same⟩
  case lacking =>
    intro source cores lacks
    have asked := Source.questions_of_lacksMemory cores lacks
    exact ⟨asked, fun other same => Source.transcript_congr asked same⟩
  case enough =>
    intro source cores enough
    exact Source.questions_of_enough cores enough
  case machine =>
    intro σ machine s run answers
    obtain ⟨result, questions⟩ := run_carry_checkMachine machine s settings
    refine ⟨result, fun few => ?_, fun cores lacks => ?_⟩
    · have asked := Source.questions_of_few few
      rw [questions, asked]
      exact forwarded_two machine s settings
    · have asked := Source.questions_of_lacksMemory cores lacks
      rw [questions, asked]
      exact forwarded_three machine s settings

/-- One kilobyte too little: the status report is not asked for, and the run shows what it
would show with no status report at all. -/
theorem stops_one_kilobyte_below :
    let fixture := { Fixture.healthy with
      meminfo := some "MemTotal: 9000000 kB\nMemFree: 3999999 kB\n" }
    Settings.default.minCores ≤ fixture.source .logicalCores ∧
      fixture.source.LacksMemory .default ∧
      (fixture.source.transcript .default).questions = [.cpuTopology, .logicalCores, .meminfo] ∧
      Source.transcript { fixture with devbind := none }.source .default =
        fixture.source.transcript .default := by
  intro fixture
  have cores : Settings.default.minCores ≤ fixture.source .logicalCores := by decide
  have read : FreeMemory.ofMeminfo "MemTotal: 9000000 kB\nMemFree: 3999999 kB\n" =
      .ok ⟨3999999⟩ := by rfl
  have lacks : fixture.source.LacksMemory .default := .little rfl read (by decide +kernel)
  obtain ⟨questions, same⟩ := (stops_at_failed_requirement .default).lacking _ cores lacks
  exact ⟨cores, lacks, questions, same _ (by simp [Fixture.source, fixture])⟩

end HostPreflight
