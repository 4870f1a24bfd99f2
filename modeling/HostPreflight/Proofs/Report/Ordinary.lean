import HostPreflight.Proofs.Memory.Figure
import HostPreflight.Proofs.Report.RoundTrip
import HostPreflight.Proofs.Run.WellFormed
import HostPreflight.Session
import Mathlib.Data.List.Chain

/-!
# Ordinary memory figures

The memory figure is the only number in a report that is not whole.  If it could be infinite
or not a number, then a report could differ from itself, and null in JSON could mean two
things.  It cannot, whatever the source, and whatever the threshold it is compared with.

## Main definitions

* `Double.Ordinary` — finite, from zero on, and not the negative zero.
* `Json.HasFigure text v` — the memory figure in a JSON text.
* `Source.Unlearned` — why the free memory is not learned.
* `Session.runs` — the runs that the steps of a session make.
* `Report.Ordinary`, `Session.Repeatable` — what follows for reports and for sessions.

## Main statements

* `equal_self_iff` — only a figure that is not a number makes a report differ from itself.
* `unlearned_iff` — the free memory is learned in all other cases.
* `same_runs` — each run of a session is compared with the one before it.
* `memoryFigure_ordinary` — every figure is ordinary, every report equals itself, and runs
  with the same state have equal reports.
-/

namespace HostPreflight

/-! ## Numbers -/

/-- A finite number from zero on that is not the negative zero. -/
structure Double.Ordinary (x : Double) : Prop where
  finite : x.isFinite
  nonneg : Double.zero.atMost x
  unsigned : x.isNegative = false

/-- A magnitude without a sign is ordinary. -/
theorem Double.ordinary_finite (m : Magnitude) : (finite false m).Ordinary where
  finite := rfl
  nonneg := by simp [zero, Magnitude.zero, atMost, position?]
  unsigned := rfl

/-- An ordinary number is a number. -/
theorem Double.Ordinary.ne_nan {x : Double} (ordinary : x.Ordinary) : x ≠ .nan := by
  rintro rfl
  exact absurd ordinary.finite Bool.false_ne_true

/-- Every number equals itself. -/
theorem Double.equal_self_iff {x : Double} : x.equal x ↔ x ≠ .nan := by
  rw [equal, Bool.and_self, atMost_iff]
  exact ⟨And.left, fun number => ⟨number, number, Int.le_refl _⟩⟩

/-- **Every memory figure is ordinary.** -/
theorem FreeMemory.ordinary_gigabytes (memory : FreeMemory) : memory.gigabytes.Ordinary := by
  obtain ⟨m, value, -⟩ := memory.exists_gigabytes
  rw [value]
  exact Double.ordinary_finite m

/-! ## Reports -/

/-- Only a memory figure that is not a number makes a report differ from itself. -/
theorem Report.equal_self_iff {report : Report} :
    report.equal report ↔ report.freeMemoryGb ≠ some .nan := by
  cases figure : report.freeMemoryGb with
  | none => simp [equal, sameFigure, figure]
  | some x => simp [equal, sameFigure, figure, Double.equal_self_iff]

/-- The memory figure in a JSON text is `v`. -/
def Json.HasFigure (text : String) (v : Json) : Prop :=
  (parse? text).bind (fields? ["free_memory_gb"]) = some [some v]

/-- Either layout of a report has its memory figure, or null. -/
theorem Report.hasFigure_iff {report : Report} {text : String} {v : Json}
    (layout : text ∈ [report.jsonText, report.toJson.compact]) :
    Json.HasFigure text v ↔ Json.ofOption .ofDouble report.freeMemoryGb = v := by
  have read : Json.parse? text = some report.toJson := by
    obtain rfl | rfl : text = report.jsonText ∨ text = report.toJson.compact := by
      simpa using layout
    · exact Json.parse?_pretty report.regular_toJson
    · exact Json.parse?_compact report.regular_toJson
  have member : report.toJson.fields? ["free_memory_gb"] =
      some [some (.ofOption .ofDouble report.freeMemoryGb)] := by
    refine Json.fields?_of_subset ?distinct
      (?chosen : [("free_memory_gb", Json.ofOption .ofDouble report.freeMemoryGb)] ⊆ _)
    case distinct => exact (by decide : fieldNames.Nodup)
    case chosen => simp
  rw [Json.HasFigure, read, Option.bind_some, member]
  simp

/-- The free memory is not learned: the table is not asked for, or it is unavailable, or it
cannot be read. -/
inductive Source.Unlearned (source : Source) (settings : Settings) : Prop where
  | unreached (unasked : .meminfo ∉ (source.transcript settings).questions)
  | unavailable {failure : Failure} (answer : source .meminfo = .error failure)
  | unreadable {table : String} {fault : MeminfoFault} (answer : source .meminfo = .ok table)
      (read : FreeMemory.ofMeminfo table = .error fault)

/-- The memory figure in the report of a run is ordinary, so the report equals itself, and in
JSON null stands for a figure that was not learned and for nothing else. -/
structure Report.Ordinary (source : Source) (settings : Settings) (report : Report) : Prop where
  ordinary : ∀ x ∈ report.freeMemoryGb, x.Ordinary
  equal_self : report.equal report
  /-- The memory check is not reached exactly if the cores do not suffice. -/
  unasked_iff : .meminfo ∉ (source.transcript settings).questions ↔
    source .logicalCores < settings.minCores
  null_iff : ∀ text ∈ [report.jsonText, report.toJson.compact],
    (Json.HasFigure text .null ↔ source.Unlearned settings)
  number : ∀ text ∈ [report.jsonText, report.toJson.compact], ∀ x ∈ report.freeMemoryGb,
    ∃ n, Json.ofDouble x = .number n ∧ Json.HasFigure text (.number n)

namespace Source

variable (source : Source) (settings : Settings)

/-- The memory table is asked for unless the cores do not suffice. -/
theorem unasked_iff : .meminfo ∉ (source.transcript settings).questions ↔
    source .logicalCores < settings.minCores := by
  have follows := source.follows_course settings
  rw [transcript_eq]
  generalize source.course settings = course at follows ⊢
  cases follows with
  | fewCores few => simp [few]
  | noMemory cores _ | littleMemory cores _ _ | complete cores _ _ =>
    simp [UInt64.not_lt.2 cores]

/-- The free memory is learned unless there is a reason why not. -/
theorem unlearned_iff :
    source.Unlearned settings ↔ (source.course settings).memory? = none := by
  constructor
  · intro unlearned
    rw [← Option.not_isSome_iff_eq_none, isSome_memory?]
    rintro ⟨cores, memory, known⟩
    obtain ⟨table, answer, read⟩ := freeMemory_eq_ok_iff.1 known
    cases unlearned with
    | unreached unasked => exact UInt64.not_lt.2 cores ((source.unasked_iff settings).1 unasked)
    | unavailable answer' => exact nomatch answer.symm.trans answer'
    | unreadable answer' read' =>
      obtain rfl := Except.ok.inj (answer.symm.trans answer')
      exact nomatch read.symm.trans read'
  · intro unknown
    by_cases few : source .logicalCores < settings.minCores
    · exact .unreached ((source.unasked_iff settings).2 few)
    · have cores := UInt64.not_lt.1 few
      cases answer : source .meminfo with
      | error failure => exact .unavailable answer
      | ok table =>
        cases read : FreeMemory.ofMeminfo table with
        | error fault => exact .unreadable answer read
        | ok memory =>
          have learned := (source.isSome_memory? settings).2
            ⟨cores, memory, freeMemory_eq_ok_iff.2 ⟨table, answer, read⟩⟩
          rw [unknown] at learned
          exact absurd learned Bool.false_ne_true

/-- The figure of a run is the figure of the memory that the run learns. -/
theorem freeMemoryGb_report : (source.report settings).freeMemoryGb =
    (source.course settings).memory?.map FreeMemory.gigabytes := by
  rw [source.report_eq settings, outcome]

/-- Every memory figure of a run is ordinary. -/
theorem ordinary_freeMemoryGb : ∀ x ∈ (source.report settings).freeMemoryGb, x.Ordinary := by
  rw [freeMemoryGb_report]
  intro x mem
  obtain ⟨memory, -, rfl⟩ := Option.map_eq_some_iff.1 mem
  exact memory.ordinary_gigabytes

/-- **The report of a run equals itself.** -/
theorem equal_self_report : (source.report settings).equal (source.report settings) :=
  Report.equal_self_iff.2 fun nan => (source.ordinary_freeMemoryGb settings _ nan).ne_nan rfl

/-- **The memory figure in the report of a run is ordinary.** -/
theorem ordinary_report : (source.report settings).Ordinary source settings := by
  have ordinary := source.ordinary_freeMemoryGb settings
  have written {x : Double} (mem : x ∈ (source.report settings).freeMemoryGb) :
      ∃ n, Json.ofDouble x = .number n := by
    have finite := (ordinary x mem).finite
    cases x with
    | finite negative m => exact ⟨_, rfl⟩
    | infinite negative => exact absurd finite Bool.false_ne_true
    | nan => exact absurd finite Bool.false_ne_true
  constructor
  case ordinary => exact ordinary
  case equal_self => exact source.equal_self_report settings
  case unasked_iff => exact source.unasked_iff settings
  case null_iff =>
    intro text layout
    rw [Report.hasFigure_iff layout, unlearned_iff]
    have figure := source.freeMemoryGb_report settings
    cases learned : (source.course settings).memory? with
    | none =>
      rw [learned, Option.map_none] at figure
      simp [figure, Json.ofOption]
    | some memory =>
      rw [learned, Option.map_some] at figure
      obtain ⟨n, value⟩ := written figure
      simp [figure, Json.ofOption, value]
  case number =>
    intro text layout x mem
    obtain ⟨n, value⟩ := written mem
    refine ⟨n, value, (Report.hasFigure_iff layout).2 ?_⟩
    rw [Option.mem_def.1 mem]
    exact value

end Source

/-! ## Sessions -/

namespace Session

/-- A run in a session: the state that it ran on, and what was answered. -/
structure Run where
  fixture : Fixture
  settings : Settings
  report : Report
  /-- Whether the report equals that of the run before, if there was one. -/
  same : Option Bool

/-- Two runs ran on the same state. -/
def Run.SameState (a b : Run) : Prop := a.fixture = b.fixture ∧ a.settings = b.settings

instance (a b : Run) : Decidable (a.SameState b) := inferInstanceAs (Decidable (_ ∧ _))

/-- The run that a step makes, if it makes one. -/
def run? (session : Session) (step : Step) : Option Run :=
  match session.reply step with
  | .report report same => some ⟨session.fixture, session.settings, report, same⟩
  | .done | .answers _ => none

/-- The runs that a row of steps makes, in order. -/
def runs (session : Session) : List Step → List Run
  | [] => []
  | step :: steps => (session.run? step).toList ++ (session.next step).runs steps

/-- Runs with the same state have equal reports, and a run that repeats the one before it is
told so. -/
structure Repeatable (session : Session) (steps : List Step) : Prop where
  equal : ∀ a ∈ session.runs steps, ∀ b ∈ session.runs steps, a.SameState b →
    a.report.equal b.report
  told : (session.runs steps).IsChain fun a b => a.SameState b → b.same = some true

variable {session : Session} {step : Step} {run : Run}

/-- What a run answers: the report of its state, compared with the last one. -/
theorem answer_of_run? (made : session.run? step = some run) :
    run.report = run.fixture.source.report run.settings ∧
      run.same = session.last.map run.report.equal := by
  cases step with
  | run =>
    obtain rfl := Option.some.inj made
    exact ⟨rfl, rfl⟩
  | _ => exact nomatch made

/-- The last report is kept until the next run. -/
theorem last_next (session : Session) (step : Step) :
    (session.next step).last = ((session.run? step).map Run.report).or session.last := by
  cases step with
  | run => simp [next, run?, reply]
  | _ => rfl

/-- Every run of a session has the report of the state that it ran on. -/
theorem report_of_mem_runs {steps : List Step} (mem : run ∈ session.runs steps) :
    run.report = run.fixture.source.report run.settings := by
  induction steps generalizing session with
  | nil => exact nomatch mem
  | cons step steps ih =>
    rcases List.mem_append.1 mem with first | later
    · exact (answer_of_run? (Option.mem_toList.1 first)).1
    · exact ih later

/-- Each run of a session is compared with the one before it, and the first one with the last
report of the session. -/
theorem same_runs (session : Session) (steps : List Step) :
    (∀ run ∈ (session.runs steps).head?, run.same = session.last.map run.report.equal) ∧
      (session.runs steps).IsChain fun a b => b.same = some (b.report.equal a.report) := by
  induction steps generalizing session with
  | nil => exact ⟨by simp [runs], .nil⟩
  | cons step steps ih =>
    obtain ⟨first, chain⟩ := ih (session.next step)
    rw [last_next] at first
    rw [runs]
    cases made : session.run? step with
    | none =>
      rw [made] at first
      exact ⟨first, chain⟩
    | some run =>
      rw [made] at first
      refine ⟨?_, List.isChain_cons.2 ⟨first, chain⟩⟩
      intro run' head
      obtain rfl := Option.some.inj head
      exact (answer_of_run? made).2

/-- Runs with the same state have equal reports. -/
theorem equal_of_sameState {steps : List Step} {a b : Run} (mem : a ∈ session.runs steps)
    (mem' : b ∈ session.runs steps) (same : a.SameState b) : a.report.equal b.report := by
  rw [report_of_mem_runs mem, report_of_mem_runs mem', same.1, same.2]
  exact Source.equal_self_report _ _

/-- **A session is repeatable.** -/
theorem repeatable (session : Session) (steps : List Step) : session.Repeatable steps where
  equal _ mem _ mem' := equal_of_sameState mem mem'
  told := (session.same_runs steps).2.imp_of_mem_imp fun a b mem mem' told same => by
    rw [told, equal_of_sameState mem' mem ⟨same.1.symm, same.2.symm⟩]

end Session

/-- **Memory figures are ordinary numbers.**  For every count of kilobytes the figure is
finite, from zero on and not the negative zero.  So is the figure in the report of a run, if
there is one, whatever the source and the threshold; the report equals itself, and its figure
in JSON is null exactly if the memory check is not reached, or the table is unavailable or
cannot be read.  In every session, runs with the same state have equal reports. -/
theorem memoryFigure_ordinary :
    (∀ memory : FreeMemory, memory.gigabytes.Ordinary) ∧
      (∀ (source : Source) (settings : Settings),
        (source.report settings).Ordinary source settings) ∧
      ∀ (session : Session) (steps : List Session.Step), session.Repeatable steps :=
  ⟨FreeMemory.ordinary_gigabytes, Source.ordinary_report, Session.repeatable⟩

/-- Steps with three runs at a threshold that is not a number, one of them with too few cores. -/
def Session.unordered : List Session.Step :=
  [.useFixture .healthy, .setThresholds none (some .nan), .run, .setCores 2, .run, .setCores 4,
    .run]

/-- The last run differs from the one before it, but its report equals that of the first one,
which had the same state. -/
theorem memoryFigure_ordinary_unordered :
    ∃ first ∈ Session.start.runs Session.unordered, ∃ last ∈ Session.start.runs Session.unordered,
      first.same = none ∧ last.same = some false ∧ first.SameState last ∧
        last.settings.minFreeMemoryGb = .nan ∧ last.report.freeMemoryGb = some 8 ∧
        first.report.equal last.report := by
  have repeated : ∃ first ∈ Session.start.runs Session.unordered,
      ∃ last ∈ Session.start.runs Session.unordered,
        first.same = none ∧ last.same = some false ∧ first.SameState last ∧
          last.settings.minFreeMemoryGb = .nan ∧ last.report.freeMemoryGb = some 8 := by
    decide +kernel
  obtain ⟨first, mem, last, mem', start, other, same, nan, figure⟩ := repeated
  have equal := (memoryFigure_ordinary.2.2 .start Session.unordered).equal first mem last mem' same
  exact ⟨first, mem, last, mem', start, other, same, nan, figure, equal⟩

end HostPreflight
