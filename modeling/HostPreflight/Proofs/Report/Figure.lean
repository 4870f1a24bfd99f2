import HostPreflight.Proofs.Memory.Figure
import HostPreflight.Proofs.Report.RoundTrip
import HostPreflight.Proofs.Run.Course

/-!
# Memory figures that are read back

A report is read back with the memory figure that the reader makes of the written one.  This
is not always the figure itself: most figures have sixteen or seventeen digits, and as a
whole number these do not always fit into 53 bits.  What is read is then the quotient of a
neighbouring number, and it is the figure, or the one before it, or the one after it.

## Main definitions

* `Double.ReadsAs x y` — the number text of `x` is read as `y`.
* `FreeMemory.Reread memory m y` — the figure `m` of a memory is read back as `y`.
* `Report.Reread report copy` — a report is read back as `copy`.

## Main statements

* `memoryFigure_reread` — what is read back, for every memory and for every run.
-/

namespace HostPreflight

open Json Double

/-- The number text of a double is read as another one. -/
def Double.ReadsAs (x y : Double) : Prop :=
  (parse? (ofDouble x).compact).bind double? = some y

/-- The number text of a double is read as its JSON value is. -/
theorem Double.readsAs_iff {x y : Double} : x.ReadsAs y ↔ double? (ofDouble x) = some y := by
  rw [ReadsAs, parse?_compact (regular_ofDouble x), Option.bind_some]

/-- A finite double is read back if it is read as itself. -/
theorem Double.readsBack_iff {m : Magnitude} :
    (Double.finite false m).ReadsBack ↔ (Double.finite false m).ReadsAs (.finite false m) :=
  and_iff_right rfl

/-- The figure of a memory is `m`, and its number text is read as `y`: the figure itself or a
neighbour.  It is the figure itself exactly if its digits, rounded to 53 bits, still lie in
the interval that rounds to the figure; so in particular if they have no more bits, and up to
`9 * 10 ^ 15` kilobytes also if the two divisions by a thousand give what one by a million
gives. -/
structure FreeMemory.Reread (memory : FreeMemory) (m y : Magnitude) : Prop where
  figure : memory.gigabytes = .finite false m
  readsAs : memory.gigabytes.ReadsAs (.finite false y)
  beside : m.Beside y
  same_iff : y = m ↔
    m.covers (4 * nearest ((m.shortest .toEven).numerator * unitsPerOne) 1)
      (m.shortest .toEven).denominator
  same_of_short : (m.shortest .toEven).coefficient ≤ Nat.pow 2 53 → y = m
  same_of_once : memory.kilobytes.toNat ≤ 9000000000000000 →
    nearest (memory.kilobytes.toNat * unitsPerOne) 1000000 = m.units → y = m

/-- A report is read from its JSON text as `copy`: the two differ in the memory figure at most,
and the text of the copy is the same exactly if the figure is read back. -/
structure Report.Reread (report copy : Report) : Prop where
  read : ofJsonText? report.jsonText = some copy
  others : copy = { report with freeMemoryGb := copy.freeMemoryGb }
  figure : Option.Rel ReadsAs report.freeMemoryGb copy.freeMemoryGb
  same_iff : copy.jsonText = report.jsonText ↔ ∀ x ∈ report.freeMemoryGb, x.ReadsBack

namespace Double.Magnitude

variable {m y : Magnitude}

/-- What a moderate magnitude is read as. -/
theorem Moderate.exists_readsAs (moderate : m.Moderate) :
    ∃ y : Magnitude, (Double.finite false m).ReadsAs (.finite false y) ∧
      y.units = nearest (nearest ((m.shortest .toEven).numerator * unitsPerOne) 1)
        (m.shortest .toEven).denominator := by
  obtain ⟨y, read, units⟩ := moderate.isRead
  exact ⟨y, readsAs_iff.2 read, units⟩

/-- A neighbour of a moderate magnitude is not much larger. -/
theorem Moderate.le_of_beside (moderate : m.Moderate) (beside : m.Beside y) :
    y.units ≤ Nat.pow 2 45 * unitsPerOne := by
  obtain ⟨w, -, units⟩ := ofNat_eq_finite (n := Nat.pow 2 45) (by decide)
  have between := (beside w).1
  rw [units] at between
  exact Nat.not_lt.1 fun above => between ⟨moderate.small, above⟩

/-- Digits of at most 53 bits are not rounded. -/
theorem Moderate.nearest_numerator (moderate : m.Moderate)
    (short : (m.shortest .toEven).coefficient ≤ Nat.pow 2 precision) :
    nearest ((m.shortest .toEven).numerator * unitsPerOne) 1 =
      (m.shortest .toEven).numerator * unitsPerOne := by
  have few : (m.shortest .toEven).numerator ≤ Nat.pow 2 precision := by
    rcases Int.lt_or_le (m.shortest .toEven).exponent 0 with negative | nonneg
    · rw [Scientific.numerator_of_neg negative]
      exact short
    · exact Nat.le_trans (numerator_le (Nat.le_of_lt moderate.small) nonneg) (by decide)
  exact nearest_of_isGrid (isGrid_whole few)

end Double.Magnitude

/-- **Every memory figure is read back as itself or as a neighbour.** -/
theorem FreeMemory.exists_reread (memory : FreeMemory) :
    ∃ m y : Magnitude, memory.Reread m y := by
  obtain ⟨m, figure, moderate⟩ := memory.exists_gigabytes
  obtain ⟨y, readsAs, units⟩ := moderate.exists_readsAs
  have exactly := m.nearest_shortest .toEven
  have positive : 0 < (m.shortest .toEven).denominator := ten_pow_pos _
  have same_of_short (short : (m.shortest .toEven).coefficient ≤ Nat.pow 2 53) : y = m := by
    rw [moderate.nearest_numerator short, exactly] at units
    exact Magnitude.ext units
  refine ⟨m, y, ?_⟩
  constructor
  case figure => exact figure
  case readsAs => exact figure ▸ readsAs
  case beside => exact Magnitude.beside_of_two_steps positive exactly units.symm
  case same_iff =>
    rw [Magnitude.covers_iff positive, ← units]
    exact ⟨congrArg Magnitude.units, Magnitude.ext⟩
  case same_of_short => exact same_of_short
  case same_of_once => exact fun few once => same_of_short (moderate.coefficient_le few once)

namespace Report

variable {report other : Report}

/-- Reports with the same text have memory figures with the same text. -/
theorem ofDouble_of_jsonText (same : report.jsonText = other.jsonText) :
    ofOption ofDouble report.freeMemoryGb = ofOption ofDouble other.freeMemoryGb := by
  have value : report.toJson = other.toJson := by
    have parsed := parse?_pretty report.regular_toJson
    have parsed' := parse?_pretty other.regular_toJson
    have texts : report.toJson.pretty = other.toJson.pretty := same
    rw [texts, parsed'] at parsed
    exact (Option.some.inj parsed).symm
  simp only [toJson, Json.record, List.map_cons, Json.object.injEq, List.cons.injEq,
    Prod.mk.injEq] at value
  exact value.2.2.2.1.2

/-- A report is read from its text, with the memory figure that the reader makes of the written
one. -/
theorem ofJsonText?_of_figure {figure : Option Double}
    (read : optional double? (some (ofOption .ofDouble report.freeMemoryGb)) = some figure) :
    ofJsonText? report.jsonText = some { report with freeMemoryGb := figure } := by
  rw [ofJsonText?, jsonText, parse?_pretty report.regular_toJson, Option.bind_some,
    ofJson?_toJson_of_figure read]

/-- A report without a memory figure is read back as it is. -/
theorem reread_of_none (none : report.freeMemoryGb = none) : report.Reread report where
  read := (roundTrip_jsonText fun x mem => by simp [none] at mem).1
  others := rfl
  figure := none ▸ .none
  same_iff := iff_of_true rfl fun x mem => by simp [none] at mem

/-- A report with a moderate memory figure is read back with what the reader makes of it. -/
theorem exists_reread_of_some {m : Magnitude} (moderate : m.Moderate)
    (some : report.freeMemoryGb = some (.finite false m)) : ∃ copy, report.Reread copy := by
  obtain ⟨y, readsAs, units⟩ := moderate.exists_readsAs
  have figure : optional double? (Option.some (ofOption .ofDouble report.freeMemoryGb)) =
      Option.some (Option.some (.finite false y)) := by
    rw [some]
    exact congrArg (Option.map Option.some) (readsAs_iff.1 readsAs)
  have read := ofJsonText?_of_figure figure
  have beside := Magnitude.beside_of_two_steps (ten_pow_pos _) (m.nearest_shortest .toEven)
    units.symm
  refine ⟨_, read, rfl, ?_, ?_⟩
  · rw [some]
    exact .some readsAs
  · constructor
    · -- the same text has the same digits, and they stand for one magnitude only
      intro same x mem
      obtain rfl : .finite false m = x := by simpa [some] using mem
      have digits := ofDouble_of_jsonText same
      rw [some] at digits
      obtain rfl : y = m := Magnitude.numeral_injective (moderate.le_of_beside beside)
        (Nat.le_of_lt moderate.small) (Json.number.inj digits)
      exact readsBack_iff.2 readsAs
    · intro back
      have whole := (roundTrip_jsonText back).1
      rw [read] at whole
      exact congrArg jsonText (Option.some.inj whole)

end Report

/-- **Memory figures that are read back.**  The number text of every memory figure is read as
the figure itself or as a neighbour, and as itself under an exact condition on its digits.
The report of every run is read back from its JSON text; it differs from the original in the
memory figure at most, and it is written as the same text again exactly if that figure is
read as itself. -/
theorem memoryFigure_reread :
    (∀ memory : FreeMemory, ∃ m y : Magnitude, memory.Reread m y) ∧
      ∀ (source : Source) (settings : Settings), ∃ copy, (source.report settings).Reread copy := by
  refine ⟨FreeMemory.exists_reread, fun source settings => ?_⟩
  have figure : (source.report settings).freeMemoryGb =
      (source.course settings).memory?.map FreeMemory.gigabytes := by
    rw [source.report_eq settings, Source.outcome]
  cases learned : (source.course settings).memory? with
  | none =>
    rw [learned] at figure
    exact ⟨_, Report.reread_of_none figure⟩
  | some memory =>
    obtain ⟨m, value, moderate⟩ := memory.exists_gigabytes
    rw [learned, Option.map_some, value] at figure
    exact Report.exists_reread_of_some moderate figure

/-- A source with a memory whose figure needs seventeen digits. -/
def uneven : Source
  | .cpuTopology => .error (.commandFailed "lscpu -p" "exit status: 1")
  | .logicalCores => 4
  | .meminfo => .ok "MemTotal: 16000000 kB\nMemFree: 4000143 kB\n"
  | .devbindStatus => .error (.missingVariable "RTE_SDK")

/-- Its figure `4.0001430000000004` is read as the double before it, which is written as
`4.000143`.  So it is not read back, and the report that is read back has another text. -/
theorem not_readsBack_uneven :
    ¬ (FreeMemory.gigabytes ⟨4000143⟩).ReadsBack ∧
      (FreeMemory.gigabytes ⟨4000143⟩).ReadsAs (.ofRatio false 4000143 1000000) ∧
      (uneven.report .default).freeMemoryGb = some (FreeMemory.gigabytes ⟨4000143⟩) ∧
      (Report.ofJsonText? (uneven.report .default).jsonText).map Report.jsonText ≠
        some (uneven.report .default).jsonText := by
  have other : ¬ (FreeMemory.gigabytes ⟨4000143⟩).ReadsBack := by decide +kernel
  have readsAs : (parse? (ofDouble (FreeMemory.gigabytes ⟨4000143⟩)).compact).bind double? =
      some (.ofRatio false 4000143 1000000) := by decide +kernel
  have figure : (uneven.report .default).freeMemoryGb = some (FreeMemory.gigabytes ⟨4000143⟩) := by
    decide +kernel
  obtain ⟨m, value, moderate⟩ := FreeMemory.exists_gigabytes ⟨4000143⟩
  obtain ⟨copy, reread⟩ :=
    Report.exists_reread_of_some moderate (figure.trans (congrArg some value))
  refine ⟨other, readsAs, figure, fun same => other ?_⟩
  rw [reread.read, Option.map_some] at same
  exact reread.same_iff.1 (Option.some.inj same) _ figure

end HostPreflight
