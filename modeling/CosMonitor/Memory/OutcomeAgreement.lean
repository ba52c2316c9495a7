/-
**Three readers of outcomes.**

A technical report compares the outcomes of a decision, the consolidation classifies them, and the outcome
signal counts them. Each reads the same two lists by code of its own.

* `comparedReading`, `classifiedReading`: what the comparison and the other two find for an expected
  outcome: its metric, the actual value as a success or a failure, and whether it corroborates;
* `compareExpectedActualOutcomes_spec`, `buildConsolidation_readings`, `computeOutcomeSignal_spec`: when each
  of them returns, and its result from the readings;
* `outcomes_agree_iff`: they agree exactly when nothing is matched, or everything is, by actual outcomes
  that both lookups find and both read alike, and the predicted successes that came true are not just half
  of the outcomes.
-/

import CosMonitor.Foundation.Lookups
import CosMonitor.Memory.LearnedSuccess
import CosMonitor.Report.Renderers
import Mathlib.Data.Int.Order.Basic

namespace CosMonitor

/-! ### The lookups -/

section Lookups

/-- The comparison keeps an actual outcome under a key that equals a metric. -/
def namedAs (metric actual : Json) : Bool :=
  (actual.get "verifiable_by").truthy && sameKey (actual.get "verifiable_by") metric

/-- The consolidation and the signal keep an actual outcome under the text of a metric. -/
def writtenAs (std : Stdlib) (metric actual : Json) : Bool :=
  actual.isDict && decide (actual.get "verifiable_by" ≠ .null) &&
    decide (std.str (actual.get "verifiable_by") = std.str metric)

/-- An actual outcome that the table of the comparison can be built with. -/
def Nameable (actual : Json) : Prop :=
  actual.isDict = true ∧
    ((actual.get "verifiable_by").truthy = true → hashable (actual.get "verifiable_by") = true)

instance (actual : Json) : Decidable (Nameable actual) :=
  inferInstanceAs (Decidable (_ ∧ _))

variable {std : Stdlib} {actuals : List Json} {table : List (Json × Json)} {metric : Json}

/-- **The table of the comparison.** It is built from objects with keys that can be hashed, and finds the
last actual outcome of a metric. -/
theorem namedOutcomes_eq_ok (metric : Json) : namedOutcomes actuals = .ok table →
    (∀ actual ∈ actuals, Nameable actual) ∧
      (table.find? fun entry => sameKey entry.1 metric).map Prod.snd =
        Lookups.last (namedAs metric) actuals := by
  induction actuals generalizing table with
  | nil =>
      rintro built
      obtain rfl := Except.ok.inj built
      exact ⟨by rintro _ ⟨⟩, rfl⟩
  | cons actual rest ih =>
      intro built
      unfold namedOutcomes at built
      rw [Lookups.last_cons]
      by_cases dict : actual.isDict = true
      · rw [if_neg (by simp [dict])] at built
        by_cases names : (actual.get "verifiable_by").truthy = true
        · rw [if_neg (by simp [names])] at built
          by_cases key : hashable (actual.get "verifiable_by") = true
          · rw [if_pos key] at built
            obtain ⟨others, fromRest, built⟩ := Result.bind_eq_ok.mp built
            obtain rfl := Result.pure_eq_ok.mp built
            obtain ⟨nameable, found⟩ := ih fromRest
            refine ⟨List.forall_mem_cons.mpr ⟨⟨dict, fun _ => key⟩, nameable⟩, ?_⟩
            rw [← found, List.find?_append, List.find?_singleton, Option.map_or]
            congr 1
            unfold namedAs
            rw [names, Bool.true_and]
            split <;> rfl
          · rw [if_neg key] at built
            cases built
        · rw [if_pos (by simp [names])] at built
          obtain ⟨nameable, found⟩ := ih built
          refine ⟨List.forall_mem_cons.mpr ⟨⟨dict, fun yes => absurd yes names⟩, nameable⟩, ?_⟩
          rw [found, namedAs, if_neg (by simp [names]), Option.or_none]
      · rw [if_pos (by simp [dict])] at built
        cases built

theorem namedOutcomes_returns (nameable : ∀ actual ∈ actuals, Nameable actual) :
    ∃ table, namedOutcomes actuals = .ok table := by
  induction actuals with
  | nil => exact ⟨[], rfl⟩
  | cons actual rest ih =>
      obtain ⟨⟨dict, key⟩, others⟩ := List.forall_mem_cons.mp nameable
      obtain ⟨table, built⟩ := ih others
      unfold namedOutcomes
      rw [if_neg (by simp [dict])]
      by_cases names : (actual.get "verifiable_by").truthy = true
      · rw [if_neg (by simp [names]), if_pos (key names), built]
        exact ⟨_, rfl⟩
      · rw [if_pos (by simp [names])]
        exact ⟨table, built⟩

theorem actualByMetric_lookup :
    (actualByMetric std actuals).lookup (std.str metric) =
      Lookups.last (writtenAs std metric) actuals := by
  have single (key other : String) (value : Json) :
      [(other, value)].lookup key = if other = key then some value else none := by
    rw [List.lookup_cons, List.lookup_nil]
    by_cases same : other = key
    · simp [same]
    · rw [beq_eq_false_iff_ne.mpr (Ne.symm same), if_neg same]
  induction actuals with
  | nil => rfl
  | cons actual rest ih =>
      rw [Lookups.last_cons, ← ih]
      unfold actualByMetric
      rw [List.filterMap_cons]
      cases dict : actual.isDict with
      | false => simp [writtenAs, dict]
      | true =>
          cases names : actual.get "verifiable_by" with
          | null => simp [writtenAs, names]
          | _ => simp [writtenAs, dict, names, List.lookup_append, single]

end Lookups

/-! ### The readings -/

section Readings

/-- What a reader found out about an expected outcome that it matched. -/
structure OutcomeReading where
  metric : String
  actual : Bool
  corroborated : Bool
  deriving DecidableEq

/-- What a detail of the comparison says. -/
def OutcomeDetail.reading (std : Stdlib) : OutcomeDetail → Option OutcomeReading
  | .matched metric _ actual success => some ⟨std.str metric, actual, success⟩
  | .unavailable _ _ => none

/-- What a detail of the consolidation says. -/
def ConsolidationDetail.reading (detail : ConsolidationDetail) : Option OutcomeReading :=
  match detail.metric, detail.actual with
  | some metric, some actual => some ⟨metric, actual, detail.classification == .corroborated⟩
  | _, _ => none

/-- The balance of what corroborates and what does not. -/
def readingsSign (readings : List OutcomeReading) : ℤ :=
  Int.sign ((readings.countP (·.corroborated) : ℤ) - readings.countP (! ·.corroborated))

/-- The balance of a consolidation, which its feedback is the rounded mean of. -/
def ConsolidationResult.sign (result : ConsolidationResult) : ℤ :=
  Int.sign ((result.corroborated : ℤ) - result.contradicted)

/-- What an outcome signal says: met, not met, or nothing. -/
def signalSign : Option Bool → ℤ
  | some true => 1
  | some false => -1
  | none => 0

/-- **All three read a decision alike**: they return, the comparison and the consolidation match the same
metrics with the same values and verdicts, and the balance of all three is the same. -/
def OutcomesAgree (std : Stdlib) (decision : Decision) : Prop :=
  ∃ comparison consolidation signal,
    compareExpectedActualOutcomes decision.expectedOutcomes decision.actualOutcomes = .ok comparison ∧
    buildConsolidation std decision.view = .ok consolidation ∧
    computeOutcomeSignal std decision = .ok signal ∧
    comparison.details.filterMap (OutcomeDetail.reading std) =
      consolidation.details.filterMap ConsolidationDetail.reading ∧
    readingsSign (comparison.details.filterMap (OutcomeDetail.reading std)) = consolidation.sign ∧
    signalSign signal = consolidation.sign

variable (std : Stdlib) (actuals : List Json) (expected : Json)

/-- The probability that the comparison uses. -/
def comparedPrediction : PyFloat :=
  (outcomePrediction expected).toOption.getD (.finite 0)

/-- The probability that the other two use. -/
def classifiedPrediction : PyFloat :=
  (predictedProbability expected).toOption.getD (.finite 0)

/-- The actual outcome that the comparison finds. -/
def comparedActual : Option Json :=
  Lookups.last (namedAs (expected.get "verifiable_by")) actuals

/-- The actual outcome that the other two find. -/
def classifiedActual : Option Json :=
  Lookups.last (writtenAs std (expected.get "verifiable_by")) actuals

/-- An expected outcome names what verifies it. -/
def namesMetric : Bool :=
  decide (expected.get "verifiable_by" ≠ .null)

/-- What the comparison says about an expected outcome. -/
def comparedDetail : OutcomeDetail :=
  match comparedActual actuals expected with
  | some actual => .matched (expected.get "verifiable_by") (comparedPrediction expected)
      (outcomeInt (actual.get "value"))
      ((comparedPrediction expected).atLeast predictionThreshold && outcomeInt (actual.get "value"))
  | none => .unavailable (expected.get "verifiable_by") (comparedPrediction expected)

/-- What the comparison reads about it. -/
def comparedReading : Option OutcomeReading :=
  (comparedActual actuals expected).map fun actual => {
    metric := std.str (expected.get "verifiable_by")
    actual := outcomeInt (actual.get "value")
    corroborated :=
      (comparedPrediction expected).atLeast predictionThreshold && outcomeInt (actual.get "value") }

/-- What the other two read about it. -/
def classifiedReading : Option OutcomeReading :=
  ((classifiedActual std actuals expected).bind fun actual => toBinary (actual.get "value")).map
    fun binary => {
      metric := std.str (expected.get "verifiable_by")
      actual := binary
      corroborated := (classifiedPrediction expected).atLeast predictionThreshold == binary }

/-- An expected outcome that the loop of the comparison accepts. -/
def Comparable : Prop :=
  expected.isDict = true ∧ hashable (expected.get "verifiable_by") = true ∧
    ∃ prediction, outcomePrediction expected = .ok prediction

variable {std actuals expected} {table : List (Json × Json)} {details : List OutcomeDetail}
  {decision : Decision}

theorem isDict_of_outcomePrediction {prediction : PyFloat}
    (read : outcomePrediction expected = .ok prediction) : expected.isDict = true := by
  by_contra other
  rw [outcomePrediction, if_pos (by simpa using other)] at read
  cases read

theorem comparedDetail_eq (built : namedOutcomes actuals = .ok table) {prediction : PyFloat}
    (read : outcomePrediction expected = .ok prediction) :
    comparedDetail actuals expected =
      match table.find? fun entry => sameKey entry.1 (expected.get "verifiable_by") with
      | some (_, actual) => .matched (expected.get "verifiable_by") prediction
          (outcomeInt (actual.get "value"))
          (prediction.atLeast predictionThreshold && outcomeInt (actual.get "value"))
      | none => .unavailable (expected.get "verifiable_by") prediction := by
  have found : (table.find? fun entry => sameKey entry.1 (expected.get "verifiable_by")).map Prod.snd =
      comparedActual actuals expected :=
    (namedOutcomes_eq_ok _ built).2
  have same : comparedPrediction expected = prediction := by
    rw [comparedPrediction, read]
    rfl
  rw [comparedDetail, ← found, same]
  cases table.find? fun entry => sameKey entry.1 (expected.get "verifiable_by") <;> rfl

/-- **The details of the comparison**: one for each expected outcome that names a metric. -/
theorem outcomeDetails_eq_ok (built : namedOutcomes actuals = .ok table) {outcomes : List Json} :
    outcomeDetails table outcomes = .ok details ↔
      (∀ expected ∈ outcomes, Comparable expected) ∧
        details = (outcomes.filter namesMetric).map (comparedDetail actuals) := by
  induction outcomes generalizing details with
  | nil =>
      rw [outcomeDetails, Except.ok.injEq]
      exact ⟨fun same => ⟨by rintro _ ⟨⟩, same.symm⟩, fun both => both.2.symm⟩
  | cons expected rest ih =>
      rw [outcomeDetails, Result.bind_eq_ok, List.forall_mem_cons]
      dsimp only
      by_cases names : expected.get "verifiable_by" = .null
      · have skipped : namesMetric expected = false := by simp [namesMetric, names]
        rw [List.filter_cons_of_neg (by simp [skipped])]
        constructor
        · rintro ⟨prediction, read, built⟩
          rw [if_pos names] at built
          obtain ⟨comparable, same⟩ := ih.mp built
          exact ⟨⟨⟨isDict_of_outcomePrediction read, by rw [names]; rfl, prediction, read⟩, comparable⟩,
            same⟩
        · rintro ⟨⟨⟨-, -, prediction, read⟩, comparable⟩, same⟩
          refine ⟨prediction, read, ?_⟩
          rw [if_pos names]
          exact ih.mpr ⟨comparable, same⟩
      · have listed : namesMetric expected = true := by simp [namesMetric, names]
        rw [List.filter_cons_of_pos listed, List.map_cons]
        constructor
        · rintro ⟨prediction, read, made⟩
          rw [if_neg names] at made
          by_cases key : hashable (expected.get "verifiable_by") = true
          · rw [if_neg (by simp [key])] at made
            obtain ⟨others, fromRest, made⟩ := Result.bind_eq_ok.mp made
            obtain ⟨comparable, rfl⟩ := ih.mp fromRest
            refine ⟨⟨⟨isDict_of_outcomePrediction read, key, prediction, read⟩, comparable⟩, ?_⟩
            rw [comparedDetail_eq built read]
            exact (Result.pure_eq_ok.mp made).symm
          · rw [if_pos (by simp [key])] at made
            cases made
        · rintro ⟨⟨⟨-, key, prediction, read⟩, comparable⟩, rfl⟩
          refine ⟨prediction, read, ?_⟩
          rw [if_neg names, if_neg (by simp [key])]
          refine Result.bind_eq_ok.mpr ⟨_, ih.mpr ⟨comparable, rfl⟩, ?_⟩
          rw [comparedDetail_eq built read]
          rfl

/-- A squared distance of the Brier score that is in the range of a double. -/
def Bounded (prediction : PyFloat) (outcome : Bool) : Prop :=
  ∃ square, (prediction.subRat (outcomeValue outcome)).square = .ok square

theorem brierScore_returns {pairs : List OutcomePair} :
    (∃ brier, brierScore pairs = .ok brier) ↔ ∀ pair ∈ pairs, Bounded pair.1 pair.2 := by
  unfold brierScore
  constructor
  · rintro ⟨brier, returned⟩
    obtain ⟨squares, squared, -⟩ := Result.bind_eq_ok.mp returned
    exact Result.mapM_returned_iff.mp ⟨squares, squared⟩
  · intro bounded
    obtain ⟨squares, squared⟩ := Result.mapM_returned_iff.mpr bounded
    exact ⟨_, Result.bind_eq_ok.mpr ⟨squares, squared, rfl⟩⟩

/-- What the comparison returns with, apart from the two lists themselves being empty. -/
structure ComparisonTerms (actuals outcomes : List Json) : Prop where
  nameable : ∀ actual ∈ actuals, Nameable actual
  comparable : ∀ expected ∈ outcomes, Comparable expected
  /-- the scores zip the predictions that were matched with all outcomes, strictly -/
  strict : (∀ expected ∈ outcomes.filter namesMetric, comparedActual actuals expected = none) ∨
    ∀ expected ∈ outcomes.filter namesMetric, (comparedActual actuals expected).isSome = true
  bounded : ∀ expected ∈ outcomes.filter namesMetric, ∀ actual,
    comparedActual actuals expected = some actual →
      Bounded (comparedPrediction expected) (outcomeInt (actual.get "value"))

theorem comparedDetail_pair :
    (comparedDetail actuals expected).pair = (comparedActual actuals expected).map fun actual =>
      (comparedPrediction expected, outcomeInt (actual.get "value")) := by
  unfold comparedDetail
  cases comparedActual actuals expected <;> rfl

theorem comparedDetail_reading :
    (comparedDetail actuals expected).reading std = comparedReading std actuals expected := by
  unfold comparedDetail comparedReading
  cases comparedActual actuals expected <;> rfl

theorem comparedDetails_pairs {outcomes : List Json} :
    (outcomes.map (comparedDetail actuals)).filterMap OutcomeDetail.pair =
      outcomes.filterMap fun expected => (comparedActual actuals expected).map fun actual =>
        (comparedPrediction expected, outcomeInt (actual.get "value")) := by
  rw [List.filterMap_map]
  exact congrArg (List.filterMap · outcomes) (funext fun expected => comparedDetail_pair)

theorem comparedDetails_strict {outcomes : List Json} :
    (!((outcomes.map (comparedDetail actuals)).filterMap OutcomeDetail.pair).isEmpty &&
        decide (((outcomes.map (comparedDetail actuals)).filterMap OutcomeDetail.pair).length ≠
          (outcomes.map (comparedDetail actuals)).length)) = false ↔
      (∀ expected ∈ outcomes, comparedActual actuals expected = none) ∨
        ∀ expected ∈ outcomes, (comparedActual actuals expected).isSome = true := by
  rw [comparedDetails_pairs, List.length_map, Bool.and_eq_false_iff, Bool.not_eq_false',
    List.isEmpty_iff, List.filterMap_eq_nil_iff, decide_eq_false_iff_not, not_not,
    List.filterMap_length_eq_length]
  simp only [Option.map_eq_none_iff, Option.isSome_map]

theorem comparedDetails_bounded {outcomes : List Json} :
    (∃ brier, brierScore ((outcomes.map (comparedDetail actuals)).filterMap OutcomeDetail.pair) =
        .ok brier) ↔
      ∀ expected ∈ outcomes, ∀ actual, comparedActual actuals expected = some actual →
        Bounded (comparedPrediction expected) (outcomeInt (actual.get "value")) := by
  rw [brierScore_returns, comparedDetails_pairs]
  constructor
  · intro bounded expected member actual found
    exact bounded _ (List.mem_filterMap.mpr ⟨expected, member, by rw [found]; rfl⟩)
  · intro bounded pair member
    obtain ⟨expected, listed, isPair⟩ := List.mem_filterMap.mp member
    obtain ⟨actual, found, rfl⟩ := Option.map_eq_some_iff.mp isPair
    exact bounded expected listed actual found

theorem comparison_terms {outcomes : List Json} {received : Option (List Json)}
    (present : outcomes ≠ []) {comparison : OutcomeComparison}
    (returned : compareExpectedActualOutcomes outcomes received = .ok comparison) :
    ComparisonTerms (received.getD []) outcomes ∧
      comparison.details = (outcomes.filter namesMetric).map (comparedDetail (received.getD [])) := by
  unfold compareExpectedActualOutcomes at returned
  rw [if_neg (by rwa [List.isEmpty_iff])] at returned
  obtain ⟨named, built, returned⟩ := Result.bind_eq_ok.mp returned
  obtain ⟨details, made, returned⟩ := Result.bind_eq_ok.mp returned
  obtain ⟨comparable, rfl⟩ := (outcomeDetails_eq_ok built).mp made
  dsimp only at returned
  split at returned
  · cases returned
  · rename_i strict
    obtain ⟨brier, scored, returned⟩ := Result.bind_eq_ok.mp returned
    obtain rfl := Result.pure_eq_ok.mp returned
    exact ⟨⟨(namedOutcomes_eq_ok .null built).1, comparable,
      comparedDetails_strict.mp (Bool.eq_false_iff.mpr strict),
      comparedDetails_bounded.mp ⟨brier, scored⟩⟩, rfl⟩

/-- **The comparison returns on its terms**, with the details above. -/
theorem compareExpectedActualOutcomes_spec {outcomes : List Json} {received : Option (List Json)}
    (present : outcomes ≠ []) (terms : ComparisonTerms (received.getD []) outcomes) :
    ∃ comparison, compareExpectedActualOutcomes outcomes received = .ok comparison ∧
      comparison.details = (outcomes.filter namesMetric).map (comparedDetail (received.getD [])) := by
  suffices ∃ comparison, compareExpectedActualOutcomes outcomes received = .ok comparison by
    obtain ⟨comparison, returned⟩ := this
    exact ⟨comparison, returned, (comparison_terms present returned).2⟩
  obtain ⟨named, built⟩ := namedOutcomes_returns terms.nameable
  have made := (outcomeDetails_eq_ok built).mpr ⟨terms.comparable, rfl⟩
  obtain ⟨brier, scored⟩ := comparedDetails_bounded.mpr terms.bounded
  have strict := Bool.eq_false_iff.mp (comparedDetails_strict.mpr terms.strict)
  unfold compareExpectedActualOutcomes
  rw [if_neg (by rwa [List.isEmpty_iff]), built, Result.ok_bind, made, Result.ok_bind]
  dsimp only
  rw [if_neg strict, scored]
  exact ⟨_, rfl⟩

/-- An expected outcome that the other two classify. -/
def Classifiable (expected : Json) : Prop :=
  expected.isDict = false ∨ ∃ prediction, predictedProbability expected = .ok prediction

/-- What the consolidation and the signal read about an expected outcome, whatever it is. -/
def namedReading (std : Stdlib) (actuals : List Json) (expected : Json) : Option OutcomeReading :=
  if namesMetric expected then classifiedReading std actuals expected else none

theorem isDict_of_namesMetric (names : namesMetric expected = true) : expected.isDict = true := by
  cases expected with
  | obj fields => rfl
  | _ => cases names

/-- **What the consolidation says about an expected outcome**, in its detail. -/
theorem classifyExpected_spec {detail : ConsolidationDetail}
    (classified : classifyExpected std (actualByMetric std actuals) expected = .ok detail) :
    detail.reading = namedReading std actuals expected ∧
      (detail.outcomePair = detail.reading.map fun reading =>
        ((classifiedPrediction expected).round 4, reading.actual)) ∧
      (detail.classification == .corroborated) = detail.reading.any (·.corroborated) ∧
      (detail.classification == .contradicted) = detail.reading.any (! ·.corroborated) ∧
      Classifiable expected := by
  unfold classifyExpected at classified
  by_cases dict : expected.isDict = true
  · rw [if_pos dict] at classified
    unfold classifyExpectedOutcome at classified
    obtain ⟨prediction, read, classified⟩ := Result.bind_eq_ok.mp classified
    have isPrediction : classifiedPrediction expected = prediction := by
      rw [classifiedPrediction, read]
      rfl
    obtain rfl := Result.pure_eq_ok.mp classified
    refine and_assoc.mp (and_assoc.mp (and_assoc.mp ⟨?_, .inr ⟨prediction, read⟩⟩))
    cases shape : expected.get "verifiable_by" with
    | null =>
        simp [shape, namedReading, namesMetric, ConsolidationDetail.reading,
          ConsolidationDetail.outcomePair]
    | _ =>
        have listed : namesMetric expected = true := by simp [namesMetric, shape]
        unfold namedReading classifiedReading classifiedActual
        rw [if_pos listed, isPrediction, shape]
        simp only [Option.bind_some, actualByMetric_lookup]
        generalize Lookups.last _ actuals = found
        cases found with
        | none => exact ⟨⟨⟨rfl, rfl⟩, rfl⟩, rfl⟩
        | some actual =>
            simp only [Option.bind_some]
            generalize toBinary (actual.get "value") = value
            cases value with
            | none => exact ⟨⟨⟨rfl, rfl⟩, rfl⟩, rfl⟩
            | some binary =>
                cases prediction.atLeast predictionThreshold <;> cases binary <;>
                  exact ⟨⟨⟨rfl, rfl⟩, rfl⟩, rfl⟩
  · rw [if_neg dict] at classified
    obtain rfl := Except.ok.inj classified
    have skipped : namesMetric expected = false := by
      by_contra names
      exact dict (isDict_of_namesMetric (by simpa using names))
    simp [namedReading, skipped, ConsolidationDetail.reading, ConsolidationDetail.outcomePair,
      Classifiable, dict]

theorem classifyExpected_returns {byMetric : List (String × Json)}
    (classifiable : Classifiable expected) : ∃ detail, classifyExpected std byMetric expected = .ok detail := by
  unfold classifyExpected
  by_cases dict : expected.isDict = true
  · obtain other | ⟨prediction, read⟩ := classifiable
    · exact absurd dict (by simp [other])
    · rw [if_pos dict, classifyExpectedOutcome, read]
      exact ⟨_, rfl⟩
  · rw [if_neg dict]
    exact ⟨_, rfl⟩

/-- What the consolidation and the signal read in a list of expected outcomes. -/
def classifiedReadings (std : Stdlib) (actuals outcomes : List Json) : List OutcomeReading :=
  (outcomes.filter namesMetric).filterMap (classifiedReading std actuals)

theorem classifiedReadings_eq {outcomes : List Json} :
    classifiedReadings std actuals outcomes = outcomes.filterMap (namedReading std actuals) := by
  unfold classifiedReadings namedReading
  rw [List.filterMap_filter]

theorem classifiedDetails_spec {outcomes : List Json} {classified : List ConsolidationDetail}
    (mapped : outcomes.mapM (classifyExpected std (actualByMetric std actuals)) = .ok classified) :
    classified.filterMap ConsolidationDetail.reading = classifiedReadings std actuals outcomes ∧
      classified.countP (·.classification == .corroborated) =
        (classifiedReadings std actuals outcomes).countP (·.corroborated) ∧
      classified.countP (·.classification == .contradicted) =
        (classifiedReadings std actuals outcomes).countP (! ·.corroborated) ∧
      classified.filterMap ConsolidationDetail.outcomePair = outcomes.filterMap fun expected =>
        (namedReading std actuals expected).map fun reading =>
          ((classifiedPrediction expected).round 4, reading.actual) := by
  rw [classifiedReadings_eq]
  have each := Result.mapM_eq_ok.mp mapped
  clear mapped
  induction each with
  | nil => exact ⟨rfl, rfl, rfl, rfl⟩
  | cons done rest ih =>
      rename_i expected detail _ _
      obtain ⟨isReading, isPair, corroborated, contradicted, -⟩ := classifyExpected_spec done
      obtain ⟨readings, corroborations, contradictions, pairs⟩ := ih
      rw [List.countP_cons, List.countP_cons, List.filterMap_cons, List.filterMap_cons,
        List.filterMap_cons, List.filterMap_cons, corroborations, contradictions, readings, pairs,
        corroborated, contradicted, isPair, isReading]
      cases namedReading std actuals expected with
      | none => exact ⟨rfl, rfl, rfl, rfl⟩
      | some reading => simp [List.countP_cons]

/-- The scores of the consolidation are in range. -/
def ReadingsBounded (std : Stdlib) (actuals outcomes : List Json) : Prop :=
  ∀ expected ∈ outcomes, ∀ reading, namedReading std actuals expected = some reading →
    Bounded ((classifiedPrediction expected).round 4) reading.actual

theorem readingsBounded_iff {outcomes : List Json} :
    (∃ brier, brierScore (outcomes.filterMap fun expected =>
        (namedReading std actuals expected).map fun reading =>
          ((classifiedPrediction expected).round 4, reading.actual)) = .ok brier) ↔
      ReadingsBounded std actuals outcomes := by
  rw [brierScore_returns]
  constructor
  · intro bounded expected member reading isReading
    exact bounded _ (List.mem_filterMap.mpr ⟨expected, member, by rw [isReading]; rfl⟩)
  · intro bounded pair member
    obtain ⟨expected, listed, isPair⟩ := List.mem_filterMap.mp member
    obtain ⟨reading, isReading, rfl⟩ := Option.map_eq_some_iff.mp isPair
    exact bounded expected listed reading isReading

/-- **What the consolidation of an observed decision returned**, and that it read every outcome. -/
theorem buildConsolidation_readings {view : DecisionView} (observed : view.outcomeStatus ≠ some "pending")
    {result : ConsolidationResult} (built : buildConsolidation std view = .ok result) :
    result.details.filterMap ConsolidationDetail.reading =
        classifiedReadings std (view.actualOutcomes.getD []) view.expectedOutcomes ∧
      result.sign =
        readingsSign (classifiedReadings std (view.actualOutcomes.getD []) view.expectedOutcomes) ∧
      (∀ expected ∈ view.expectedOutcomes, Classifiable expected) ∧
      ReadingsBounded std (view.actualOutcomes.getD []) view.expectedOutcomes := by
  unfold buildConsolidation at built
  rw [if_neg observed] at built
  obtain ⟨details, mapped, built⟩ := Result.bind_eq_ok.mp built
  obtain ⟨brier, scored, built⟩ := Result.bind_eq_ok.mp built
  obtain rfl := Result.pure_eq_ok.mp built
  obtain ⟨readings, corroborations, contradictions, pairs⟩ := classifiedDetails_spec mapped
  refine ⟨readings, ?_, fun expected member => ?_, ?_⟩
  · unfold ConsolidationResult.sign readingsSign
    rw [← corroborations, ← contradictions]
  · obtain ⟨detail, done⟩ := Result.mapM_returns mapped member
    exact (classifyExpected_spec done).2.2.2.2
  · rw [pairs] at scored
    exact readingsBounded_iff.mp ⟨brier, scored⟩

theorem buildConsolidation_returns {view : DecisionView} (observed : view.outcomeStatus ≠ some "pending")
    (classifiable : ∀ expected ∈ view.expectedOutcomes, Classifiable expected)
    (bounded : ReadingsBounded std (view.actualOutcomes.getD []) view.expectedOutcomes) :
    ∃ result, buildConsolidation std view = .ok result := by
  obtain ⟨details, mapped⟩ := Result.mapM_returned_iff.mpr fun expected member =>
    classifyExpected_returns (classifiable expected member)
  obtain ⟨brier, scored⟩ := readingsBounded_iff.mpr bounded
  rw [← (classifiedDetails_spec mapped).2.2.2] at scored
  unfold buildConsolidation
  rw [if_neg observed]
  exact ⟨_, Result.bind_eq_ok.mpr ⟨details, mapped, Result.bind_eq_ok.mpr ⟨brier, scored, rfl⟩⟩⟩

theorem buildConsolidation_pending {view : DecisionView} (pending : view.outcomeStatus = some "pending") :
    ∃ result, buildConsolidation std view = .ok result ∧
      result.details.filterMap ConsolidationDetail.reading = [] ∧ result.sign = 0 := by
  unfold buildConsolidation
  rw [if_pos pending]
  refine ⟨_, rfl, ?_, rfl⟩
  rw [List.filterMap_map, List.filterMap_eq_nil_iff]
  exact fun _ _ => rfl

/-- **The signal reads an expected outcome as the consolidation does.** -/
theorem outcomeMatch_spec (classifiable : Classifiable expected) :
    outcomeMatch std (actualByMetric std actuals) expected =
      .ok ((namedReading std actuals expected).map OutcomeReading.corroborated) := by
  unfold outcomeMatch
  cases dict : expected.isDict with
  | false =>
      have skipped : namesMetric expected = false := by
        by_contra names
        simp [isDict_of_namesMetric (by simpa using names)] at dict
      simp [namedReading, skipped]
  | true =>
      obtain other | ⟨prediction, read⟩ := classifiable
      · rw [dict] at other
        cases other
      · have isPrediction : classifiedPrediction expected = prediction := by
          rw [classifiedPrediction, read]
          rfl
        cases shape : expected.get "verifiable_by" with
        | null => simp [namedReading, namesMetric, shape]
        | _ =>
            have listed : namesMetric expected = true := by simp [namesMetric, shape]
            unfold namedReading classifiedReading classifiedActual
            rw [if_pos listed, isPrediction, shape]
            dsimp only
            rw [actualByMetric_lookup]
            generalize Lookups.last _ actuals = found
            cases found with
            | none => rfl
            | some actual =>
                rw [read, Option.bind_some, Option.map_map]
                refine congrArg (fun verdict => Except.ok (Option.map verdict _)) (funext fun binary => ?_)
                exact Bool.beq_comm

/-- What the signal makes of readings. -/
def readingsSignal (readings : List OutcomeReading) : Option Bool :=
  let corroborated := readings.countP (·.corroborated)
  let contradicted := readings.countP (! ·.corroborated)
  if corroborated + contradicted = 0 then none else some (decide (contradicted < corroborated))

theorem computeOutcomeSignal_spec (observed : decision.outcomeStatus ≠ "pending")
    (classifiable : ∀ expected ∈ decision.expectedOutcomes, Classifiable expected) :
    computeOutcomeSignal std decision = .ok (readingsSignal
      (classifiedReadings std (decision.actualOutcomes.getD []) decision.expectedOutcomes)) := by
  unfold computeOutcomeSignal
  dsimp only
  generalize decision.actualOutcomes.getD [] = actuals
  generalize decision.expectedOutcomes = outcomes at classifiable
  rw [classifiedReadings_eq]
  by_cases nothing : decision.outcomeStatus = "pending" ∨ actuals = [] ∨ outcomes = []
  · rw [if_pos nothing]
    obtain rfl | rfl := nothing.resolve_left observed
    · have unread : outcomes.filterMap (namedReading std []) = [] :=
        List.filterMap_eq_nil_iff.mpr fun expected _ => by
          unfold namedReading
          split <;> rfl
      rw [unread]
      rfl
    · rfl
  · have mapped : outcomes.mapM (outcomeMatch std (actualByMetric std actuals)) = .ok
        (outcomes.map fun expected =>
          (namedReading std actuals expected).map OutcomeReading.corroborated) := by
      rw [Result.mapM_eq_ok, List.forall₂_map_right_iff, List.forall₂_same]
      exact fun expected member => outcomeMatch_spec (classifiable expected member)
    have counted (verdict : Bool) : (outcomes.map fun expected =>
          (namedReading std actuals expected).map OutcomeReading.corroborated).count (some verdict) =
        (outcomes.filterMap (namedReading std actuals)).countP (·.corroborated == verdict) := by
      rw [List.count_eq_countP, List.countP_map, List.countP_filterMap]
      refine List.countP_congr fun expected _ => ?_
      dsimp only [Function.comp_apply]
      cases namedReading std actuals expected <;> simp
    rw [if_neg nothing, mapped, Result.ok_bind, counted, counted]
    simp only [beq_true, beq_false]
    rfl

theorem length_eq_corroborations (readings : List OutcomeReading) :
    readings.length = readings.countP (·.corroborated) + readings.countP (! ·.corroborated) := by
  rw [List.length_eq_countP_add_countP (·.corroborated)]
  simp only [Bool.not_eq_true, Bool.decide_eq_false]

theorem readingsSignal_sign (readings : List OutcomeReading) :
    signalSign (readingsSignal readings) = readingsSign readings ↔
      readings = [] ∨ readings.countP (·.corroborated) ≠ readings.countP (! ·.corroborated) := by
  rw [← List.length_eq_zero_iff, length_eq_corroborations]
  unfold readingsSignal readingsSign
  dsimp only
  generalize readings.countP (·.corroborated) = corroborated
  generalize readings.countP (! ·.corroborated) = contradicted
  by_cases none : corroborated + contradicted = 0
  · obtain ⟨rfl, rfl⟩ := Nat.add_eq_zero_iff.mp none
    simp [signalSign]
  · rw [if_neg none]
    rcases Nat.lt_trichotomy contradicted corroborated with more | rfl | less
    · rw [Int.sign_eq_one_of_pos (by omega)]
      simp [signalSign, more, more.ne']
    · simp [signalSign]
      omega
    · rw [Int.sign_eq_neg_one_of_neg (by omega)]
      simp [signalSign, less.ne, Nat.not_lt_of_lt less]

end Readings

/-! ### The agreement -/

section Agreement

/-- Nobody matches an expected outcome: there is no actual one, or one that cannot be read. -/
def UnmatchedAlike (std : Stdlib) (decision : Decision) (expected : Json) : Prop :=
  comparedActual (decision.actualOutcomes.getD []) expected = none ∧
    (decision.outcomeStatus = "pending" ∨
      ∀ written, classifiedActual std (decision.actualOutcomes.getD []) expected = some written →
        toBinary (written.get "value") = none)

/-- Everybody matches it, and reads one value. A reported success has predictions of one side of the
threshold, and a reported failure has not been predicted. -/
def MatchedAlike (std : Stdlib) (actuals : List Json) (expected : Json) : Prop :=
  ∃ found written, comparedActual actuals expected = some found ∧
    classifiedActual std actuals expected = some written ∧
    toBinary (written.get "value") = some (outcomeInt (found.get "value")) ∧
    (if outcomeInt (found.get "value") then
      (comparedPrediction expected).atLeast predictionThreshold =
        (classifiedPrediction expected).atLeast predictionThreshold
    else (classifiedPrediction expected).atLeast predictionThreshold = true) ∧
    Bounded (comparedPrediction expected) (outcomeInt (found.get "value")) ∧
    Bounded ((classifiedPrediction expected).round 4) (outcomeInt (found.get "value"))

/-- A success was predicted, and reported. -/
def cameTrue (actuals : List Json) (expected : Json) : Bool :=
  (comparedActual actuals expected).any fun found =>
    (comparedPrediction expected).atLeast predictionThreshold && outcomeInt (found.get "value")

/-- The two lists of a decision that all three read alike. -/
structure ReadAlike (std : Stdlib) (decision : Decision) : Prop where
  nameable : ∀ actual ∈ decision.actualOutcomes.getD [], Nameable actual
  comparable : ∀ expected ∈ decision.expectedOutcomes, Comparable expected
  classifiable : decision.outcomeStatus = "pending" ∨
    ∀ expected ∈ decision.expectedOutcomes, Classifiable expected
  alike : (∀ expected ∈ decision.expectedOutcomes.filter namesMetric,
      UnmatchedAlike std decision expected) ∨
    decision.outcomeStatus ≠ "pending" ∧
      (∀ expected ∈ decision.expectedOutcomes.filter namesMetric,
        MatchedAlike std (decision.actualOutcomes.getD []) expected) ∧
      -- The predicted successes that came true are not just half of the outcomes.
      2 * (decision.expectedOutcomes.filter namesMetric).countP
          (cameTrue (decision.actualOutcomes.getD [])) ≠
        (decision.expectedOutcomes.filter namesMetric).length

variable {std : Stdlib} {decision : Decision} {actuals : List Json} {expected : Json}
  {comparison : OutcomeComparison}

theorem comparison_readings {outcomes : List Json}
    (made : comparison.details = (outcomes.filter namesMetric).map (comparedDetail actuals)) :
    comparison.details.filterMap (OutcomeDetail.reading std) =
      (outcomes.filter namesMetric).filterMap (comparedReading std actuals) := by
  rw [made, List.filterMap_map]
  exact congrArg (List.filterMap · _) (funext fun expected => comparedDetail_reading)

theorem matchedAlike_iff (found : (comparedActual actuals expected).isSome = true) :
    MatchedAlike std actuals expected ↔
      comparedReading std actuals expected = classifiedReading std actuals expected ∧
      (∀ actual, comparedActual actuals expected = some actual →
        Bounded (comparedPrediction expected) (outcomeInt (actual.get "value"))) ∧
      ∀ reading, classifiedReading std actuals expected = some reading →
        Bounded ((classifiedPrediction expected).round 4) reading.actual := by
  obtain ⟨actual, isActual⟩ := Option.isSome_iff_exists.mp found
  unfold MatchedAlike comparedReading classifiedReading
  rw [isActual]
  cases isWritten : classifiedActual std actuals expected with
  | none => simp
  | some written =>
      cases value : toBinary (written.get "value") with
      | none => simp [value]
      | some binary =>
          -- A conjunction and an equality give one verdict.
          have verdicts : ∀ outcome compared classified : Bool,
              (if outcome then compared = classified else classified = true) ↔
                (compared && outcome) = (classified == outcome) := by
            decide
          rw [Option.map_some, Option.bind_some, value, Option.map_some, Option.some.injEq,
            OutcomeReading.mk.injEq]
          constructor
          · rintro ⟨_, _, ⟨⟩, ⟨⟩, read, verdict, first, second⟩
            obtain rfl := Option.some.inj (value.symm.trans read)
            refine ⟨⟨rfl, rfl, (verdicts _ _ _).mp verdict⟩, ?_, ?_⟩
            · rintro _ ⟨⟩
              exact first
            · rintro _ ⟨⟩
              exact second
          · rintro ⟨⟨-, rfl, verdict⟩, first, second⟩
            have inRange := second _ rfl
            exact ⟨actual, written, rfl, rfl, value, (verdicts _ _ _).mpr verdict, first actual rfl,
              inRange⟩

theorem agree_of_observed (observed : decision.outcomeStatus ≠ "pending")
    (classifiable : ∀ expected ∈ decision.expectedOutcomes, Classifiable expected)
    (bounded : ReadingsBounded std (decision.actualOutcomes.getD []) decision.expectedOutcomes)
    (returned : compareExpectedActualOutcomes decision.expectedOutcomes decision.actualOutcomes =
      .ok comparison)
    (same : comparison.details.filterMap (OutcomeDetail.reading std) =
      classifiedReadings std (decision.actualOutcomes.getD []) decision.expectedOutcomes)
    (undrawn : comparison.details.filterMap (OutcomeDetail.reading std) = [] ∨
      (comparison.details.filterMap (OutcomeDetail.reading std)).countP (·.corroborated) ≠
        (comparison.details.filterMap (OutcomeDetail.reading std)).countP (! ·.corroborated)) :
    OutcomesAgree std decision := by
  have seen : decision.view.outcomeStatus ≠ some "pending" := fun pending =>
    observed (Option.some.inj pending)
  obtain ⟨consolidation, built⟩ := buildConsolidation_returns seen classifiable bounded
  obtain ⟨readings, sign, -, -⟩ := buildConsolidation_readings seen built
  refine ⟨comparison, consolidation, _, returned, built,
    computeOutcomeSignal_spec observed classifiable, same.trans readings.symm, ?_, ?_⟩
  · rw [sign, same]
    rfl
  · rw [sign]
    rw [same] at undrawn
    exact (readingsSignal_sign _).mpr undrawn

theorem agree_of_pending (pending : decision.outcomeStatus = "pending")
    (returned : compareExpectedActualOutcomes decision.expectedOutcomes decision.actualOutcomes =
      .ok comparison)
    (nothing : comparison.details.filterMap (OutcomeDetail.reading std) = []) :
    OutcomesAgree std decision := by
  have seen : decision.view.outcomeStatus = some "pending" := congrArg some pending
  obtain ⟨consolidation, built, unread, balanced⟩ := @buildConsolidation_pending std _ seen
  refine ⟨comparison, consolidation, none, returned, built, ?_, nothing.trans unread.symm, ?_,
    balanced.symm⟩
  · unfold computeOutcomeSignal
    exact if_pos (.inl pending)
  · rw [nothing, balanced]
    rfl

theorem comparedReadings_undrawn {outcomes : List Json}
    (found : ∀ expected ∈ outcomes, (comparedActual actuals expected).isSome = true) :
    (outcomes.filterMap (comparedReading std actuals)).countP (·.corroborated) ≠
        (outcomes.filterMap (comparedReading std actuals)).countP (! ·.corroborated) ↔
      2 * outcomes.countP (cameTrue actuals) ≠ outcomes.length := by
  have total : (outcomes.filterMap (comparedReading std actuals)).length = outcomes.length :=
    List.filterMap_length_eq_length.mpr fun expected member => by
      rw [comparedReading, Option.isSome_map]
      exact found expected member
  have came : (outcomes.filterMap (comparedReading std actuals)).countP (·.corroborated) =
      outcomes.countP (cameTrue actuals) := by
    rw [List.countP_filterMap]
    refine List.countP_congr fun expected _ => ?_
    unfold comparedReading cameTrue
    cases comparedActual actuals expected <;> simp
  rw [length_eq_corroborations, came] at total
  omega

theorem agree_of_nothing (nothing : decision.expectedOutcomes = []) : OutcomesAgree std decision := by
  have returned : compareExpectedActualOutcomes decision.expectedOutcomes decision.actualOutcomes =
      .ok .empty := by
    rw [nothing]
    rfl
  by_cases pending : decision.outcomeStatus = "pending"
  · exact agree_of_pending pending returned rfl
  · refine agree_of_observed pending ?_ ?_ returned ?_ (.inl rfl)
    · rw [nothing]
      rintro _ ⟨⟩
    · rw [nothing]
      rintro _ ⟨⟩
    · rw [nothing]
      rfl

/-- **What is read alike is agreed on.** -/
theorem ReadAlike.agree (alike : ReadAlike std decision) : OutcomesAgree std decision := by
  rcases eq_or_ne decision.expectedOutcomes [] with nothing | present
  · exact agree_of_nothing nothing
  obtain ⟨nameable, comparable, classifiable, unmatched | ⟨observed, matched, undrawn⟩⟩ := alike
  · obtain ⟨comparison, returned, made⟩ := compareExpectedActualOutcomes_spec present
      ⟨nameable, comparable, .inl fun expected member => (unmatched expected member).1,
        fun expected member actual found => by
          rw [(unmatched expected member).1] at found
          cases found⟩
    have empty : comparison.details.filterMap (OutcomeDetail.reading std) = [] := by
      rw [comparison_readings made, List.filterMap_eq_nil_iff]
      intro expected member
      rw [comparedReading, (unmatched expected member).1]
      rfl
    by_cases pending : decision.outcomeStatus = "pending"
    · exact agree_of_pending pending returned empty
    · have unread : ∀ expected ∈ decision.expectedOutcomes.filter namesMetric,
          classifiedReading std (decision.actualOutcomes.getD []) expected = none := by
        intro expected member
        rw [classifiedReading, Option.map_eq_none_iff, Option.bind_eq_none_iff]
        exact (unmatched expected member).2.resolve_left pending
      refine agree_of_observed pending (classifiable.resolve_left pending) ?_ returned ?_ (.inl empty)
      · intro expected member reading isReading
        unfold namedReading at isReading
        split at isReading
        · rename_i names
          rw [unread expected (List.mem_filter.mpr ⟨member, names⟩)] at isReading
          cases isReading
        · cases isReading
      · rw [empty, classifiedReadings, List.filterMap_eq_nil_iff.mpr unread]
  · have found : ∀ expected ∈ decision.expectedOutcomes.filter namesMetric,
        (comparedActual (decision.actualOutcomes.getD []) expected).isSome = true := by
      intro expected member
      obtain ⟨actual, -, isActual, -⟩ := matched expected member
      rw [isActual]
      rfl
    have readings := fun expected member =>
      (matchedAlike_iff (found expected member)).mp (matched expected member)
    obtain ⟨comparison, returned, made⟩ := compareExpectedActualOutcomes_spec present
      ⟨nameable, comparable, .inr found, fun expected member => (readings expected member).2.1⟩
    refine agree_of_observed observed (classifiable.resolve_left observed) ?_ returned ?_ (.inr ?_)
    · intro expected member reading isReading
      unfold namedReading at isReading
      split at isReading
      · rename_i names
        exact (readings expected (List.mem_filter.mpr ⟨member, names⟩)).2.2 reading isReading
      · cases isReading
    · rw [comparison_readings made]
      exact List.filterMap_congr fun expected member => (readings expected member).1
    · rw [comparison_readings made]
      exact (comparedReadings_undrawn found).mpr undrawn

/-- **What is agreed on was read alike.** -/
theorem readAlike_of_agree (present : decision.expectedOutcomes ≠ [])
    (agree : OutcomesAgree std decision) : ReadAlike std decision := by
  obtain ⟨comparison, consolidation, signal, returned, built, signalled, same, -, balanced⟩ := agree
  obtain ⟨terms, made⟩ := comparison_terms present returned
  rw [comparison_readings made] at same
  by_cases pending : decision.outcomeStatus = "pending"
  · have seen : decision.view.outcomeStatus = some "pending" := congrArg some pending
    obtain ⟨other, builtOther, unread, -⟩ := @buildConsolidation_pending std _ seen
    obtain rfl := Except.ok.inj (built.symm.trans builtOther)
    rw [unread, List.filterMap_eq_nil_iff] at same
    refine ⟨terms.nameable, terms.comparable, .inl pending, .inl fun expected member => ⟨?_, .inl pending⟩⟩
    exact Option.map_eq_none_iff.mp (same expected member)
  · obtain ⟨readings, sign, classifiable, bounded⟩ :=
      buildConsolidation_readings (fun isPending => pending (Option.some.inj isPending)) built
    rw [readings] at same
    refine ⟨terms.nameable, terms.comparable, .inr classifiable, ?_⟩
    by_cases none : ∀ expected ∈ decision.expectedOutcomes.filter namesMetric,
        comparedActual (decision.actualOutcomes.getD []) expected = none
    · left
      have empty : (decision.expectedOutcomes.filter namesMetric).filterMap
          (comparedReading std (decision.actualOutcomes.getD [])) = [] :=
        List.filterMap_eq_nil_iff.mpr fun expected member => by
          rw [comparedReading, none expected member]
          rfl
      rw [empty] at same
      have unread := List.filterMap_eq_nil_iff.mp same.symm
      intro expected member
      have quiet := unread expected member
      rw [classifiedReading, Option.map_eq_none_iff, Option.bind_eq_none_iff] at quiet
      exact ⟨none expected member, .inr quiet⟩
    · right
      have found := terms.strict.resolve_left none
      have pointwise := Lookups.filterMap_pointwise (fun expected member => by
        rw [comparedReading, Option.isSome_map]
        exact found expected member) same
      refine ⟨pending, fun expected member => ?_, ?_⟩
      · refine (matchedAlike_iff (found expected member)).mpr
          ⟨pointwise expected member, terms.bounded expected member, fun reading isReading => ?_⟩
        refine bounded expected (List.mem_of_mem_filter member) reading ?_
        rw [namedReading, if_pos (List.of_mem_filter member)]
        exact isReading
      · rw [computeOutcomeSignal_spec pending classifiable, Except.ok.injEq] at signalled
        have drawn := (readingsSignal_sign _).mp
          ((congrArg signalSign signalled).trans (balanced.trans sign))
        have some : classifiedReadings std (decision.actualOutcomes.getD []) decision.expectedOutcomes ≠
            [] := by
          intro empty
          have absent := List.filterMap_eq_nil_iff.mp (same.trans empty)
          exact none fun expected member => Option.map_eq_none_iff.mp (absent expected member)
        have undrawn := drawn.resolve_left some
        exact (comparedReadings_undrawn found).mp (same.symm ▸ undrawn)

/-- **When the three readers agree.** Whatever the consolidation says about an expected outcome, the signal
counts. All three agree on a decision exactly when nothing was expected, or they read its lists alike. -/
theorem outcomes_agree_iff (std : Stdlib) (decision : Decision) :
    (∀ expected detail,
      classifyExpected std (actualByMetric std (decision.actualOutcomes.getD [])) expected = .ok detail →
        outcomeMatch std (actualByMetric std (decision.actualOutcomes.getD [])) expected =
          .ok (detail.reading.map OutcomeReading.corroborated)) ∧
    (OutcomesAgree std decision ↔ decision.expectedOutcomes = [] ∨ ReadAlike std decision) := by
  constructor
  · intro expected detail classified
    obtain ⟨isReading, -, -, -, classifiable⟩ := classifyExpected_spec classified
    rw [isReading]
    exact outcomeMatch_spec classifiable
  · constructor
    · intro agree
      rcases eq_or_ne decision.expectedOutcomes [] with nothing | present
      · exact .inl nothing
      · exact .inr (readAlike_of_agree present agree)
    · rintro (nothing | alike)
      · exact agree_of_nothing nothing
      · exact alike.agree

end Agreement

/-! ### A success in words -/

/-- A decision that expects a success with the probability 0.9, and its reported value. -/
def predictedDecision (value : Json) : Decision where
  id := 41
  tenantId := 1
  recommendationId := 31
  confidenceId := 21
  authorityId := 11
  commitment := "add a node"
  expectedOutcomes := [.obj [("prediction", .float (7 / 8)), ("verifiable_by", .str "cpu")]]
  riskTolerance := "low"
  status := "executed"
  committedAt := 0
  executedAt := some 1
  actualOutcomes := some [.obj [("verifiable_by", .str "cpu"), ("value", value)]]
  outcomeStatus := "observed"

/-- **The success is reported in words.** The comparison reads a failure where the consolidation reads the
success, and the signal counts it. -/
theorem worded_success_differs : ¬OutcomesAgree countingStd (predictedDecision (.str "success")) := by
  have compared : (compareExpectedActualOutcomes (predictedDecision (.str "success")).expectedOutcomes
      (predictedDecision (.str "success")).actualOutcomes).toOption.map (fun comparison =>
        comparison.details.filterMap (OutcomeDetail.reading countingStd)) =
      some [⟨"cpu", false, false⟩] := by
    decide +kernel
  have consolidated : (buildConsolidation countingStd
      (predictedDecision (.str "success")).view).toOption.map (fun consolidation =>
        consolidation.details.filterMap ConsolidationDetail.reading) =
      some [⟨"cpu", true, true⟩] := by
    decide +kernel
  rintro ⟨comparison, consolidation, -, returned, built, -, same, -⟩
  rw [returned] at compared
  rw [built] at consolidated
  have differs := (Option.some.inj compared).symm.trans (same.trans (Option.some.inj consolidated))
  exact absurd differs (by decide)

/-- The success is reported as a number: all three read it. -/
theorem outcomes_agree_number : OutcomesAgree countingStd (predictedDecision (.int 1)) := by
  refine (outcomes_agree_iff countingStd (predictedDecision (.int 1))).2.mpr (.inr ?_)
  have listed : (predictedDecision (.int 1)).expectedOutcomes.filter namesMetric =
      [.obj [("prediction", .float (7 / 8)), ("verifiable_by", .str "cpu")]] := by
    decide +kernel
  refine ⟨?_, ?_, .inr ?_, .inr ⟨by decide, ?_, by decide +kernel⟩⟩
  · decide +kernel
  · refine List.forall_mem_singleton.mpr ⟨rfl, rfl, .finite (7 / 8), by decide +kernel⟩
  · refine List.forall_mem_singleton.mpr (.inr ⟨.finite (7 / 8), by decide +kernel⟩)
  · rw [listed]
    refine List.forall_mem_singleton.mpr ⟨.obj [("verifiable_by", .str "cpu"), ("value", .int 1)],
      .obj [("verifiable_by", .str "cpu"), ("value", .int 1)], by decide +kernel, by decide +kernel,
      by decide +kernel, by decide +kernel, ⟨.finite (1 / 64), by decide +kernel⟩,
      ⟨.finite (1 / 64), by decide +kernel⟩⟩

end CosMonitor
