/-
**The two lists of a comparison.**

`compare_expected_actual_outcomes` collects predictions and outcomes in different branches of one loop, and
hands both lists to the scores.

* `compareLists`: the comparison down to its two lists; it returns what `compareExpectedActualOutcomes`
  returns (`compareLists_eq_ok`);
* `scoredLists`: what the scores are called with;
* `comparison_returns_iff`: the comparison returns, and scores lists of one length, exactly when nothing was
  expected or its terms are met. Of several metrics one that is missing ends it
  (`missing_metric_raises`).
-/

import CosMonitor.Learning.ScoreLists
import CosMonitor.Memory.OutcomeAgreement

namespace CosMonitor

section Lists

/-- `predictions`: one for every outcome that was matched. -/
def comparedPredictions (details : List OutcomeDetail) : List PyFloat :=
  details.filterMap fun detail => detail.pair.map Prod.fst

/-- The entry of a detail among the outcomes; what is not available has a placeholder. -/
def OutcomeDetail.outcome : OutcomeDetail → Bool
  | .matched _ _ actual _ => actual
  | .unavailable _ _ => false

/-- `outcomes`: one for every detail. -/
def comparedOutcomes (details : List OutcomeDetail) : List Bool :=
  details.map OutcomeDetail.outcome

/-- The scores of the two lists; without a prediction none is computed. -/
def comparedScores (predictions : List PyFloat) (outcomes : List Bool) : Except PyError (PyFloat × ℚ) :=
  if predictions.isEmpty then .ok (.finite 0, 0)
  else do
    let brier ← brierScoreOf predictions outcomes
    let ece ← eceScoreOf .exact predictions outcomes CalibrationParams.default.M.toNat
    return (brier, ece)

/-- The loop of the comparison. -/
def comparedDetails (expected : List Json) (actuals : Option (List Json)) :
    Except PyError (List OutcomeDetail) := do
  let named ← namedOutcomes (actuals.getD [])
  outcomeDetails named expected

/-- `compare_expected_actual_outcomes`, with the lists that it scores. -/
def compareLists (expected : List Json) (actuals : Option (List Json)) :
    Except PyError OutcomeComparison :=
  if expected.isEmpty then .ok .empty
  else do
    let details ← comparedDetails expected actuals
    let (brier, ece) ← comparedScores (comparedPredictions details) (comparedOutcomes details)
    let hist := clamp (1 - ece)
    return {
      brierScore := brier.round 4
      ece := roundHalfEven 4 ece
      historicalCalibration := roundHalfEven 4 hist
      confidenceAdjustment := roundHalfEven 4 (hist - 1)
      outcomeCount := expected.length
      details }

/-- The lists that `brier_score` and `ece_score` are called with, where they are called. -/
def scoredLists (expected : List Json) (actuals : Option (List Json)) :
    Option (List PyFloat × List Bool) :=
  if expected.isEmpty then none
  else
    match comparedDetails expected actuals with
    | .error _ => none
    | .ok details =>
        if (comparedPredictions details).isEmpty then none
        else some (comparedPredictions details, comparedOutcomes details)

variable {details : List OutcomeDetail} {expected : List Json} {actuals : Option (List Json)}

theorem comparedLists_zip (same : (comparedPredictions details).length = (comparedOutcomes details).length) :
    (comparedPredictions details).zip (comparedOutcomes details) =
      details.filterMap OutcomeDetail.pair := by
  have all : ∀ detail ∈ details, (detail.pair.map Prod.fst).isSome = true := by
    rw [comparedOutcomes, List.length_map] at same
    exact List.filterMap_length_eq_length.mp same
  clear same
  induction details with
  | nil => rfl
  | cons detail rest ih =>
      obtain ⟨matched, others⟩ := List.forall_mem_cons.mp all
      cases detail with
      | matched metric prediction actual success => exact congrArg _ (ih others)
      | unavailable metric prediction => cases matched

theorem comparedLists_length :
    (comparedPredictions details).length = (comparedOutcomes details).length ↔
      (details.filterMap OutcomeDetail.pair).length = details.length := by
  rw [comparedOutcomes, List.length_map, comparedPredictions, ← List.map_filterMap, List.length_map]

theorem comparedPredictions_isEmpty :
    (comparedPredictions details).isEmpty = (details.filterMap OutcomeDetail.pair).isEmpty := by
  rw [comparedPredictions, ← List.map_filterMap, List.isEmpty_map]

/-- **The scores of the two lists** are those of what was matched, where the lists have one length. -/
theorem comparedScores_eq_ok {brier : PyFloat} {ece : ℚ} :
    comparedScores (comparedPredictions details) (comparedOutcomes details) = .ok (brier, ece) ↔
      ¬(!(details.filterMap OutcomeDetail.pair).isEmpty &&
        decide ((details.filterMap OutcomeDetail.pair).length ≠ details.length)) = true ∧
      brierScore (details.filterMap OutcomeDetail.pair) = .ok brier ∧
      ece = eceScore .exact (details.filterMap OutcomeDetail.pair) CalibrationParams.default.M.toNat := by
  unfold comparedScores
  rw [comparedPredictions_isEmpty]
  split
  · rename_i empty
    rw [List.isEmpty_iff] at empty
    rw [empty, Except.ok.injEq, Prod.mk.injEq]
    constructor
    · rintro ⟨rfl, rfl⟩
      exact ⟨by simp, rfl, rfl⟩
    · rintro ⟨-, scored, rfl⟩
      exact ⟨Except.ok.inj scored, rfl⟩
  · rename_i some
    have present : comparedPredictions details ≠ [] := by
      rwa [← comparedPredictions_isEmpty, List.isEmpty_iff] at some
    have strict : (¬(!(details.filterMap OutcomeDetail.pair).isEmpty &&
        decide ((details.filterMap OutcomeDetail.pair).length ≠ details.length)) = true) ↔
          (comparedPredictions details).length = (comparedOutcomes details).length := by
      rw [comparedLists_length, Bool.eq_false_iff.mpr some]
      simp only [Bool.not_false, Bool.true_and, decide_eq_true_eq, not_not]
    rw [strict]
    constructor
    · intro scored
      obtain ⟨first, brierScored, scored⟩ := Result.bind_eq_ok.mp scored
      obtain ⟨second, eceScored, scored⟩ := Result.bind_eq_ok.mp scored
      obtain ⟨rfl, rfl⟩ := Prod.mk.inj (Result.pure_eq_ok.mp scored)
      have same := brierScoreOf_lengths present brierScored
      rw [brierScoreOf_zip same, comparedLists_zip same] at brierScored
      rw [eceScoreOf_zip same, comparedLists_zip same] at eceScored
      exact ⟨same, brierScored, (Except.ok.inj eceScored).symm⟩
    · rintro ⟨same, scored, rfl⟩
      rw [brierScoreOf_zip same, eceScoreOf_zip same, comparedLists_zip same, scored]
      rfl

/-- **The two lists change nothing about what is returned.** -/
theorem compareLists_eq_ok {comparison : OutcomeComparison} :
    compareLists expected actuals = .ok comparison ↔
      compareExpectedActualOutcomes expected actuals = .ok comparison := by
  unfold compareLists compareExpectedActualOutcomes comparedDetails
  split
  · exact Iff.rfl
  simp only [Result.bind_eq_ok]
  constructor
  · rintro ⟨details, ⟨named, built, made⟩, ⟨brier, ece⟩, scored, returned⟩
    obtain ⟨strict, brierScored, rfl⟩ := comparedScores_eq_ok.mp scored
    refine ⟨named, built, details, made, ?_⟩
    rw [if_neg strict]
    exact Result.bind_eq_ok.mpr ⟨brier, brierScored, returned⟩
  · rintro ⟨named, built, details, made, returned⟩
    refine ⟨details, ⟨named, built, made⟩, ?_⟩
    split at returned
    · cases returned
    · rename_i strict
      obtain ⟨brier, brierScored, returned⟩ := Result.bind_eq_ok.mp returned
      exact ⟨(brier, _), comparedScores_eq_ok.mpr ⟨strict, brierScored, rfl⟩, returned⟩

/-- **A comparison that returns scored lists of one length.** -/
theorem scoredLists_length {comparison : OutcomeComparison}
    (returned : compareLists expected actuals = .ok comparison) {predictions : List PyFloat}
    {outcomes : List Bool} (scored : scoredLists expected actuals = some (predictions, outcomes)) :
    predictions.length = outcomes.length := by
  unfold scoredLists at scored
  unfold compareLists at returned
  split at scored
  · cases scored
  · rename_i present
    rw [if_neg present] at returned
    obtain ⟨details, made, returned⟩ := Result.bind_eq_ok.mp returned
    obtain ⟨scores, scoresReturned, -⟩ := Result.bind_eq_ok.mp returned
    rw [made] at scored
    dsimp only at scored
    split at scored
    · cases scored
    · rename_i some
      obtain ⟨rfl, rfl⟩ := Prod.mk.inj (Option.some.inj scored)
      rw [comparedScores, if_neg some] at scoresReturned
      obtain ⟨brier, brierScored, -⟩ := Result.bind_eq_ok.mp scoresReturned
      exact brierScoreOf_lengths (by rwa [List.isEmpty_iff] at some) brierScored

end Lists

/-! ### When the comparison returns -/

section Returns

/-- The comparison returns, and every pair of lists that is scored has one length. -/
def ComparisonReturns (expected : List Json) (actuals : Option (List Json)) : Prop :=
  (∃ comparison, compareLists expected actuals = .ok comparison) ∧
    ∀ predictions outcomes, scoredLists expected actuals = some (predictions, outcomes) →
      predictions.length = outcomes.length

/-- **When the comparison returns.** Nothing was expected; or the metrics can be keys of a dictionary, the
predictions can be converted, the actual outcomes cover all of the metrics or none, and every matched
prediction has a squared distance that is a double. -/
theorem comparison_returns_iff (expected : List Json) (actuals : Option (List Json)) :
    ComparisonReturns expected actuals ↔
      expected = [] ∨ ComparisonTerms (actuals.getD []) expected := by
  constructor
  · rintro ⟨⟨comparison, returned⟩, -⟩
    rcases eq_or_ne expected [] with nothing | present
    · exact .inl nothing
    · exact .inr (comparison_terms present (compareLists_eq_ok.mp returned)).1
  · intro terms
    suffices returns : ∃ comparison, compareLists expected actuals = .ok comparison by
      obtain ⟨comparison, returned⟩ := returns
      exact ⟨⟨comparison, returned⟩, fun _ _ scored => scoredLists_length returned scored⟩
    rcases eq_or_ne expected [] with rfl | present
    · exact ⟨.empty, rfl⟩
    · obtain ⟨comparison, returned, -⟩ :=
        compareExpectedActualOutcomes_spec present (terms.resolve_left present)
      exact ⟨comparison, compareLists_eq_ok.mpr returned⟩

/-- Two metrics are expected to succeed. -/
def twoMetrics : List Json :=
  [.obj [("prediction", .str "0.9"), ("verifiable_by", .str "cpu")],
    .obj [("prediction", .str "0.8"), ("verifiable_by", .str "disk")]]

/-- One of them is reported. -/
def oneReported : List Json :=
  [.obj [("verifiable_by", .str "cpu"), ("value", .bool true)]]

/-- **A metric is missing.** One prediction is collected and two outcomes, so the comparison raises. -/
theorem missing_metric_raises : ¬ComparisonReturns twoMetrics (some oneReported) := by
  have raised : (compareLists twoMetrics (some oneReported)).toOption.isSome = false := by
    decide +kernel
  rintro ⟨⟨comparison, returned⟩, -⟩
  rw [returned] at raised
  cases raised

end Returns

end CosMonitor
