/-
**Outcome consolidation — the expected outcomes of a decision against its actual ones.**

Missing or unreadable actual values are inconclusive, never a failure, and every expected outcome is counted once
(`buildConsolidation_counts`).
-/

import CosMonitor.Foundation.Result
import CosMonitor.Learning.Outcomes

namespace CosMonitor

/-- How an expected outcome was classified. -/
inductive Classification where
  | corroborated
  | contradicted
  | inconclusive
  deriving DecidableEq, Repr

/-- The text of a classification. -/
def Classification.name : Classification → String
  | corroborated => "corroborated"
  | contradicted => "contradicted"
  | inconclusive => "inconclusive"

/-- The detail of one expected outcome. -/
structure ConsolidationDetail where
  metric : Option String
  prediction : Option PyFloat
  actual : Option Bool
  classification : Classification
  reason : Option String
  deriving DecidableEq, Repr

/-- What the consolidation reads of a decision; a view without an outcome status has `none`. -/
structure DecisionView where
  id : Uuid
  tenantId : Uuid
  expectedOutcomes : List Json
  actualOutcomes : Option (List Json)
  outcomeStatus : Option String
  deriving DecidableEq

/-- The consolidation of a decision. -/
structure ConsolidationResult where
  decisionId : Uuid
  tenantId : Uuid
  hasActuals : Bool
  expectedCount : Nat
  actualCount : Nat
  corroborated : Nat
  contradicted : Nat
  inconclusive : Nat
  calibrationFeedback : ℚ
  brier : Option PyFloat
  ece : Option ℚ
  details : List ConsolidationDetail
  deriving DecidableEq

/-! ### One expected outcome -/

/-- Classify one expected outcome, an object, against the recorded actual outcomes. -/
def classifyExpectedOutcome (std : Stdlib) (byMetric : List (String × Json)) (expected : Json) :
    Except PyError ConsolidationDetail := do
  let prediction ← predictedProbability expected
  let metric := match expected.get "verifiable_by" with
    | .null => none
    | value => some (std.str value)
  return match metric.bind fun key => byMetric.lookup key with
    | none => {
        metric
        prediction := some (prediction.round 4)
        actual := none
        classification := .inconclusive
        reason := some "no_actual_outcome" }
    | some (actual : Json) =>
        match toBinary (actual.get "value") with
        | none => {
            metric
            prediction := some (prediction.round 4)
            actual := none
            classification := .inconclusive
            reason := some "actual_unparseable" }
        | some binary => {
            metric
            prediction := some (prediction.round 4)
            actual := some binary
            classification := if prediction.atLeast predictionThreshold = binary then .corroborated
              else .contradicted
            reason := none }

/-- Classify an expected outcome; what is no object is inconclusive. -/
def classifyExpected (std : Stdlib) (byMetric : List (String × Json)) (expected : Json) :
    Except PyError ConsolidationDetail :=
  if expected.isDict then classifyExpectedOutcome std byMetric expected
  else .ok {
    metric := none
    prediction := none
    actual := none
    classification := .inconclusive
    reason := none }

/-! ### One decision -/

/-- The pair of a detail that was matched. -/
def ConsolidationDetail.outcomePair (detail : ConsolidationDetail) : Option OutcomePair :=
  match detail.prediction, detail.actual with
  | some prediction, some actual => some (prediction, actual)
  | _, _ => none

/-- Consolidate one decision; a pending decision is skipped. -/
def buildConsolidation (std : Stdlib) (decision : DecisionView) :
    Except PyError ConsolidationResult :=
  if decision.outcomeStatus = some "pending" then
    .ok {
      decisionId := decision.id
      tenantId := decision.tenantId
      hasActuals := false
      expectedCount := decision.expectedOutcomes.length
      actualCount := 0
      corroborated := 0
      contradicted := 0
      inconclusive := decision.expectedOutcomes.length
      calibrationFeedback := 0
      brier := none
      ece := none
      details := decision.expectedOutcomes.map fun _ => {
        metric := none
        prediction := none
        actual := none
        classification := .inconclusive
        reason := some "outcome_status_pending" } }
  else do
    let actuals := decision.actualOutcomes.getD []
    let details ← decision.expectedOutcomes.mapM (classifyExpected std (actualByMetric std actuals))
    let counted (wanted : Classification) := details.countP (·.classification == wanted)
    let corroborated := counted .corroborated
    let contradicted := counted .contradicted
    let matched := corroborated + contradicted
    let pairs := details.filterMap ConsolidationDetail.outcomePair
    let brier ← brierScore pairs
    return {
      decisionId := decision.id
      tenantId := decision.tenantId
      hasActuals := !actuals.isEmpty
      expectedCount := decision.expectedOutcomes.length
      actualCount := actuals.length
      corroborated
      contradicted
      inconclusive := counted .inconclusive
      calibrationFeedback :=
        if matched = 0 then 0
        else roundHalfEven 4 (((corroborated : ℚ) - contradicted) / matched)
      brier := if pairs.isEmpty then none else some (brier.round 4)
      ece := if pairs.isEmpty then none
        else some (roundHalfEven 4 (eceScore .exact pairs CalibrationParams.default.M.toNat))
      details }

theorem countP_classifications (details : List ConsolidationDetail) :
    details.countP (·.classification == .corroborated) +
        details.countP (·.classification == .contradicted) +
        details.countP (·.classification == .inconclusive) = details.length := by
  induction details with
  | nil => rfl
  | cons detail rest ih =>
      rw [List.countP_cons, List.countP_cons, List.countP_cons, List.length_cons, ← ih]
      cases classified : detail.classification with
      | corroborated =>
          simp
          omega
      | contradicted =>
          simp
          omega
      | inconclusive =>
          simp
          omega

/-- **Every expected outcome is counted once.** -/
theorem buildConsolidation_counts {std : Stdlib} {decision : DecisionView}
    {result : ConsolidationResult} (built : buildConsolidation std decision = .ok result) :
    result.corroborated + result.contradicted + result.inconclusive = result.expectedCount := by
  unfold buildConsolidation at built
  split at built
  · rw [← Except.ok.inj built]
    exact Nat.zero_add _
  · obtain ⟨details, classified, built⟩ := Result.bind_eq_ok.mp built
    obtain ⟨brier, -, built⟩ := Result.bind_eq_ok.mp built
    rw [← Result.pure_eq_ok.mp built]
    have sameLength := (Result.mapM_eq_ok.mp classified).length_eq
    show _ = decision.expectedOutcomes.length
    rw [sameLength]
    exact countP_classifications details

/-! ### The signal -/

/-- A float in a JSON document; `JSONB` has no infinity and no `nan`. -/
def PyFloat.toJson : PyFloat → Option Json
  | .finite value => some (.float value)
  | .infinite _ | .nan => none

/-- An optional value in a JSON document. -/
def optionalJson {Value : Type} (render : Value → Option Json) : Option Value → Option Json
  | none => some .null
  | some value => render value

/-- The object of a detail; a key that its branch does not set is absent. -/
def ConsolidationDetail.toJson (detail : ConsolidationDetail) : Option Json := do
  let prediction ← optionalJson PyFloat.toJson detail.prediction
  let metric := (detail.metric.map Json.str).getD .null
  let actual := detail.actual.map fun met => ("actual", Json.int (if met then 1 else 0))
  let reason := detail.reason.map fun text => ("reason", Json.str text)
  return .obj ([("metric", metric), ("prediction", prediction)] ++ actual.toList ++
    [("classification", .str detail.classification.name)] ++ reason.toList)

/-- The consolidation signal of a decision; `none` when `JSONB` rejects one of its floats. -/
def consolidationSignal (consolidation : ConsolidationResult) (decisionId : Uuid) : Option Json := do
  let brier ← optionalJson PyFloat.toJson consolidation.brier
  let details ← consolidation.details.mapM ConsolidationDetail.toJson
  return .obj
    [("decision_id", .str (uuidText decisionId)),
      ("calibration_feedback", .float consolidation.calibrationFeedback),
      ("brier", brier),
      ("ece", (consolidation.ece.map Json.float).getD .null),
      ("corroborated", .int consolidation.corroborated),
      ("contradicted", .int consolidation.contradicted),
      ("inconclusive", .int consolidation.inconclusive),
      ("details", .arr details)]

end CosMonitor
