/-
**Outcome signals — expected against actual outcomes of decisions.**

* `toBinary`: what an actual value says, `none` when it says nothing;
* `computeOutcomeSignal`: whether the expected outcomes of a decision were met;
* `buildLearningHistory`: the pairs of confidence and outcome of a tenant; two pairs are needed for a
  calibration error.
-/

import CosMonitor.Action.Decision
import CosMonitor.Learning.CalibrationModel
import CosMonitor.Learning.Confidence

namespace CosMonitor

/-- A prediction from this threshold on expects a success. -/
def predictionThreshold : ℚ := 1 / 2

/-- Map an actual value to success or failure. Lower-casing maps the Kelvin sign to `k`, as
`str.lower` does; no other letter outside ASCII becomes a letter of these words. -/
def toBinary : Json → Option Bool
  | .bool value => some value
  | .int value => some (decide (value ≠ 0))
  | .float value => some (decide (value ≠ 0))
  | .str text =>
      let low := String.ofList ((stripChars text.toList).map fun character =>
        if character.toNat = 0x212a then 'k' else character.toLower)
      if low ∈ ["true", "success", "ok", "yes", "1"] then some true
      else if low ∈ ["false", "failure", "fail", "no", "0", ""] then some false
      else none
  | .null | .arr _ | .obj _ => none

/-- The last actual outcome of every metric, the latest first. -/
def actualByMetric (std : Stdlib) (actuals : List Json) : List (String × Json) :=
  (actuals.filterMap fun actual =>
    match actual.isDict, actual.get "verifiable_by" with
    | false, _ | true, .null => none
    | true, metric => some (std.str metric, actual)).reverse

/-- The predicted probability of an expected outcome; `0` when it is no number. The misspelt key is
read first. -/
def predictedProbability (expected : Json) : Except PyError PyFloat :=
  let raw := (expected.lookup "predictiction").getD ((expected.lookup "prediction").getD (.str ""))
  match raw.pyFloat with
  | .error (.valueError _) | .error .typeError => .ok (.finite 0)
  | .error other => .error other
  | .ok prediction => .ok prediction

/-- What one expected outcome says: `some true` corroborated, `some false` contradicted, `none` when
it is skipped. -/
def outcomeMatch (std : Stdlib) (byMetric : List (String × Json)) (expected : Json) :
    Except PyError (Option Bool) :=
  match expected.isDict, expected.get "verifiable_by" with
  | false, _ | true, .null => .ok none
  | true, metric =>
      match byMetric.lookup (std.str metric) with
      | none => .ok none
      | some actual => do
          let prediction ← predictedProbability expected
          return (toBinary (actual.get "value")).map
            (· == prediction.atLeast predictionThreshold)

/-- `1` when more expected outcomes were corroborated than contradicted, `0` when not, `none` when
nothing could be matched. -/
def computeOutcomeSignal (std : Stdlib) (decision : Decision) : Except PyError (Option Bool) :=
  let actuals := decision.actualOutcomes.getD []
  if decision.outcomeStatus = "pending" ∨ actuals = [] ∨ decision.expectedOutcomes = [] then .ok none
  else do
    let matches' ← decision.expectedOutcomes.mapM (outcomeMatch std (actualByMetric std actuals))
    let corroborated := matches'.count (some true)
    let contradicted := matches'.count (some false)
    return if corroborated + contradicted = 0 then none else some (decide (contradicted < corroborated))

/-- One pair of confidence and outcome. -/
structure LearningSignal where
  confidenceScore : ℚ
  outcome : Bool
  decisionId : Uuid
  tenantId : Uuid
  deriving DecidableEq

/-- The historical calibration of a tenant. -/
structure LearningHistory where
  tenantId : Uuid
  totalDecisionsWithOutcomes : Nat
  pairs : List LearningSignal
  ece : Option ℚ
  historicalCalibration : Option ℚ
  deriving DecidableEq

/-- The pairs as the calibration model takes them. -/
def LearningHistory.outcomePairs (history : LearningHistory) : List OutcomePair :=
  history.pairs.map fun signal => (.finite signal.confidenceScore, signal.outcome)

/-- Pair the outcome of every decision with the score of its confidence, if it was loaded. -/
def buildLearningHistory (std : Stdlib) (tenantId : Uuid) (decisions : List Decision)
    (confidenceScores : List Confidence) : Except PyError LearningHistory := do
  let signals ← decisions.mapM fun decision => do
    let outcome ← computeOutcomeSignal std decision
    let confidence := confidenceScores.reverse.find? fun score => score.id == decision.confidenceId
    return match outcome, confidence with
      | some met, some score => some {
          confidenceScore := score.confidenceScore.val
          outcome := met
          decisionId := decision.id
          tenantId : LearningSignal }
      | _, _ => none
  let pairs := signals.reduceOption
  let reported := pairs.map fun signal => (PyFloat.finite signal.confidenceScore, signal.outcome)
  let ece := roundHalfEven 4 (eceScore .exact reported CalibrationParams.default.M.toNat)
  let enough := 2 ≤ pairs.length
  return {
    tenantId
    totalDecisionsWithOutcomes := pairs.length
    pairs
    ece := if enough then some ece else none
    historicalCalibration := if enough then some (roundHalfEven 4 (clamp (1 - ece))) else none }

end CosMonitor
