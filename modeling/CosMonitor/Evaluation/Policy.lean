/-
**The evaluation policy — what evidence makes of a candidate hypothesis.**

A textual matcher counts the predictions that some evidence corroborates, and whether some evidence
meets the falsification criterion. Only a reliable basis turns the counts into a terminal result.

* `applyEvaluationPolicy`: the decision about a hypothesis;
* `falsified_iff`, `confirmed_iff`: what the two conclusions are drawn from;
* `unreliable_insufficient`: an unreliable basis concludes nothing;
* `evaluationId`, `createEvaluation`: the record of a decision, with an id from its content.
-/

import CosMonitor.Learning.Confidence
import CosMonitor.Perception.Evidence
import CosMonitor.Reasoning.Hypothesis

namespace CosMonitor

/-! ### Results -/

/-- `EVALUATION_RESULTS`. -/
inductive EvaluationResult where
  | confirmed
  | falsified
  | insufficient
  deriving DecidableEq, Repr

namespace EvaluationResult

/-- The text of a result. -/
def name : EvaluationResult → String
  | confirmed => "confirmed"
  | falsified => "falsified"
  | insufficient => "insufficient"

/-- The result ends the life of a candidate. -/
def concludes : EvaluationResult → Bool
  | confirmed | falsified => true
  | insufficient => false

end EvaluationResult

/-- `STATUS_CANDIDATE`. -/
def statusCandidate : String := "candidate"

/-- The statuses that `update_hypothesis_status` accepts. -/
def terminalStatuses : List String := ["confirmed", "falsified"]

theorem EvaluationResult.name_terminal {result : EvaluationResult} (concludes : result.concludes) :
    result.name ∈ terminalStatuses := by
  cases result with
  | confirmed => exact List.mem_cons_self
  | falsified => exact List.mem_cons_of_mem _ List.mem_cons_self
  | insufficient => cases concludes

theorem candidate_not_terminal : statusCandidate ∉ terminalStatuses := by
  decide

/-! ### The matcher -/

/-- The texts that the policy takes from Python. -/
structure EvaluationFormats where
  /-- `text.lower()` -/
  lower : String → String
  /-- `format(value, ".2f")` -/
  fixed2 : ℚ → String

/-- `_MIN_KEYWORD_LEN`. -/
def minKeywordLen : Nat := 4

/-- `text.split()`. -/
def splitWords (text : String) : List String :=
  ((text.toList.splitOnP isPySpace).filter fun word => !word.isEmpty).map String.ofList

/-- `part in text`. -/
def containsText (part text : String) : Bool :=
  decide (part.toList <:+: text.toList)

section Matcher

variable (formats : EvaluationFormats)

/-- The whole phrase, or one of its longer words, occurs in the description or the type. -/
def evidenceMentions (evidence : Evidence) (phrase : String) : Bool :=
  let text := formats.lower (" ".intercalate [evidence.description, evidence.organizationType])
  let wanted := formats.lower phrase
  containsText wanted text ||
    ((splitWords wanted).filter fun word => minKeywordLen < word.length).any fun word =>
      containsText word text

/-- `_evidence_supports_prediction`. -/
def evidenceSupportsPrediction (evidence : Evidence) (prediction : String) : Bool :=
  evidenceMentions formats evidence prediction

/-- `_evidence_meets_falsification`. -/
def evidenceMeetsFalsification (evidence : Evidence) (criterion : String) : Bool :=
  evidenceMentions formats evidence criterion

/-- `_MatchResult`. -/
structure MatchResult where
  supportCount : Nat
  contradictionCount : Nat
  supported : List String
  contradicted : List String

/-- `evaluate_evidence_against_hypothesis`. One match of the criterion is enough. -/
def evaluateEvidenceAgainstHypothesis (hypothesis : Hypothesis) (evidence : List Evidence) :
    MatchResult :=
  let supported := hypothesis.predictedConsequences.filter fun prediction =>
    evidence.any fun item => evidenceSupportsPrediction formats item prediction
  let contradicted :=
    if evidence.any fun item => evidenceMeetsFalsification formats item
      hypothesis.falsificationCriterion
    then [hypothesis.falsificationCriterion] else []
  { supportCount := supported.length
    contradictionCount := contradicted.length
    supported
    contradicted }

end Matcher

/-! ### The decision -/

/-- `MIN_PREDICTIONS_FOR_CONFIRMATION`. -/
def minPredictionsForConfirmation : Nat := 2

/-- `MIN_CONTRADICTIONS_FOR_FALSIFICATION`. -/
def minContradictionsForFalsification : Nat := 1

/-- `CONFIDENCE_THRESHOLD_CONFIRM`. -/
def confidenceThresholdConfirm : ℚ := 3 / 4

/-- `_MAX_SUPPORTED_PREVIEW`. -/
def maxSupportedPreview : Nat := 2

section Decision

variable (formats : EvaluationFormats)

/-- The score next to the threshold. -/
def comparedScore (confidenceScore : ℚ) (relation : String) : String :=
  "(" ++ formats.fixed2 confidenceScore ++ " " ++ relation ++ " 0.75)"

/-- `_formal_decision`. -/
def formalDecision (found : MatchResult) (confidenceScore : ℚ) (reliable : Bool) :
    EvaluationResult × String :=
  let support := toString found.supportCount
  let contradictions := toString found.contradictionCount
  if minContradictionsForFalsification ≤ found.contradictionCount then
    if reliable then
      (.falsified, "Falsification criterion met (" ++ contradictions ++ " contradiction(s)). " ++
        "Observed evidence contradicts the hypothesis; Confidence does not " ++
        "override contradictory evidence. " ++
        "Contradicted: " ++ found.contradicted.head?.getD "N/A")
    else
      (.insufficient, "Falsification criterion met by heuristic evidence (" ++ contradictions ++
        " contradiction(s)); terminal promotion requires a reliable/structured evidence basis " ++
        "(see evaluation_policy). Hypothesis remains candidate pending explicit evaluation.")
  else if minPredictionsForConfirmation ≤ found.supportCount then
    if confidenceThresholdConfirm ≤ confidenceScore then
      if reliable then
        (.confirmed, support ++ " prediction(s) corroborated with high confidence " ++
          comparedScore formats confidenceScore ">=" ++ ". No falsification criterion met. " ++
          "Supported: " ++ ", ".intercalate (found.supported.take maxSupportedPreview) ++
          (if maxSupportedPreview < found.supported.length then "..." else ""))
      else
        (.insufficient, support ++ " prediction(s) corroborated with high confidence " ++
          comparedScore formats confidenceScore ">=" ++ " on heuristic evidence; terminal " ++
          "promotion requires a reliable/structured evidence basis. Hypothesis remains candidate.")
    else
      (.insufficient, support ++ " prediction(s) corroborated but Confidence is low " ++
        comparedScore formats confidenceScore "<" ++ ". Confidence is necessary-but-not-sufficient " ++
        "gating; requires higher calibrated confidence for confirmation.")
  else
    (.insufficient, "Insufficient evidence for confirmation or falsification. Support: " ++ support ++
      "/" ++ toString minPredictionsForConfirmation ++ " predictions, Contradictions: " ++
      contradictions ++ ", Confidence: " ++ formats.fixed2 confidenceScore ++
      ". Hypothesis remains candidate.")

/-- `EvaluationDecision`. -/
structure EvaluationDecision where
  result : EvaluationResult
  supportCount : Nat
  contradictionCount : Nat
  rationale : String

/-- `apply_evaluation_policy`. A missing confidence counts as zero. -/
def applyEvaluationPolicy (reliable : Bool) (hypothesis : Hypothesis) (evidence : List Evidence)
    (confidence : Option Confidence) : EvaluationDecision :=
  let confidenceScore := (confidence.map fun found => found.confidenceScore.val).getD 0
  let found := evaluateEvidenceAgainstHypothesis formats hypothesis evidence
  let decided := formalDecision formats found confidenceScore reliable
  { result := decided.1
    supportCount := found.supportCount
    contradictionCount := found.contradictionCount
    rationale := decided.2 }

variable {formats}

/-- **A hypothesis is falsified exactly when reliable evidence meets its criterion**, whatever the
confidence. -/
theorem falsified_iff {reliable : Bool} {hypothesis : Hypothesis} {evidence : List Evidence}
    {confidence : Option Confidence} :
    (applyEvaluationPolicy formats reliable hypothesis evidence confidence).result = .falsified ↔
      reliable = true ∧ ∃ item ∈ evidence,
        evidenceMeetsFalsification formats item hypothesis.falsificationCriterion = true := by
  simp only [applyEvaluationPolicy, formalDecision, evaluateEvidenceAgainstHypothesis,
    minContradictionsForFalsification, List.any_eq_true]
  split_ifs <;> simp_all

/-- **It is confirmed exactly when no evidence meets its criterion**, reliable evidence corroborates
two of its predictions, and the confidence is high enough. -/
theorem confirmed_iff {reliable : Bool} {hypothesis : Hypothesis} {evidence : List Evidence}
    {confidence : Option Confidence} :
    (applyEvaluationPolicy formats reliable hypothesis evidence confidence).result = .confirmed ↔
      reliable = true ∧
      (∀ item ∈ evidence,
        evidenceMeetsFalsification formats item hypothesis.falsificationCriterion = false) ∧
      minPredictionsForConfirmation ≤ (hypothesis.predictedConsequences.filter fun prediction =>
        evidence.any fun item => evidenceSupportsPrediction formats item prediction).length ∧
      confidenceThresholdConfirm ≤
        (confidence.map fun found => found.confidenceScore.val).getD 0 := by
  simp only [applyEvaluationPolicy, formalDecision, evaluateEvidenceAgainstHypothesis,
    minContradictionsForFalsification, List.any_eq_true]
  split_ifs <;> simp_all

theorem unreliable_insufficient {hypothesis : Hypothesis} {evidence : List Evidence}
    {confidence : Option Confidence} :
    (applyEvaluationPolicy formats false hypothesis evidence confidence).result = .insufficient := by
  cases decided : (applyEvaluationPolicy formats false hypothesis evidence confidence).result with
  | confirmed => cases (confirmed_iff.mp decided).1
  | falsified => cases (falsified_iff.mp decided).1
  | insufficient => rfl

end Decision

/-! ### Records -/

/-- What an evaluation keeps of an evidence. -/
structure ObservedOutcome where
  evidenceId : Uuid
  organizationType : String
  description : String
  qualityClass : QualityClass
  deriving DecidableEq

/-- A row of `hypothesis_evaluations`. -/
structure Evaluation where
  id : Uuid
  tenantId : Uuid
  hypothesisId : Uuid
  evidenceIds : List Uuid
  observedOutcomes : List ObservedOutcome
  supportCount : Nat
  contradictionCount : Nat
  confidenceId : Option Uuid
  result : EvaluationResult
  rationale : String
  evaluatedAt : Timestamp
  deriving DecidableEq

/-- The namespace of evaluation ids. -/
def evaluationNamespace : Uuid := 0x83

/-- Derive the id from the content; the time of the evaluation is left out. -/
def evaluationId (std : Stdlib) (tenantId hypothesisId : Uuid) (evidenceIds : List Uuid)
    (result : EvaluationResult) : Uuid :=
  let ordered := ",".intercalate ((evidenceIds.insertionSort (· ≤ ·)).map uuidText)
  std.uuid5 evaluationNamespace
    (uuidText tenantId ++ ":" ++ uuidText hypothesisId ++ ":" ++ ordered ++ ":" ++ result.name)

/-- The record of a decision of the policy. -/
def createEvaluation (std : Stdlib) (now : Timestamp) (tenantId : Uuid) (hypothesis : Hypothesis)
    (evidence : List Evidence) (confidence : Option Confidence) (decision : EvaluationDecision) :
    Evaluation where
  id := evaluationId std tenantId hypothesis.id (evidence.map Evidence.id) decision.result
  tenantId
  hypothesisId := hypothesis.id
  evidenceIds := evidence.map Evidence.id
  observedOutcomes := evidence.map fun item =>
    { evidenceId := item.id
      organizationType := item.organizationType
      description := item.description
      qualityClass := item.qualityClass }
  supportCount := decision.supportCount
  contradictionCount := decision.contradictionCount
  confidenceId := confidence.map Confidence.id
  result := decision.result
  rationale := decision.rationale
  evaluatedAt := now

end CosMonitor
