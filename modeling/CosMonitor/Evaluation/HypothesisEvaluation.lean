/-
**Evaluating hypotheses against evidence: what the two evaluations depend on.**

`evaluate_hypothesis` counts the predictions that supporting evidence matches and looks for the criterion in
contradicting evidence; `apply_evaluation_policy` does both over one list.

* `Hypothesis.evaluateHypothesis`: the evaluation with its supporting and contradicting lists;
* `evaluateHypothesis_terminal`, `evaluateHypothesis_falsified_iff`, `evaluateHypothesis_mono`: a concluded
  hypothesis stays concluded, contradiction dominates, more supporting evidence never undoes a confirmation;
* `applyEvaluationPolicy_congr`: the policy depends on the set of its evidence;
* `evaluation_policy_laws`: these laws together, for every hypothesis, evidence and confidence.
-/

import CosMonitor.Evaluation.Policy
import CosMonitor.Reasoning.PredictionMatcher

namespace CosMonitor

/-! ### `evaluate_hypothesis` -/

section Evaluate

/-- `STATUS_CONFIRMED`. -/
def statusConfirmed : String := "confirmed"

/-- `STATUS_FALSIFIED`. -/
def statusFalsified : String := "falsified"

/-- Evidence as `evaluate_hypothesis` takes it: an object of any fields. -/
abbrev EvidenceObject := List (String × Json)

/-- The `EvaluationResult` of `evaluate_hypothesis`. -/
structure HypothesisEvaluation where
  hypothesisId : Uuid
  priorStatus : String
  newStatus : String
  evaluationRationale : String
  supportingEvidenceCount : Nat
  contradictingEvidenceCount : Nat
  evidenceSufficient : Bool
  falsificationCriterionMet : Bool
  predictedConsequencesCorroborated : Nat
  predictedConsequencesTotal : Nat
  confidenceScore : Option ℚ
  evaluationTimestamp : Timestamp

variable (std : Stdlib) (lowering : Lowering) (hypothesis : Hypothesis)

/-- The predictions that some evidence matches. -/
def corroboratedCount (evidence : List EvidenceObject) : Nat :=
  hypothesis.predictedConsequences.countP fun prediction =>
    evidence.any fun item => evidenceMatchesPrediction std lowering item prediction

/-- Some evidence meets the falsification criterion. -/
def falsificationMet (contradicting : List EvidenceObject) : Bool :=
  contradicting.any fun item =>
    evidenceMatchesFalsification std lowering item hypothesis.falsificationCriterion

/-- `evaluate_hypothesis`. -/
def Hypothesis.evaluateHypothesis (now : Timestamp) (supportingEvidence contradictingEvidence :
    Option (List EvidenceObject)) (confidenceScore : Option ℚ) : HypothesisEvaluation :=
  let supporting := supportingEvidence.getD []
  let contradicting := contradictingEvidence.getD []
  let corroborated := corroboratedCount std lowering hypothesis supporting
  let met := falsificationMet std lowering hypothesis contradicting
  let total := hypothesis.predictedConsequences.length
  let tested := corroboratedCount std lowering hypothesis (supporting ++ contradicting)
  let sufficient := decide (0 < tested) && (decide (0 < corroborated) || met)
  let decided : String × String :=
    if hypothesis.status = statusConfirmed ∨ hypothesis.status = statusFalsified then
      (hypothesis.status,
        "Hypothesis already " ++ hypothesis.status ++ "; evaluation is append-only per P1")
    else if met then (statusFalsified, "Falsification criterion met by contradicting evidence")
    else if sufficient ∧ total < 2 * corroborated then
      (statusConfirmed, "Sufficient evidence corroborates " ++ toString corroborated ++ "/" ++
        toString total ++ " predictions (strict majority)")
    else if sufficient ∧ 0 < corroborated then
      (statusCandidate, "Partial corroboration (" ++ toString corroborated ++ "/" ++ toString total ++
        ") but not majority; remains candidate")
    else (statusCandidate, "Insufficient evidence for status change; remains candidate")
  { hypothesisId := hypothesis.id
    priorStatus := hypothesis.status
    newStatus := decided.1
    evaluationRationale := decided.2
    supportingEvidenceCount := supporting.length
    contradictingEvidenceCount := contradicting.length
    evidenceSufficient := sufficient
    falsificationCriterionMet := met
    predictedConsequencesCorroborated := corroborated
    predictedConsequencesTotal := total
    confidenceScore
    evaluationTimestamp := now }

/-- A status that ends the life of a hypothesis. -/
def Concluded : Prop :=
  hypothesis.status = statusConfirmed ∨ hypothesis.status = statusFalsified

variable {std lowering hypothesis} {now : Timestamp} {supporting more contradicting : List EvidenceObject}
  {confidenceScore : Option ℚ}

theorem corroboratedCount_mono (within : supporting ⊆ more) :
    corroboratedCount std lowering hypothesis supporting ≤ corroboratedCount std lowering hypothesis more :=
  List.countP_mono_left fun prediction _ matched => by
    obtain ⟨item, member, isMatch⟩ := List.any_eq_true.mp matched
    exact List.any_eq_true.mpr ⟨item, within member, isMatch⟩

/-- **A concluded hypothesis keeps its status.** -/
theorem evaluateHypothesis_terminal (concluded : Concluded hypothesis) :
    (Hypothesis.evaluateHypothesis std lowering hypothesis now (some supporting) (some contradicting)
      confidenceScore).newStatus = hypothesis.status := by
  unfold Hypothesis.evaluateHypothesis
  unfold Concluded at concluded
  dsimp only
  rw [if_pos concluded]

/-- **Contradiction dominates**: another hypothesis is falsified exactly when its criterion is met. -/
theorem evaluateHypothesis_falsified_iff (open' : ¬Concluded hypothesis) :
    (Hypothesis.evaluateHypothesis std lowering hypothesis now (some supporting) (some contradicting)
      confidenceScore).newStatus = statusFalsified ↔
        ∃ item ∈ contradicting,
          evidenceMatchesFalsification std lowering item hypothesis.falsificationCriterion = true := by
  have confirmedDiffers : statusConfirmed ≠ statusFalsified := by decide
  have candidateDiffers : statusCandidate ≠ statusFalsified := by decide
  rw [← List.any_eq_true]
  show _ ↔ falsificationMet std lowering hypothesis contradicting = true
  unfold Hypothesis.evaluateHypothesis
  unfold Concluded at open'
  dsimp only [Option.getD_some]
  rw [if_neg open']
  cases met : falsificationMet std lowering hypothesis contradicting with
  | true => simp
  | false =>
      simp only [Bool.false_eq_true, if_false, iff_false]
      split_ifs
      · exact confirmedDiffers
      · exact candidateDiffers
      · exact candidateDiffers

/-- **It is confirmed** exactly when the criterion is not met and a strict majority of its predictions is
corroborated. -/
theorem evaluateHypothesis_confirmed_iff (open' : ¬Concluded hypothesis) :
    (Hypothesis.evaluateHypothesis std lowering hypothesis now (some supporting) (some contradicting)
      confidenceScore).newStatus = statusConfirmed ↔
        falsificationMet std lowering hypothesis contradicting = false ∧
          hypothesis.predictedConsequences.length <
            2 * corroboratedCount std lowering hypothesis supporting := by
  have falsifiedDiffers : statusFalsified ≠ statusConfirmed := by decide
  have candidateDiffers : statusCandidate ≠ statusConfirmed := by decide
  have tested : corroboratedCount std lowering hypothesis supporting ≤
      corroboratedCount std lowering hypothesis (supporting ++ contradicting) :=
    corroboratedCount_mono (List.subset_append_left _ _)
  unfold Hypothesis.evaluateHypothesis
  unfold Concluded at open'
  dsimp only [Option.getD_some]
  rw [if_neg open']
  cases met : falsificationMet std lowering hypothesis contradicting with
  | true => simp [falsifiedDiffers]
  | false =>
      simp only [Bool.false_eq_true, if_false, Bool.or_false, Bool.and_eq_true, decide_eq_true_eq,
        true_and]
      split_ifs with majority partly
      · exact ⟨fun _ => majority.2, fun _ => rfl⟩
      · refine ⟨fun same => absurd same candidateDiffers, fun many => absurd ?_ majority⟩
        exact ⟨⟨by omega, by omega⟩, many⟩
      · refine ⟨fun same => absurd same candidateDiffers, fun many => absurd ?_ majority⟩
        exact ⟨⟨by omega, by omega⟩, many⟩

/-- **More supporting evidence** never undoes a confirmation, and never decides a falsification. -/
theorem evaluateHypothesis_mono (within : supporting ⊆ more) :
    (Hypothesis.evaluateHypothesis std lowering hypothesis now (some supporting) (some contradicting)
        confidenceScore).predictedConsequencesCorroborated ≤
      (Hypothesis.evaluateHypothesis std lowering hypothesis now (some more) (some contradicting)
        confidenceScore).predictedConsequencesCorroborated ∧
    ((Hypothesis.evaluateHypothesis std lowering hypothesis now (some supporting) (some contradicting)
        confidenceScore).newStatus = statusConfirmed →
      (Hypothesis.evaluateHypothesis std lowering hypothesis now (some more) (some contradicting)
        confidenceScore).newStatus = statusConfirmed) ∧
    ((Hypothesis.evaluateHypothesis std lowering hypothesis now (some supporting) (some contradicting)
        confidenceScore).newStatus = statusFalsified ↔
      (Hypothesis.evaluateHypothesis std lowering hypothesis now (some more) (some contradicting)
        confidenceScore).newStatus = statusFalsified) := by
  have counted : corroboratedCount std lowering hypothesis supporting ≤
      corroboratedCount std lowering hypothesis more := corroboratedCount_mono within
  refine ⟨counted, ?_⟩
  by_cases concluded : Concluded hypothesis
  · rw [evaluateHypothesis_terminal concluded, evaluateHypothesis_terminal concluded]
    exact ⟨id, Iff.rfl⟩
  · rw [evaluateHypothesis_confirmed_iff concluded, evaluateHypothesis_confirmed_iff concluded,
      evaluateHypothesis_falsified_iff concluded, evaluateHypothesis_falsified_iff concluded]
    exact ⟨fun ⟨unmet, majority⟩ => ⟨unmet, by omega⟩, Iff.rfl⟩

end Evaluate

/-! ### The policy -/

section PolicyLaws

variable {formats : EvaluationFormats} {reliable : Bool} {hypothesis : Hypothesis}
  {evidence others front back : List Evidence} {item : Evidence} {confidence : Option Confidence}

/-- **The policy depends on the set of its evidence**: neither an order nor a repetition matters. -/
theorem applyEvaluationPolicy_congr (same : ∀ item, item ∈ evidence ↔ item ∈ others) :
    applyEvaluationPolicy formats reliable hypothesis evidence confidence =
      applyEvaluationPolicy formats reliable hypothesis others confidence := by
  have anyCongr : ∀ accepts : Evidence → Bool, evidence.any accepts = others.any accepts := by
    intro accepts
    rw [Bool.eq_iff_iff, List.any_eq_true, List.any_eq_true]
    exact exists_congr fun item => and_congr_left fun _ => same item
  have found : evaluateEvidenceAgainstHypothesis formats hypothesis evidence =
      evaluateEvidenceAgainstHypothesis formats hypothesis others := by
    unfold evaluateEvidenceAgainstHypothesis
    simp only [anyCongr]
  unfold applyEvaluationPolicy
  rw [found]

theorem supported_mono (within : evidence ⊆ others) :
    (hypothesis.predictedConsequences.filter fun prediction =>
        evidence.any fun item => evidenceSupportsPrediction formats item prediction).length ≤
      (hypothesis.predictedConsequences.filter fun prediction =>
        others.any fun item => evidenceSupportsPrediction formats item prediction).length := by
  rw [← List.countP_eq_length_filter, ← List.countP_eq_length_filter]
  refine List.countP_mono_left fun prediction _ supported => ?_
  obtain ⟨item, member, supports⟩ := List.any_eq_true.mp supported
  exact List.any_eq_true.mpr ⟨item, within member, supports⟩

/-- **An item that does not meet the criterion** never undoes a confirmation, wherever it is added. -/
theorem confirmed_insert
    (unmet : evidenceMeetsFalsification formats item hypothesis.falsificationCriterion = false)
    (confirmed : (applyEvaluationPolicy formats reliable hypothesis (front ++ back) confidence).result =
      .confirmed) :
    (applyEvaluationPolicy formats reliable hypothesis (front ++ item :: back) confidence).result =
      .confirmed := by
  obtain ⟨isReliable, none, supported, high⟩ := confirmed_iff.mp confirmed
  refine confirmed_iff.mpr ⟨isReliable, fun other member => ?_, supported.trans (supported_mono ?_), high⟩
  · rcases List.mem_append.mp member with before | after
    · exact none other (List.mem_append_left _ before)
    · rcases List.mem_cons.mp after with rfl | inBack
      · exact unmet
      · exact none other (List.mem_append_right _ inBack)
  · exact List.append_subset.mpr ⟨List.subset_append_left _ _,
      fun other inBack => List.mem_append_right _ (List.mem_cons_of_mem _ inBack)⟩

/-- **The laws of the evaluations.** With a reliable basis the policy falsifies exactly on an item that meets
the criterion, and otherwise confirms exactly on two supported predictions and a score that reaches the
threshold; with an unreliable one it concludes nothing. It depends on the set of items, and an item that does
not meet the criterion keeps a confirmation. `evaluate_hypothesis` keeps the status of a concluded hypothesis,
falsifies any other exactly on contradicting evidence that meets the criterion, and is monotone in its
supporting evidence. -/
theorem evaluation_policy_laws (formats : EvaluationFormats) (std : Stdlib) (lowering : Lowering)
    (hypothesis : Hypothesis) :
    (∀ evidence confidence,
      ((applyEvaluationPolicy formats true hypothesis evidence confidence).result = .falsified ↔
        ∃ item ∈ evidence,
          evidenceMeetsFalsification formats item hypothesis.falsificationCriterion = true) ∧
      ((∀ item ∈ evidence,
          evidenceMeetsFalsification formats item hypothesis.falsificationCriterion = false) →
        ((applyEvaluationPolicy formats true hypothesis evidence confidence).result = .confirmed ↔
          2 ≤ (hypothesis.predictedConsequences.filter fun prediction =>
            evidence.any fun item => evidenceSupportsPrediction formats item prediction).length ∧
          confidenceThresholdConfirm ≤
            (confidence.map fun found => found.confidenceScore.val).getD 0)) ∧
      (applyEvaluationPolicy formats false hypothesis evidence confidence).result.concludes = false) ∧
    (∀ reliable evidence others confidence, (∀ item, item ∈ evidence ↔ item ∈ others) →
      applyEvaluationPolicy formats reliable hypothesis evidence confidence =
        applyEvaluationPolicy formats reliable hypothesis others confidence) ∧
    (∀ reliable front item back confidence,
      evidenceMeetsFalsification formats item hypothesis.falsificationCriterion = false →
      (applyEvaluationPolicy formats reliable hypothesis (front ++ back) confidence).result = .confirmed →
      (applyEvaluationPolicy formats reliable hypothesis (front ++ item :: back) confidence).result =
        .confirmed) ∧
    ∀ now supporting contradicting confidenceScore,
      (Concluded hypothesis →
        (Hypothesis.evaluateHypothesis std lowering hypothesis now (some supporting) (some contradicting)
          confidenceScore).newStatus = hypothesis.status) ∧
      (¬Concluded hypothesis →
        ((Hypothesis.evaluateHypothesis std lowering hypothesis now (some supporting) (some contradicting)
          confidenceScore).newStatus = statusFalsified ↔
          ∃ item ∈ contradicting,
            evidenceMatchesFalsification std lowering item hypothesis.falsificationCriterion = true)) ∧
      ∀ more, supporting ⊆ more →
        (Hypothesis.evaluateHypothesis std lowering hypothesis now (some supporting) (some contradicting)
            confidenceScore).predictedConsequencesCorroborated ≤
          (Hypothesis.evaluateHypothesis std lowering hypothesis now (some more) (some contradicting)
            confidenceScore).predictedConsequencesCorroborated ∧
        ((Hypothesis.evaluateHypothesis std lowering hypothesis now (some supporting) (some contradicting)
            confidenceScore).newStatus = statusConfirmed →
          (Hypothesis.evaluateHypothesis std lowering hypothesis now (some more) (some contradicting)
            confidenceScore).newStatus = statusConfirmed) ∧
        ((Hypothesis.evaluateHypothesis std lowering hypothesis now (some supporting) (some contradicting)
            confidenceScore).newStatus = statusFalsified ↔
          (Hypothesis.evaluateHypothesis std lowering hypothesis now (some more) (some contradicting)
            confidenceScore).newStatus = statusFalsified) := by
  refine ⟨fun evidence confidence => ⟨?_, fun unmet => ?_, ?_⟩, fun _ _ _ _ => applyEvaluationPolicy_congr,
    fun _ _ _ _ _ => confirmed_insert, fun now supporting contradicting confidenceScore =>
      ⟨evaluateHypothesis_terminal, evaluateHypothesis_falsified_iff, fun _ => evaluateHypothesis_mono⟩⟩
  · rw [falsified_iff]
    exact and_iff_right rfl
  · rw [confirmed_iff]
    exact (and_iff_right rfl).trans (and_iff_right unmet)
  · rw [unreliable_insufficient]
    rfl

end PolicyLaws

end CosMonitor
