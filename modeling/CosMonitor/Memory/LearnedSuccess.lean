/-
**Success and failure, from an offer to what is learned.**

An offer predicts its consequences in words, a commitment copies the words into its expected outcomes,
and the two readers of outcomes convert a prediction to a number.

* `consequences_words`: the formulator offers no text that is a number, so every prediction counts as
  zero, which expects a failure;
* `success_never_learned`: a decision whose outcomes are all reported with one value is learned as the
  opposite.
-/

import CosMonitor.Action.PipelineSteps
import CosMonitor.Base.Numerals
import CosMonitor.Memory.Consolidation

set_option maxRecDepth 8000

namespace CosMonitor

/-! ### Observed decisions -/

/-- What the consolidation reads of a row. -/
def Decision.view (decision : Decision) : DecisionView where
  id := decision.id
  tenantId := decision.tenantId
  expectedOutcomes := decision.expectedOutcomes
  actualOutcomes := decision.actualOutcomes
  outcomeStatus := some decision.outcomeStatus

/-- The decision once its outcomes have been observed. -/
def Decision.observed (decision : Decision) (actuals : List Json) : Decision :=
  { decision with actualOutcomes := some actuals, outcomeStatus := "observed" }

/-- The payload reports a value for a metric: it has entries for the metric, and each has the value. -/
structure Reports (std : Stdlib) (actuals : List Json) (metric : Json) (value : Bool) : Prop where
  named : metric ≠ .null
  present : ∃ actual ∈ actuals, actual.get "verifiable_by" = metric
  only : ∀ actual ∈ actuals, actual.get "verifiable_by" ≠ .null →
    std.str (actual.get "verifiable_by") = std.str metric → actual.get "value" = .bool value

/-- The outcomes are learned as what they are: a reported success is never taken for a failure, nor a
reported failure for a success. -/
def LearnedAs (std : Stdlib) (decision : Decision) (value : Bool) : Prop :=
  ∃ result, buildConsolidation std decision.view = .ok result ∧
    match value with
    | true => (∀ detail ∈ result.details, detail.classification ≠ .contradicted) ∧
        0 ≤ result.calibrationFeedback ∧ computeOutcomeSignal std decision ≠ .ok (some false)
    | false => (∀ detail ∈ result.details, detail.classification ≠ .corroborated) ∧
        computeOutcomeSignal std decision ≠ .ok (some true)

/-- The outcomes are learned as their opposite: every expected outcome is classified the other way
round, and so is the signal. -/
structure Inverted (std : Stdlib) (decision : Decision) (value : Bool) : Prop where
  details : ∀ result, buildConsolidation std decision.view = .ok result → result.details ≠ [] ∧
    ∀ detail ∈ result.details,
      detail.classification = if value then .contradicted else .corroborated
  signal : computeOutcomeSignal std decision = .ok (some !value)

theorem Inverted.not_learned {std : Stdlib} {decision : Decision} {value : Bool}
    (inverted : Inverted std decision value) : ¬LearnedAs std decision value := by
  rintro ⟨result, -, learned⟩
  cases value with
  | true => exact learned.2.2 inverted.signal
  | false => exact learned.2 inverted.signal

/-! ### Predictions in words -/

/-- **Every consequence that the formulator offers is put in words.** -/
theorem consequences_words :
    ∀ entry ∈ consequenceTemplates, ∀ consequence ∈ entry.2, StartsInWords consequence := by
  unfold consequenceTemplates
  simp only [List.forall_mem_cons, List.not_mem_nil, false_implies, implies_true, and_true]
  and_intros
  all_goals try with_reducible refine StartsInWords.append _ ?_
  all_goals exact startsInWords_ofList (by decide)

theorem predictedProbability_words {metric deadline consequence : String}
    (words : StartsInWords consequence) :
    predictedProbability (expectedOutcome metric deadline consequence) = .ok (.finite 0) := by
  have raised : (Json.str consequence).pyFloat =
      .error (.valueError "could not convert string to float") := by
    simp only [Json.pyFloat, ofName_words words, parseFloat_words words]
  unfold predictedProbability
  simp only [show ((expectedOutcome metric deadline consequence).lookup "predictiction").getD
    (((expectedOutcome metric deadline consequence).lookup "prediction").getD (.str "")) =
      .str consequence from rfl, raised]

theorem isDict_of_get {value : Json} {key : String} (present : value.get key ≠ .null) :
    value.isDict = true := by
  cases value with
  | obj fields => rfl
  | null => exact absurd rfl present
  | bool value => exact absurd rfl present
  | int value => exact absurd rfl present
  | float value => exact absurd rfl present
  | str text => exact absurd rfl present
  | arr items => exact absurd rfl present

theorem mem_actualByMetric {std : Stdlib} {actuals : List Json} {key : String} {actual : Json} :
    (key, actual) ∈ actualByMetric std actuals ↔
      actual ∈ actuals ∧ actual.get "verifiable_by" ≠ .null ∧
        std.str (actual.get "verifiable_by") = key := by
  unfold actualByMetric
  rw [List.mem_reverse, List.mem_filterMap]
  constructor
  · rintro ⟨entry, member, indexed⟩
    split at indexed
    · cases indexed
    · cases indexed
    · rename_i isDict present
      cases indexed
      exact ⟨member, present, rfl⟩
  · rintro ⟨member, present, rfl⟩
    refine ⟨actual, member, ?_⟩
    rw [isDict_of_get present]
    split
    · rename_i isFalse
      exact absurd isFalse Bool.true_eq_false.mp
    · rename_i isNull
      exact absurd isNull present
    · rfl

theorem Reports.lookup {std : Stdlib} {actuals : List Json} {metric : Json} {value : Bool}
    (reports : Reports std actuals metric value) :
    ∃ actual, (actualByMetric std actuals).lookup (std.str metric) = some actual ∧
      actual.get "value" = .bool value := by
  cases found : (actualByMetric std actuals).lookup (std.str metric) with
  | none =>
      obtain ⟨actual, member, isMetric⟩ := reports.present
      rw [List.lookup_eq_none_iff] at found
      have entry : (std.str metric, actual) ∈ actualByMetric std actuals :=
        mem_actualByMetric.mpr ⟨member, by rw [isMetric]; exact reports.named, by rw [isMetric]⟩
      exact absurd (found _ entry) (by simp)
  | some actual =>
      obtain ⟨before, after, split, -⟩ := List.lookup_eq_some_iff.mp found
      have entry : (std.str metric, actual) ∈ actualByMetric std actuals := by
        rw [split]
        exact List.mem_append_right _ List.mem_cons_self
      obtain ⟨member, present, same⟩ := mem_actualByMetric.mp entry
      exact ⟨actual, rfl, reports.only actual member present same⟩

/-! ### The readers -/

section Readers

variable {std : Stdlib} {actuals : List Json} {metric deadline consequence : String} {value : Bool}

/-- The detail of a prediction in words, next to a reported value. -/
def invertedDetail (metric : String) (value : Bool) : ConsolidationDetail where
  metric := some metric
  prediction := some ((PyFloat.finite 0).round 4)
  actual := some value
  classification := if value then .contradicted else .corroborated
  reason := none

/-- **The consolidation takes a reported success for a failure**, and the other way round. -/
theorem classifyExpected_words (reports : Reports std actuals (.str metric) value)
    (words : StartsInWords consequence) :
    classifyExpected std (actualByMetric std actuals) (expectedOutcome metric deadline consequence) =
      .ok (invertedDetail metric value) := by
  obtain ⟨actual, found, reported⟩ := reports.lookup
  have names : (expectedOutcome metric deadline consequence).get "verifiable_by" = .str metric := rfl
  have found' : (actualByMetric std actuals).lookup metric = some actual := found
  have negative : (PyFloat.finite 0).atLeast predictionThreshold = false := by decide +kernel
  unfold classifyExpected
  rw [if_pos (show (expectedOutcome metric deadline consequence).isDict = true from rfl)]
  unfold classifyExpectedOutcome
  rw [Result.bind_eq_ok]
  refine ⟨_, predictedProbability_words words, ?_⟩
  simp only [names, Stdlib.str, Option.bind_some, found', reported, toBinary, negative]
  cases value with
  | true => rfl
  | false => rfl

/-- **The outcome signal takes a reported success for a failure**, and the other way round. -/
theorem outcomeMatch_words (reports : Reports std actuals (.str metric) value)
    (words : StartsInWords consequence) :
    outcomeMatch std (actualByMetric std actuals) (expectedOutcome metric deadline consequence) =
      .ok (some (!value)) := by
  obtain ⟨actual, found, reported⟩ := reports.lookup
  have names : (expectedOutcome metric deadline consequence).get "verifiable_by" = .str metric := rfl
  have isDict : (expectedOutcome metric deadline consequence).isDict = true := rfl
  have found' : (actualByMetric std actuals).lookup metric = some actual := found
  have negative : (PyFloat.finite 0).atLeast predictionThreshold = false := by decide +kernel
  unfold outcomeMatch
  simp only [isDict, names, Stdlib.str, found', predictedProbability_words words, reported,
    toBinary]
  simp [bind, Except.bind, pure, Except.pure, negative]

variable {decision : Decision} {consequences : List String}

/-- **Every detail of the consolidation is inverted**, and the feedback of a success is negative. -/
theorem buildConsolidation_words {result : ConsolidationResult}
    (reports : Reports std actuals (.str metric) value)
    (words : ∀ consequence ∈ consequences, StartsInWords consequence)
    (expected : decision.expectedOutcomes = consequences.map (expectedOutcome metric deadline))
    (built : buildConsolidation std (decision.observed actuals).view = .ok result) :
    result.details = List.replicate consequences.length (invertedDetail metric value) := by
  unfold buildConsolidation at built
  rw [if_neg (show ¬(decision.observed actuals).view.outcomeStatus = some "pending" by
    show ¬some "observed" = some "pending"
    decide)] at built
  obtain ⟨details, classified, built⟩ := Result.bind_eq_ok.mp built
  obtain ⟨brier, -, built⟩ := Result.bind_eq_ok.mp built
  have classifies : ∀ outcome ∈ consequences.map (expectedOutcome metric deadline),
      classifyExpected std (actualByMetric std actuals) outcome =
        .ok (invertedDetail metric value) := by
    intro outcome member
    obtain ⟨consequence, offered, rfl⟩ := List.mem_map.mp member
    exact classifyExpected_words reports (words consequence offered)
  have all : (decision.observed actuals).view.expectedOutcomes.mapM
      (classifyExpected std (actualByMetric std actuals)) =
        .ok (List.replicate consequences.length (invertedDetail metric value)) := by
    show decision.expectedOutcomes.mapM _ = _
    rw [expected, Result.mapM_replicate classifies, List.length_map]
  rw [← Result.pure_eq_ok.mp built]
  exact Except.ok.inj (classified.symm.trans all)

/-- **The outcome signal is inverted.** -/
theorem computeOutcomeSignal_words (reports : Reports std actuals (.str metric) value)
    (present : consequences ≠ [])
    (words : ∀ consequence ∈ consequences, StartsInWords consequence)
    (expected : decision.expectedOutcomes = consequences.map (expectedOutcome metric deadline)) :
    computeOutcomeSignal std (decision.observed actuals) = .ok (some !value) := by
  have reported : actuals ≠ [] := by
    obtain ⟨actual, member, -⟩ := reports.present
    exact List.ne_nil_of_mem member
  have matches' : ∀ outcome ∈ consequences.map (expectedOutcome metric deadline),
      outcomeMatch std (actualByMetric std actuals) outcome = .ok (some !value) := by
    intro outcome member
    obtain ⟨consequence, offered, rfl⟩ := List.mem_map.mp member
    exact outcomeMatch_words reports (words consequence offered)
  have all : (decision.observed actuals).expectedOutcomes.mapM
      (outcomeMatch std (actualByMetric std actuals)) =
        .ok (List.replicate consequences.length (some !value)) := by
    show decision.expectedOutcomes.mapM _ = _
    rw [expected, Result.mapM_replicate matches', List.length_map]
  have relevant : ¬((decision.observed actuals).outcomeStatus = "pending" ∨
      (decision.observed actuals).actualOutcomes.getD [] = [] ∨
      (decision.observed actuals).expectedOutcomes = []) := by
    rintro (pending | empty | none)
    · exact absurd (show "observed" = "pending" from pending) (by decide)
    · exact reported empty
    · have mapped : consequences.map (expectedOutcome metric deadline) = [] := expected.symm.trans none
      exact present (List.map_eq_nil_iff.mp mapped)
  unfold computeOutcomeSignal
  dsimp only
  rw [if_neg relevant, Result.bind_eq_ok]
  refine ⟨_, all, ?_⟩
  rw [Result.pure_eq_ok, List.count_replicate, List.count_replicate]
  cases value with
  | true => simp [present]
  | false => simp [present, List.length_pos_iff]

end Readers

/-! ### From the offer to what is learned -/

theorem formulate_words {formats : TextFormats} {hypothesis : Hypothesis} {confidence : Confidence}
    {context : Context} {actionSpace : ActionSpaceEntry} {now : Timestamp}
    {create : RecommendationCreate}
    (formulated : formulate formats hypothesis confidence context actionSpace now =
      .ok (some create)) :
    ∀ consequence ∈ create.expectedConsequences, StartsInWords consequence := by
  obtain ⟨action, -, offered⟩ := formulate_consequences formulated
  rw [offered]
  cases found : consequenceTemplates.lookup action with
  | none =>
      rintro _ ⟨⟩
  | some consequences =>
      obtain ⟨before, after, split, -⟩ := List.lookup_eq_some_iff.mp found
      refine consequences_words (action, consequences) ?_
      rw [split]
      exact List.mem_append_right _ List.mem_cons_self

/-- **Success is never learned as success**, nor failure as failure: for every offer of the formulator,
every commitment to it and every payload that reports one value for the metrics of all its expected
outcomes. -/
theorem success_never_learned (std : Stdlib) (formats : TextFormats) (hypothesis : Hypothesis)
    (confidence calibrated : Confidence) (context : Context) (actionSpace : ActionSpaceEntry)
    (formulatedAt committedAt : Timestamp) (offer : RecommendationCreate)
    (policy : DecisionPolicyEntry) (authority : Authority) (create : DecisionCreate)
    (actuals : List Json) (value : Bool)
    (formulated : formulate formats hypothesis confidence context actionSpace formulatedAt =
      .ok (some offer))
    (committed : commit std (buildRecommendation std offer) calibrated policy authority committedAt =
      .ok (some create))
    (reported : ∀ expected ∈ create.expectedOutcomes,
      Reports std actuals (expected.get "verifiable_by") value) :
    Inverted std ((buildDecision std create).observed actuals) value ∧
      ¬LearnedAs std ((buildDecision std create).observed actuals) value := by
  obtain ⟨present, outcomes⟩ := commit_expectedOutcomes committed
  have words := formulate_words formulated
  have reports : Reports std actuals (.str policy.verificationMetric) value := by
    obtain ⟨consequence, offered⟩ := List.exists_mem_of_ne_nil _ present
    refine reported (expectedOutcome policy.verificationMetric
      (deadlineIso std committedAt policy.domain) consequence) ?_
    rw [outcomes]
    exact List.mem_map_of_mem offered
  have inverted : Inverted std ((buildDecision std create).observed actuals) value := by
    refine ⟨fun result built => ?_, computeOutcomeSignal_words reports present words outcomes⟩
    have details := buildConsolidation_words reports words outcomes built
    rw [details]
    constructor
    · rw [Ne, List.replicate_eq_nil_iff, List.length_eq_zero_iff]
      exact present
    · intro detail member
      rw [(List.mem_replicate.mp member).2]
      rfl
  exact ⟨inverted, inverted.not_learned⟩

/-! ### One restart -/

/-- The service may be restarted. -/
def restartSpace : ActionSpaceEntry where
  actionId := "compute_actions_v1"
  domain := "compute"
  allowedActions := ["restart_service"]
  purposes := ["infrastructure_health"]
  known := by decide
  named := by decide
  permits := by decide

/-- The commitment rules of the compute domain. -/
def computePolicy : DecisionPolicyEntry where
  policyId := "compute_commit_v1"
  domain := "compute"
  minConfidenceForCommit := 3 / 4
  minConfidenceIrreversible := 9 / 10
  allowedRiskTolerance := ["low", "medium"]
  requiresAuthority := true
  known := by decide
  named := by decide
  commitUnit := by norm_num
  irreversibleUnit := by norm_num
  ordered := by norm_num
  tolerates := by decide
  toleranceKnown := by decide

/-- The authority of the policy. -/
def policyAuthority : Authority where
  authorityId := 9
  label := "compute_commit_v1"
  riskTolerance := "low"

/-- The service is reported active. -/
def serviceActive : List Json :=
  [.obj [("verifiable_by", .str "service_status"), ("value", .bool true)]]

theorem restart_committed : ∃ offer create,
    formulate defaultDeployment.formats (crashHypothesis "candidate") (crashConfidence 6 5 0) crashContext
      restartSpace 0 = .ok (some offer) ∧
    commit .constant (buildRecommendation .constant offer) (crashConfidence 6 5 0) computePolicy
      policyAuthority 1 = .ok (some create) ∧
    ∀ expected ∈ create.expectedOutcomes,
      Reports .constant serviceActive (expected.get "verifiable_by") true := by
  have computed : ((formulate defaultDeployment.formats (crashHypothesis "candidate") (crashConfidence 6 5 0)
      crashContext restartSpace 0).toOption.join.bind fun offer =>
        (commit .constant (buildRecommendation .constant offer) (crashConfidence 6 5 0) computePolicy
          policyAuthority 1).toOption.join).isSome = true := by
    decide +kernel
  obtain ⟨create, found⟩ := Option.isSome_iff_exists.mp computed
  obtain ⟨offer, formulated, committed⟩ := Option.bind_eq_some_iff.mp found
  have committed := Result.toOption_join committed
  refine ⟨offer, create, Result.toOption_join formulated, committed, fun expected member => ?_⟩
  rw [(commit_expectedOutcomes committed).2] at member
  obtain ⟨consequence, -, rfl⟩ := List.mem_map.mp member
  have metric : (expectedOutcome computePolicy.verificationMetric
      (deadlineIso .constant 1 computePolicy.domain) consequence).get "verifiable_by" =
        .str "service_status" := rfl
  rw [metric]
  refine ⟨by decide, ⟨_, List.mem_singleton_self _, rfl⟩, fun actual isActual _ _ => ?_⟩
  rw [List.mem_singleton.mp isActual]
  rfl

/-- A restart that succeeded is learned as a failure. -/
theorem success_never_learned_restart : ∃ decision : Decision,
    Inverted .constant (decision.observed serviceActive) true ∧
      ¬LearnedAs .constant (decision.observed serviceActive) true := by
  obtain ⟨offer, create, formulated, committed, reported⟩ := restart_committed
  exact ⟨buildDecision .constant create, success_never_learned .constant defaultDeployment.formats
    (crashHypothesis "candidate") (crashConfidence 6 5 0) (crashConfidence 6 5 0) crashContext restartSpace 0 1
    offer computePolicy policyAuthority create serviceActive true formulated committed reported⟩

/-- The signal of a restart that succeeded says that it failed. -/
theorem restart_success_contradicted : ∃ offer create,
    formulate defaultDeployment.formats (crashHypothesis "candidate") (crashConfidence 6 5 0) crashContext
      restartSpace 0 = .ok (some offer) ∧
    commit .constant (buildRecommendation .constant offer) (crashConfidence 6 5 0) computePolicy
      policyAuthority 1 = .ok (some create) ∧
    (∀ expected ∈ create.expectedOutcomes,
      Reports .constant serviceActive (expected.get "verifiable_by") true) ∧
    ¬LearnedAs .constant ((buildDecision .constant create).observed serviceActive) true := by
  obtain ⟨offer, create, formulated, committed, reported⟩ := restart_committed
  refine ⟨offer, create, formulated, committed, reported, ?_⟩
  have words := formulate_words formulated
  obtain ⟨present, outcomes⟩ := commit_expectedOutcomes committed
  obtain ⟨consequence, offered⟩ := List.exists_mem_of_ne_nil _ present
  have reports := reported (expectedOutcome computePolicy.verificationMetric
    (deadlineIso .constant 1 computePolicy.domain) consequence)
    (by rw [outcomes]; exact List.mem_map_of_mem offered)
  rintro ⟨result, -, -, -, signal⟩
  exact signal (computeOutcomeSignal_words reports present words outcomes)

end CosMonitor
