/-
**The decision committer — a recommendation becomes a commitment under a policy.**

* `DecisionPolicyEntry`: the commitment rules of a domain, checked when an entry is made;
* `commitEligibility`: why a recommendation may be committed, or may not;
* `commit`: the decision with its falsifiable expected outcomes;
* `commit_expectedOutcomes`: every expected outcome predicts a consequence of the recommendation, and
  all of them are verified by one metric.
-/

import CosMonitor.Action.Decision
import CosMonitor.Action.Formulator

namespace CosMonitor

/-! ### Policies and authorities -/

/-- `RISK_TOLERANCES`. -/
def riskTolerances : List String :=
  ["low", "medium", "high"]

/-- The commitment rules of one domain. -/
structure DecisionPolicyEntry where
  policyId : String
  domain : String
  minConfidenceForCommit : ℚ
  minConfidenceIrreversible : ℚ
  allowedRiskTolerance : List String
  requiresAuthority : Bool
  known : domain ∈ actionDomains
  named : stripChars policyId.toList ≠ []
  commitUnit : 0 ≤ minConfidenceForCommit ∧ minConfidenceForCommit ≤ 1
  irreversibleUnit : 0 ≤ minConfidenceIrreversible ∧ minConfidenceIrreversible ≤ 1
  ordered : minConfidenceForCommit ≤ minConfidenceIrreversible
  tolerates : allowedRiskTolerance ≠ []
  toleranceKnown : ∀ level ∈ allowedRiskTolerance, level ∈ riskTolerances

/-- The authority under which a decision is taken. -/
structure Authority where
  authorityId : Uuid
  label : String
  riskTolerance : String
  deriving DecidableEq

/-- `VERIFICATION_METRIC_BY_DOMAIN`. -/
def verificationMetricByDomain : List (String × String) :=
  [("storage", "disk_free_percent"),
    ("compute", "service_status"),
    ("security", "auth_failure_rate"),
    ("backup", "backup_job_status"),
    ("network", "traffic_rule_status"),
    ("observability", "alert_threshold_status")]

/-- `DEADLINE_DAYS_BY_DOMAIN`. -/
def deadlineDaysByDomain : List (String × Int) :=
  [("storage", 90), ("compute", 30), ("security", 30), ("backup", 90), ("network", 30),
    ("observability", 30)]

/-- The metric that verifies the outcomes of a policy. -/
def DecisionPolicyEntry.verificationMetric (policy : DecisionPolicyEntry) : String :=
  (verificationMetricByDomain.lookup policy.domain).getD "system_metric"

/-! ### Eligibility -/

/-- Whether a recommendation may be committed. -/
inductive Eligibility where
  | committable
  | belowConfidence
  | riskNotAllowed
  | noAuthority
  | noPolicy
  deriving DecidableEq, Repr

/-- Guard the traceability of a commitment. -/
def validateCommitment (recommendation : Recommendation) (confidence : Confidence) :
    Except PyError Unit :=
  if confidence.id ≠ recommendation.confidenceId then
    .error (.valueError "confidence must be the calibrated Confidence bound to the recommendation")
  else if confidence.tenantId ≠ recommendation.tenantId then
    .error (.valueError "tenant mismatch across recommendation/confidence")
  else .ok ()

/-- Classify whether a recommendation may be committed. -/
def commitEligibility (recommendation : Recommendation) (confidence : Confidence)
    (policy : Option DecisionPolicyEntry) (authority : Option Authority) :
    Except PyError Eligibility :=
  match policy with
  | none => .ok .noPolicy
  | some policy => do
      validateCommitment recommendation confidence
      match authority with
      | none =>
          if policy.requiresAuthority then return .noAuthority
          else if confidence.confidenceScore.val < policy.minConfidenceForCommit then
            return .belowConfidence
          else return .riskNotAllowed
      | some authority =>
          if confidence.confidenceScore.val < policy.minConfidenceForCommit then
            return .belowConfidence
          else if authority.riskTolerance ∉ policy.allowedRiskTolerance then return .riskNotAllowed
          else if authority.riskTolerance = "high" ∧
              confidence.confidenceScore.val < policy.minConfidenceIrreversible then
            return .riskNotAllowed
          else return .committable

/-! ### Commitments -/

/-- What stands before a separator. -/
def beforeSeparator (separator : List Char) : List Char → List Char
  | [] => []
  | character :: rest =>
      if separator.isPrefixOf (character :: rest) then []
      else character :: beforeSeparator separator rest

/-- The leading directive of an offer, without the trailing alternative. -/
def definitiveClause (description : String) : String :=
  let clause := stripChars (beforeSeparator " o ".toList (stripChars description.toList))
  String.ofList ((clause.reverse.dropWhile (· ∈ ".,; ".toList)).reverse) ++ "."

/-- The ISO date at which the outcomes of a domain are evaluated: the date is the first ten characters
of the text of a datetime. -/
def deadlineIso (std : Stdlib) (committedAt : Timestamp) (domain : String) : String :=
  let days := (deadlineDaysByDomain.lookup domain).getD 30
  String.ofList ((std.isoformat (.utc (committedAt + days * (24 * 3600 * second)))).toList.take 10)

/-- The definitive commitment. -/
def buildCommitment (recommendation : Recommendation) (authority : Authority) (deadline : String) :
    String :=
  definitiveClause recommendation.actionDescription ++
    " Compromiso registrado bajo la autoridad " ++ authority.label ++ " (id " ++
    uuidText authority.authorityId ++ "); outcomes esperados evaluados en " ++ deadline ++ "."

/-- An expected outcome: a consequence as its prediction, the metric that verifies it, the date. -/
def expectedOutcome (metric deadline consequence : String) : Json :=
  .obj [("prediction", .str consequence), ("verifiable_by", .str metric), ("deadline", .str deadline)]

/-- The falsifiable outcomes of a recommendation, declared before its execution. -/
def buildExpectedOutcomes (std : Stdlib) (recommendation : Recommendation)
    (policy : DecisionPolicyEntry) (committedAt : Timestamp) : Except PyError (List Json) :=
  if recommendation.expectedConsequences = [] then
    .error (.valueError ("cannot commit without falsifiable expected outcomes " ++
      "(recommendation has no expected_consequences)"))
  else .ok (recommendation.expectedConsequences.map
    (expectedOutcome policy.verificationMetric (deadlineIso std committedAt policy.domain)))

/-- A creation request for a decision. -/
structure DecisionCreate where
  tenantId : Uuid
  recommendationId : Uuid
  confidenceId : Uuid
  authorityId : Uuid
  commitment : String
  expectedOutcomes : List Json
  riskTolerance : String
  status : String
  committedAt : Timestamp
  executedAt : Option Timestamp
  actualOutcomes : Option (List Json)
  outcomeStatus : String
  deriving DecidableEq

/-- The namespace of decision ids. -/
def decisionNamespace : Uuid := 0x82

/-- Derive the id from the content of a decision. -/
def decisionId (std : Stdlib) (tenantId recommendationId confidenceId : Uuid) : Uuid :=
  std.uuid5 decisionNamespace (uuidText tenantId ++ ":" ++ uuidText recommendationId ++ ":" ++
    uuidText confidenceId)

/-- Materialise a decision. -/
def buildDecision (std : Stdlib) (create : DecisionCreate) : Decision where
  id := decisionId std create.tenantId create.recommendationId create.confidenceId
  tenantId := create.tenantId
  recommendationId := create.recommendationId
  confidenceId := create.confidenceId
  authorityId := create.authorityId
  commitment := create.commitment
  expectedOutcomes := create.expectedOutcomes
  riskTolerance := create.riskTolerance
  status := create.status
  committedAt := create.committedAt
  executedAt := create.executedAt
  actualOutcomes := create.actualOutcomes
  outcomeStatus := create.outcomeStatus

/-- Commit a recommendation; `none` when it is not eligible. -/
def commit (std : Stdlib) (recommendation : Recommendation) (confidence : Confidence)
    (policy : DecisionPolicyEntry) (authority : Authority) (now : Timestamp) :
    Except PyError (Option DecisionCreate) := do
  let eligibility ← commitEligibility recommendation confidence (some policy) (some authority)
  if eligibility ≠ .committable then return none
  let deadline := deadlineIso std now policy.domain
  let expectedOutcomes ← buildExpectedOutcomes std recommendation policy now
  return some {
    tenantId := recommendation.tenantId
    recommendationId := recommendation.id
    confidenceId := recommendation.confidenceId
    authorityId := authority.authorityId
    commitment := buildCommitment recommendation authority deadline
    expectedOutcomes
    riskTolerance := authority.riskTolerance
    status := "committed"
    committedAt := now
    executedAt := none
    actualOutcomes := none
    outcomeStatus := "pending" }

/-- **The expected outcomes of a commitment** predict the consequences of its recommendation, of which
there is one at least, and one metric verifies them all. -/
theorem commit_expectedOutcomes {std : Stdlib} {recommendation : Recommendation}
    {confidence : Confidence} {policy : DecisionPolicyEntry} {authority : Authority}
    {now : Timestamp} {create : DecisionCreate}
    (committed : commit std recommendation confidence policy authority now = .ok (some create)) :
    recommendation.expectedConsequences ≠ [] ∧
      create.expectedOutcomes = recommendation.expectedConsequences.map
        (expectedOutcome policy.verificationMetric (deadlineIso std now policy.domain)) := by
  unfold commit at committed
  obtain ⟨eligibility, -, committed⟩ := Result.bind_eq_ok.mp committed
  split at committed
  · cases committed
  obtain ⟨outcomes, built, committed⟩ := Result.bind_eq_ok.mp committed
  rw [← Option.some.inj (Result.pure_eq_ok.mp committed)]
  unfold buildExpectedOutcomes at built
  split at built
  · cases built
  · rename_i present
    exact ⟨present, (Except.ok.inj built).symm⟩

end CosMonitor
