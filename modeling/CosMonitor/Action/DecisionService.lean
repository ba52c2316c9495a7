/-
**The decision service — one commit cycle over the proposed recommendations of every tenant.**

A tenant's task lists its recommendations and the first page of its confidences, joins the two by id and
persists a decision for every recommendation that its policy lets it commit. It ends at the first error,
which `gather(return_exceptions=True)` swallows.

* `commitRecommendation`: the body of the loop;
* `commitRecommendation_satisfies`: a decision that it returns satisfies the policy of its domain;
* `commitRecommendation_eligible`: what it returns for an eligible recommendation;
* `commitTenant`, `DecisionCycleEnds`: the task of a tenant, and the cycle.
-/

import CosMonitor.Action.DecisionPolicy
import CosMonitor.Foundation.Sorting
import CosMonitor.Foundation.Table

namespace CosMonitor

open Table

/-! ### The body of the loop -/

/-- The configuration of the service: the thresholds of the deployment. -/
structure DecisionService where
  minConfidenceForCommit : PyFloat
  minConfidenceIrreversible : PyFloat

/-- The domain of the first alternative that the catalogue declares. -/
def recommendationDomain (recommendation : Recommendation) : Option String :=
  recommendation.alternativesConsidered.findSome? fun alternative => actionDomain alternative.action

/-- The authority id derived from a policy. -/
def policyAuthorityId (std : Stdlib) (policyId : String) : Uuid :=
  std.uuid5 decisionNamespace ("policy:" ++ policyId)

/-- The authority of a policy under a risk. -/
def authorityUnder (std : Stdlib) (policy : DecisionPolicyEntry) (risk : String) : Authority where
  authorityId := policyAuthorityId std policy.policyId
  label := "policy:" ++ policy.policyId
  riskTolerance := risk

/-- The policy of the domain of a recommendation, with the thresholds of the deployment. -/
def DecisionService.policyFor (service : DecisionService) (recommendation : Recommendation) :
    Except PyError (Option DecisionPolicyEntry) :=
  match selectPolicy (recommendationDomain recommendation) with
  | none => .ok none
  | some policy => do
      let published ← applyThresholdOverrides policy (some service.minConfidenceForCommit)
        (some service.minConfidenceIrreversible)
      return some published

/-- `confidences.get(id)`, where the dictionary keeps the last of the listed confidences of an id. -/
def confidenceOf (confidences : List Confidence) (id : Uuid) : Option Confidence :=
  confidences.reverse.find? fun confidence => decide (confidence.id = id)

theorem confidenceOf_spec {confidences : List Confidence} {id : Uuid} {confidence : Confidence}
    (found : confidenceOf confidences id = some confidence) :
    confidence ∈ confidences ∧ confidence.id = id :=
  ⟨List.mem_reverse.mp (List.mem_of_find?_eq_some found), by simpa using List.find?_some found⟩

/-- Commit one recommendation with the listed confidences; `none` when it is skipped. -/
def commitRecommendation (std : Stdlib) (service : DecisionService) (confidences : List Confidence)
    (now : Timestamp) (recommendation : Recommendation) : Except PyError (Option Decision) :=
  if recommendation.status ≠ "proposed" then .ok none
  else
    match confidenceOf confidences recommendation.confidenceId with
    | none => .ok none
    | some confidence => do
        match ← service.policyFor recommendation with
        | none => return none
        | some policy =>
            match resolveRiskTolerance confidence.confidenceScore.val policy with
            | none => return none
            | some risk =>
                let authority := authorityUnder std policy risk
                let reason ← commitEligibility recommendation confidence (some policy) (some authority)
                if reason ≠ .committable then return none
                let create ← commit std recommendation confidence policy authority now
                return create.map (buildDecision std)

/-! ### What the body returns -/

section Body

variable {std : Stdlib} {service : DecisionService} {confidences : List Confidence} {now : Timestamp}
  {recommendation : Recommendation} {decision : Decision}

theorem policyFor_domain {policy : DecisionPolicyEntry}
    (inForce : service.policyFor recommendation = .ok (some policy)) :
    recommendationDomain recommendation = some policy.domain := by
  unfold DecisionService.policyFor at inForce
  split at inForce
  · cases inForce
  · rename_i catalogued selected
    obtain ⟨published, applied, same⟩ := Result.bind_eq_ok.mp inForce
    obtain rfl := Option.some.inj (Result.pure_eq_ok.mp same)
    rw [(applyThresholdOverrides_ok applied).2.1]
    exact selectPolicy_domain selected

/-- A recommendation that its policy lets a confidence commit: it is proposed, the confidence is its own
one, of its tenant, and a risk is resolved for the score. -/
structure CommitEligible (service : DecisionService) (recommendation : Recommendation)
    (confidence : Confidence) : Prop where
  proposed : recommendation.status = "proposed"
  bound : confidence.id = recommendation.confidenceId
  sameTenant : confidence.tenantId = recommendation.tenantId
  resolved : ∃ policy risk, service.policyFor recommendation = .ok (some policy) ∧
    resolveRiskTolerance confidence.confidenceScore.val policy = some risk

/-- What the commitment policy asks of a decision over a recommendation and a confidence. -/
structure SatisfiesPolicy (policy : DecisionPolicyEntry) (recommendation : Recommendation)
    (confidence : Confidence) (decision : Decision) : Prop where
  ofDomain : recommendationDomain recommendation = some policy.domain
  ofRecommendation : decision.recommendationId = recommendation.id
  ofTenant : decision.tenantId = recommendation.tenantId
  bound : decision.confidenceId = confidence.id
  sameTenant : confidence.tenantId = decision.tenantId
  enough : policy.minConfidenceForCommit ≤ confidence.confidenceScore.val
  irreversible : decision.riskTolerance = "high" →
    policy.minConfidenceIrreversible ≤ confidence.confidenceScore.val
  allowed : decision.riskTolerance ∈ policy.allowedRiskTolerance
  committed : decision.status = "committed"

theorem commit_create {confidence : Confidence} {policy : DecisionPolicyEntry} {authority : Authority}
    {create : DecisionCreate}
    (committed : commit std recommendation confidence policy authority now = .ok (some create)) :
    commitEligibility recommendation confidence (some policy) (some authority) = .ok .committable ∧
      create.tenantId = recommendation.tenantId ∧ create.recommendationId = recommendation.id ∧
      create.confidenceId = recommendation.confidenceId ∧
      create.riskTolerance = authority.riskTolerance ∧ create.status = "committed" := by
  unfold commit at committed
  obtain ⟨eligibility, checked, committed⟩ := Result.bind_eq_ok.mp committed
  split at committed
  · cases committed
  rename_i committable
  obtain ⟨outcomes, -, committed⟩ := Result.bind_eq_ok.mp committed
  rw [← Option.some.inj (Result.pure_eq_ok.mp committed)]
  rw [not_not.mp committable] at checked
  exact ⟨checked, rfl, rfl, rfl, rfl, rfl⟩

/-- **What the body has done when it returned a decision.** -/
theorem commitRecommendation_returned
    (returned : commitRecommendation std service confidences now recommendation =
      .ok (some decision)) :
    ∃ confidence policy risk create,
      confidenceOf confidences recommendation.confidenceId = some confidence ∧
      CommitEligible service recommendation confidence ∧
      service.policyFor recommendation = .ok (some policy) ∧
      commit std recommendation confidence policy (authorityUnder std policy risk) now =
        .ok (some create) ∧
      decision = buildDecision std create := by
  unfold commitRecommendation at returned
  split at returned
  · cases returned
  rename_i proposed
  split at returned
  · cases returned
  rename_i confidence found
  obtain ⟨inForce, policyIs, returned⟩ := Result.bind_eq_ok.mp returned
  split at returned
  · cases returned
  rename_i policy
  split at returned
  · cases returned
  rename_i risk resolved
  obtain ⟨reason, -, returned⟩ := Result.bind_eq_ok.mp returned
  split at returned
  · cases returned
  obtain ⟨created, committed, mapped⟩ := Result.bind_eq_ok.mp returned
  obtain ⟨create, rfl, built⟩ := Option.map_eq_some_iff.mp (Result.pure_eq_ok.mp mapped)
  obtain ⟨bound, sameTenant⟩ := (commitEligibility_committable (commit_create committed).1).1
  exact ⟨confidence, policy, risk, create, found,
    ⟨not_not.mp proposed, bound, sameTenant, policy, risk, policyIs, resolved⟩, policyIs, committed,
    built.symm⟩

/-- **A decision that the body returns satisfies the policy of its domain.** -/
theorem commitRecommendation_satisfies
    (returned : commitRecommendation std service confidences now recommendation =
      .ok (some decision)) :
    ∃ confidence ∈ confidences, ∃ policy,
      confidence.id = recommendation.confidenceId ∧
      service.policyFor recommendation = .ok (some policy) ∧
      SatisfiesPolicy policy recommendation confidence decision := by
  obtain ⟨confidence, policy, risk, create, found, eligible, inForce, committed, rfl⟩ :=
    commitRecommendation_returned returned
  obtain ⟨checked, tenantIs, recommendationIs, confidenceIs, riskIs, statusIs⟩ :=
    commit_create committed
  obtain ⟨-, enough, allowed, irreversible⟩ := commitEligibility_committable checked
  refine ⟨confidence, (confidenceOf_spec found).1, policy, eligible.bound, inForce, ?_⟩
  exact {
    ofDomain := policyFor_domain inForce
    ofRecommendation := recommendationIs
    ofTenant := tenantIs
    bound := confidenceIs.trans eligible.bound.symm
    sameTenant := eligible.sameTenant.trans tenantIs.symm
    enough
    irreversible := fun high => irreversible (riskIs.symm.trans high)
    allowed := by
      show create.riskTolerance ∈ _
      rw [riskIs]
      exact allowed
    committed := statusIs }

theorem commitRecommendation_id
    (returned : commitRecommendation std service confidences now recommendation =
      .ok (some decision)) :
    decision.id = decisionId std recommendation.tenantId recommendation.id
      recommendation.confidenceId := by
  obtain ⟨confidence, policy, risk, create, -, -, -, committed, rfl⟩ :=
    commitRecommendation_returned returned
  obtain ⟨-, tenantIs, recommendationIs, confidenceIs, -⟩ := commit_create committed
  show decisionId std create.tenantId create.recommendationId create.confidenceId = _
  rw [tenantIs, recommendationIs, confidenceIs]

/-- **An eligible recommendation is not skipped**: the body returns a decision, or raises. -/
theorem commitRecommendation_eligible {confidence : Confidence}
    (found : confidenceOf confidences recommendation.confidenceId = some confidence)
    (eligible : CommitEligible service recommendation confidence) (now : Timestamp) :
    commitRecommendation std service confidences now recommendation ≠ .ok none := by
  obtain ⟨policy, risk, inForce, resolved⟩ := eligible.resolved
  intro skipped
  unfold commitRecommendation at skipped
  rw [if_neg (not_not.mpr eligible.proposed), found, inForce] at skipped
  obtain ⟨middle, isPolicy, skipped⟩ := Result.bind_eq_ok.mp skipped
  obtain rfl := Except.ok.inj isPolicy
  dsimp only at skipped
  rw [resolved] at skipped
  dsimp only at skipped
  have checked := resolved_committable resolved eligible.bound eligible.sameTenant
    (policyAuthorityId std policy.policyId) ("policy:" ++ policy.policyId)
  obtain ⟨reason, isReason, skipped⟩ := Result.bind_eq_ok.mp skipped
  obtain rfl := Except.ok.inj (checked.symm.trans isReason)
  rw [if_neg (by simp)] at skipped
  obtain ⟨created, committed, skipped⟩ := Result.bind_eq_ok.mp skipped
  obtain rfl := Option.map_eq_none_iff.mp (Result.pure_eq_ok.mp skipped)
  unfold commit at committed
  obtain ⟨again, isAgain, committed⟩ := Result.bind_eq_ok.mp committed
  obtain rfl := Except.ok.inj (checked.symm.trans isAgain)
  rw [if_neg (by simp)] at committed
  obtain ⟨outcomes, -, committed⟩ := Result.bind_eq_ok.mp committed
  cases Result.pure_eq_ok.mp committed

end Body

/-! ### The task of a tenant, and the cycle -/

section Tasks

variable (std : Stdlib) (service : DecisionService) (clock : Uuid → Timestamp)

/-- The loop: the decisions that it sends to the store, and the error that ended it. `clock` is when
each recommendation is committed. -/
def commitRecommendations (confidences : List Confidence) (recommendations : List Recommendation) :
    List Decision × Option PyError :=
  Result.collect (fun recommendation => commitRecommendation std service confidences
    (clock recommendation.id) recommendation) recommendations

/-- `list_recommendations`: the rows of a tenant in the order of `proposed_at`. -/
def listRecommendations (tenantId : Uuid) (rows : List Recommendation) : List Recommendation :=
  Sorting.sortBy (fun row => row.proposedAt)
    (rows.filter fun row => decide (row.tenantId = tenantId))

theorem mem_listRecommendations {tenantId : Uuid} {rows : List Recommendation}
    {recommendation : Recommendation} :
    recommendation ∈ listRecommendations tenantId rows ↔
      recommendation ∈ rows ∧ recommendation.tenantId = tenantId := by
  unfold listRecommendations
  rw [Sorting.mem_sortBy, List.mem_filter, decide_eq_true_iff]

/-- `_commit_tenant`, with the first page of the tenant's confidences. -/
def commitTenant (recommendations : List Recommendation) (confidences : List Confidence)
    (tenantId : Uuid) : List Decision × Option PyError :=
  commitRecommendations std service clock (listConfidence tenantId 500 0 confidences)
    (listRecommendations tenantId recommendations)

/-- The tenants with a recommendation. -/
def recommendationTenants (recommendations : List Recommendation) : List Uuid :=
  (recommendations.map fun row => row.tenantId).dedup

/-- What the tasks of all tenants send to the decision store. -/
def decisionsSent (recommendations : List Recommendation) (confidences : List Confidence) :
    List Decision :=
  (recommendationTenants recommendations).flatMap fun tenantId =>
    (commitTenant std service clock recommendations confidences tenantId).1

/-- No task of the cycle raises. -/
def DecisionCycleSucceeds (recommendations : List Recommendation) (confidences : List Confidence) :
    Prop :=
  ∀ tenantId ∈ recommendationTenants recommendations,
    (commitTenant std service clock recommendations confidences tenantId).2 = none

instance (recommendations : List Recommendation) (confidences : List Confidence) :
    Decidable (DecisionCycleSucceeds std service clock recommendations confidences) :=
  List.decidableBAll (fun tenantId =>
    (commitTenant std service clock recommendations confidences tenantId).2 = none) _

/-- **A cycle ends**: the saves of all tenants have arrived, in some order. -/
def DecisionCycleEnds (recommendations : List Recommendation) (confidences : List Confidence)
    (before after : List Decision) : Prop :=
  ∃ saves : List Decision,
    saves.Perm (decisionsSent std service clock recommendations confidences) ∧
      after = insertEach Decision.id saves before

end Tasks

end CosMonitor
