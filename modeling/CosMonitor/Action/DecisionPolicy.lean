/-
**Decision policies — the commitment rules of every domain, and the risk that they permit.**

* `decisionPolicyLibrary`: the catalogue, and `selectPolicy` the policy of a domain;
* `applyThresholdOverrides`: a policy with the thresholds of a deployment;
* `resolveRiskTolerance`: the risk under which a score may be committed;
* `resolveRiskTolerance_spec`: what such a risk satisfies, at every score and for every policy;
* `resolved_committable`: the eligibility check agrees with a resolved risk.
-/

import CosMonitor.Action.ActionSpace
import CosMonitor.Action.Committer

namespace CosMonitor

/-! ### The catalogue -/

/-- What a policy is made from. -/
structure DecisionPolicyRow where
  policyId : String
  domain : String
  minConfidenceForCommit : ℚ
  minConfidenceIrreversible : ℚ
  riskTolerances : List String

/-- What a policy checks. -/
structure DecisionPolicyRow.Valid (row : DecisionPolicyRow) : Prop where
  known : row.domain ∈ actionDomains
  named : stripChars row.policyId.toList ≠ []
  commitUnit : 0 ≤ row.minConfidenceForCommit ∧ row.minConfidenceForCommit ≤ 1
  irreversibleUnit : 0 ≤ row.minConfidenceIrreversible ∧ row.minConfidenceIrreversible ≤ 1
  ordered : row.minConfidenceForCommit ≤ row.minConfidenceIrreversible
  tolerates : row.riskTolerances ≠ []
  toleranceKnown : ∀ level ∈ row.riskTolerances, level ∈ CosMonitor.riskTolerances

/-- `_policy`, under authority. -/
def DecisionPolicyRow.policy (row : DecisionPolicyRow) (valid : row.Valid) : DecisionPolicyEntry where
  policyId := row.policyId
  domain := row.domain
  minConfidenceForCommit := row.minConfidenceForCommit
  minConfidenceIrreversible := row.minConfidenceIrreversible
  allowedRiskTolerance := row.riskTolerances
  requiresAuthority := true
  known := valid.known
  named := valid.named
  commitUnit := valid.commitUnit
  irreversibleUnit := valid.irreversibleUnit
  ordered := valid.ordered
  tolerates := valid.tolerates
  toleranceKnown := valid.toleranceKnown

/-- The rows of `DECISION_POLICY_LIBRARY`. -/
def decisionPolicyRows : List DecisionPolicyRow :=
  [⟨"storage_commit_v1", "storage", 3 / 4, 9 / 10, ["low", "medium", "high"]⟩,
    ⟨"compute_commit_v1", "compute", 3 / 4, 9 / 10, ["low", "medium"]⟩,
    ⟨"security_commit_v1", "security", 3 / 4, 9 / 10, ["low", "medium", "high"]⟩,
    ⟨"backup_commit_v1", "backup", 3 / 4, 9 / 10, ["low", "medium"]⟩,
    ⟨"network_commit_v1", "network", 3 / 4, 9 / 10, ["low", "medium"]⟩,
    ⟨"observability_commit_v1", "observability", 3 / 4, 9 / 10, ["low", "medium", "high"]⟩]

theorem decisionPolicyRows_valid : ∀ row ∈ decisionPolicyRows, row.Valid := by
  have checked : ∀ row ∈ decisionPolicyRows, row.domain ∈ actionDomains ∧
      stripChars row.policyId.toList ≠ [] ∧
      (0 ≤ row.minConfidenceForCommit ∧ row.minConfidenceForCommit ≤ 1) ∧
      (0 ≤ row.minConfidenceIrreversible ∧ row.minConfidenceIrreversible ≤ 1) ∧
      row.minConfidenceForCommit ≤ row.minConfidenceIrreversible ∧ row.riskTolerances ≠ [] ∧
      ∀ level ∈ row.riskTolerances, level ∈ riskTolerances := by decide +kernel
  intro row member
  obtain ⟨known, named, commitUnit, irreversibleUnit, ordered, tolerates, toleranceKnown⟩ :=
    checked row member
  exact ⟨known, named, commitUnit, irreversibleUnit, ordered, tolerates, toleranceKnown⟩

/-- `DECISION_POLICY_LIBRARY`. -/
def decisionPolicyLibrary : List DecisionPolicyEntry :=
  decisionPolicyRows.attach.map fun row =>
    row.val.policy (decisionPolicyRows_valid row.val row.property)

/-- The policy of a domain in `POLICY_BY_DOMAIN`. -/
def selectPolicy (domain : Option String) : Option DecisionPolicyEntry :=
  domain.bind fun domain => decisionPolicyLibrary.reverse.find? fun entry =>
    decide (entry.domain = domain)

theorem selectPolicy_domain {domain : Option String} {policy : DecisionPolicyEntry}
    (selected : selectPolicy domain = some policy) : domain = some policy.domain := by
  obtain ⟨name, rfl, found⟩ := Option.bind_eq_some_iff.mp selected
  have same : policy.domain = name := by simpa using List.find?_some found
  rw [same]

/-- A threshold of the unit interval. -/
def unitThreshold (field : String) : PyFloat → Except PyError UnitScore
  | .finite value =>
      if bounded : 0 ≤ value ∧ value ≤ 1 then .ok ⟨value, bounded⟩
      else .error (.valueError (field ++ " must be in [0, 1]"))
  | .infinite _ | .nan => .error (.valueError (field ++ " must be in [0, 1]"))

/-- Re-publish a policy with the thresholds of a deployment. -/
def applyThresholdOverrides (policy : DecisionPolicyEntry)
    (minConfidenceForCommit minConfidenceIrreversible : Option PyFloat) :
    Except PyError DecisionPolicyEntry :=
  if minConfidenceForCommit = none ∧ minConfidenceIrreversible = none then .ok policy
  else do
    let forCommit ← unitThreshold "min_confidence_for_commit"
      (minConfidenceForCommit.getD (.finite policy.minConfidenceForCommit))
    let irreversible ← unitThreshold "min_confidence_irreversible"
      (minConfidenceIrreversible.getD (.finite policy.minConfidenceIrreversible))
    if ordered : forCommit.val ≤ irreversible.val then
      return { policy with
        minConfidenceForCommit := forCommit.val
        minConfidenceIrreversible := irreversible.val
        commitUnit := forCommit.property
        irreversibleUnit := irreversible.property
        ordered }
    else throw (.valueError "min_confidence_irreversible must be >= min_confidence_for_commit")

theorem applyThresholdOverrides_ok {policy published : DecisionPolicyEntry}
    {minConfidenceForCommit minConfidenceIrreversible : Option PyFloat}
    (applied : applyThresholdOverrides policy minConfidenceForCommit minConfidenceIrreversible =
      .ok published) :
    published.policyId = policy.policyId ∧ published.domain = policy.domain ∧
      published.allowedRiskTolerance = policy.allowedRiskTolerance ∧
      published.requiresAuthority = policy.requiresAuthority := by
  unfold applyThresholdOverrides at applied
  split at applied
  · rw [Except.ok.inj applied]
    exact ⟨rfl, rfl, rfl, rfl⟩
  · obtain ⟨forCommit, -, applied⟩ := Result.bind_eq_ok.mp applied
    obtain ⟨irreversible, -, applied⟩ := Result.bind_eq_ok.mp applied
    split at applied
    · rw [← Result.pure_eq_ok.mp applied]
      exact ⟨rfl, rfl, rfl, rfl⟩
    · cases Result.throw_eq_ok.mp applied

/-! ### Risk -/

/-- How demanding a risk level is. -/
def riskOrder (level : String) : Nat :=
  if level = "high" then 2 else if level = "medium" then 1 else 0

/-- The more demanding one of a level and the best level so far, below a ceiling. -/
def mostDemanding (ceiling : Nat) (best : Option String) (level : String) : Option String :=
  if riskOrder level ≤ ceiling ∧ best.all (fun found => decide (riskOrder found < riskOrder level))
  then some level else best

/-- The risk under which a score may be committed; `none` below the threshold to commit. -/
def resolveRiskTolerance (confidenceScore : ℚ) (policy : DecisionPolicyEntry) : Option String :=
  if confidenceScore < policy.minConfidenceForCommit then none
  else
    let candidate := if policy.minConfidenceIrreversible ≤ confidenceScore then "high" else "medium"
    policy.allowedRiskTolerance.foldl (mostDemanding (riskOrder candidate)) none

theorem foldl_mostDemanding {ceiling : Nat} {levels : List String} {best : Option String}
    {level : String} (found : levels.foldl (mostDemanding ceiling) best = some level)
    (below : ∀ first ∈ best, riskOrder first ≤ ceiling) :
    (best = some level ∨ level ∈ levels) ∧ riskOrder level ≤ ceiling ∧
      (∀ first ∈ best, riskOrder first ≤ riskOrder level) ∧
      ∀ other ∈ levels, riskOrder other ≤ ceiling → riskOrder other ≤ riskOrder level := by
  induction levels generalizing best with
  | nil =>
      have isBest : best = some level := found
      refine ⟨.inl isBest, below level isBest, fun first isFirst => ?_, by simp⟩
      rw [Option.some.inj (Eq.symm isFirst |>.trans isBest)]
  | cons head rest ih =>
      rw [List.foldl_cons] at found
      by_cases better : riskOrder head ≤ ceiling ∧
          best.all (fun found => decide (riskOrder found < riskOrder head)) = true
      · have taken : mostDemanding ceiling best head = some head := if_pos better
        rw [taken] at found
        obtain ⟨isOne, inside, above, most⟩ := ih found fun first isFirst => by
          rw [← Option.some.inj isFirst]
          exact better.1
        have headBelow := above head rfl
        refine ⟨.inr ?_, inside, fun first isFirst => ?_, fun other otherIn otherBelow => ?_⟩
        · rcases isOne with isHead | later
          · rw [← Option.some.inj isHead]
            exact List.mem_cons_self
          · exact List.mem_cons_of_mem _ later
        · have less : riskOrder first < riskOrder head := by
            have all := better.2
            rw [Option.mem_def.mp isFirst] at all
            simpa using all
          omega
        · rcases List.mem_cons.mp otherIn with rfl | later
          · exact headBelow
          · exact most other later otherBelow
      · have kept : mostDemanding ceiling best head = best := if_neg better
        rw [kept] at found
        obtain ⟨isOne, inside, above, most⟩ := ih found below
        refine ⟨isOne.imp_right (List.mem_cons_of_mem _), inside, above,
          fun other otherIn otherBelow => ?_⟩
        rcases List.mem_cons.mp otherIn with rfl | later
        · -- The head was passed over for a level that is as demanding.
          rcases best with _ | first
          · exact absurd ⟨otherBelow, rfl⟩ better
          · have notLess : ¬riskOrder first < riskOrder other := fun less =>
              better ⟨otherBelow, by simpa using less⟩
            have firstBelow := above first rfl
            omega
        · exact most other later otherBelow

/-- **A resolved risk**: the score is at least the minimum, the policy allows the level, a high level
needs the irreversible threshold, and no allowed level that the score permits is more demanding. -/
theorem resolveRiskTolerance_spec {confidenceScore : ℚ} {policy : DecisionPolicyEntry}
    {risk : String} (resolved : resolveRiskTolerance confidenceScore policy = some risk) :
    policy.minConfidenceForCommit ≤ confidenceScore ∧ risk ∈ policy.allowedRiskTolerance ∧
      (risk = "high" → policy.minConfidenceIrreversible ≤ confidenceScore) ∧
      ∀ level ∈ policy.allowedRiskTolerance,
        (level = "high" → policy.minConfidenceIrreversible ≤ confidenceScore) →
          riskOrder level ≤ riskOrder risk := by
  unfold resolveRiskTolerance at resolved
  split at resolved
  · cases resolved
  rename_i enough
  obtain ⟨isOne, inside, -, most⟩ := foldl_mostDemanding resolved fun _ none => by cases none
  have allowed : risk ∈ policy.allowedRiskTolerance :=
    isOne.resolve_left fun none => by cases none
  refine ⟨not_lt.mp enough, allowed, fun high => ?_, fun level permitted => ?_⟩
  · by_contra short
    rw [if_neg short, high] at inside
    exact absurd inside (by decide)
  · intro reaches
    refine most level permitted ?_
    by_cases irreversible : policy.minConfidenceIrreversible ≤ confidenceScore
    · rw [if_pos irreversible]
      show riskOrder level ≤ 2
      unfold riskOrder
      split
      · omega
      · split <;> omega
    · rw [if_neg irreversible]
      show riskOrder level ≤ 1
      unfold riskOrder
      rw [if_neg fun high => irreversible (reaches high)]
      split <;> omega

/-! ### Agreement with the eligibility check -/

theorem validateCommitment_ok {recommendation : Recommendation} {confidence : Confidence} :
    validateCommitment recommendation confidence = .ok () ↔
      confidence.id = recommendation.confidenceId ∧
        confidence.tenantId = recommendation.tenantId := by
  unfold validateCommitment
  by_cases bound : confidence.id = recommendation.confidenceId
  · by_cases sameTenant : confidence.tenantId = recommendation.tenantId
    · simp [bound, sameTenant]
    · simp [bound, sameTenant]
  · simp [bound]

/-- **The two checks agree**: with a risk that was resolved for the score, a bound confidence of the
tenant is committable. -/
theorem resolved_committable {recommendation : Recommendation} {confidence : Confidence}
    {policy : DecisionPolicyEntry} {risk : String}
    (resolved : resolveRiskTolerance confidence.confidenceScore.val policy = some risk)
    (bound : confidence.id = recommendation.confidenceId)
    (sameTenant : confidence.tenantId = recommendation.tenantId) (authorityId : Uuid)
    (label : String) :
    commitEligibility recommendation confidence (some policy)
      (some { authorityId, label, riskTolerance := risk }) = .ok .committable := by
  obtain ⟨enough, allowed, irreversible, -⟩ := resolveRiskTolerance_spec resolved
  show (validateCommitment recommendation confidence >>= _) = _
  rw [Result.bind_eq_ok]
  refine ⟨(), validateCommitment_ok.mpr ⟨bound, sameTenant⟩, ?_⟩
  dsimp only
  rw [if_neg (not_lt.mpr enough), if_neg (not_not.mpr allowed), if_neg]
  · rfl
  · rintro ⟨high, short⟩
    exact absurd (irreversible high) (not_le.mpr short)

theorem commitEligibility_committable {recommendation : Recommendation} {confidence : Confidence}
    {policy : DecisionPolicyEntry} {authority : Authority}
    (eligible : commitEligibility recommendation confidence (some policy) (some authority) =
      .ok .committable) :
    (confidence.id = recommendation.confidenceId ∧
        confidence.tenantId = recommendation.tenantId) ∧
      policy.minConfidenceForCommit ≤ confidence.confidenceScore.val ∧
      authority.riskTolerance ∈ policy.allowedRiskTolerance ∧
      (authority.riskTolerance = "high" →
        policy.minConfidenceIrreversible ≤ confidence.confidenceScore.val) := by
  obtain ⟨_, validated, eligible⟩ := Result.bind_eq_ok.mp eligible
  refine ⟨validateCommitment_ok.mp validated, ?_⟩
  dsimp only at eligible
  split at eligible
  · cases Result.pure_eq_ok.mp eligible
  rename_i enough
  split at eligible
  · cases Result.pure_eq_ok.mp eligible
  rename_i allowed
  split at eligible
  · cases Result.pure_eq_ok.mp eligible
  rename_i irreversible
  refine ⟨not_lt.mp enough, not_not.mp allowed, fun high => ?_⟩
  by_contra short
  exact irreversible ⟨high, not_le.mp short⟩

end CosMonitor
