/-
**Runs of the propose and the commit cycles — what a decision is bound to.**

* `ActionInvariant`: the invariant. An offer was formulated with the confidence that was the most recent
  one of its hypothesis at some time of the run, and a decision satisfies the policy of its domain;
* `decisions_satisfy_policy`: every decision of a run satisfies the commitment policy, and the two
  threshold checks agree;
* `commitments_unrepeated`: a decision is as fresh as its offer, and no two decisions share the
  hypothesis, the action and the confidence;
* `stale_and_duplicate`: two calibrations of a hypothesis, and one commit cycle that commits both offers.
-/

import CosMonitor.Action.PipelineSteps

namespace CosMonitor

open Table

/-! ### The invariant -/

/-- The confidence that a recommendation names is stored, of its tenant and about its hypothesis. -/
def Recommendation.BoundIn (confidences : List Confidence) (recommendation : Recommendation) : Prop :=
  ∃ confidence ∈ confidences, confidence.id = recommendation.confidenceId ∧
    confidence.tenantId = recommendation.tenantId ∧ confidence.targetType = .hypothesis ∧
    confidence.targetId = recommendation.hypothesisId

section Runs

variable (deployment : ActionDeployment)

/-- The states of the runs from some tables, without a condition on the steps. -/
abbrev ActionRun (start state : ActionState) : Prop :=
  (pipeline deployment).Reachable (fun _ _ => True) start state

/-- The confidence that a recommendation names was the most recent one of its hypothesis at some time
of the run. -/
def FormulatedDuring (start state : ActionState) (recommendation : Recommendation) : Prop :=
  ∃ earlier, ActionRun deployment start earlier ∧ ActionRun deployment earlier state ∧
    ∃ confidence, getConfidence recommendation.tenantId .hypothesis recommendation.hypothesisId
      earlier.confidences = some confidence ∧ confidence.id = recommendation.confidenceId

/-- What an offer of the run satisfies. -/
structure OfferedDuring (start state : ActionState) (recommendation : Recommendation) : Prop where
  bound : recommendation.BoundIn state.confidences
  formulated : FormulatedDuring deployment start state recommendation
  derived : recommendation.id = recommendationId deployment.std recommendation.tenantId
    recommendation.hypothesisId recommendation.confidenceId recommendation.actionDescription

/-- What a decision of the run satisfies. -/
def CommittedDuring (state : ActionState) (decision : Decision) : Prop :=
  ∃ recommendation ∈ state.recommendations, ∃ confidence ∈ state.confidences, ∃ policy,
    confidence.id = recommendation.confidenceId ∧
    deployment.service.policyFor recommendation = .ok (some policy) ∧
    SatisfiesPolicy policy recommendation confidence decision ∧
    decision.id = decisionId deployment.std recommendation.tenantId recommendation.id
      recommendation.confidenceId

/-- The invariant of the runs. -/
structure ActionInvariant (start state : ActionState) : Prop where
  reached : ActionRun deployment start state
  confidences : start.confidences ⊆ state.confidences
  offers : ∀ task ∈ state.tasks, ∀ recommendation ∈ task.offers,
    OfferedDuring deployment start state recommendation
  listed : ∀ task ∈ state.tasks, ∀ recommendation ∈ task.listed, recommendation ∈ state.recommendations
  known : ∀ task ∈ state.tasks, ∀ confidence ∈ task.known, confidence ∈ state.confidences
  recommendations : ∀ recommendation ∈ state.recommendations,
    recommendation ∈ start.recommendations ∨ OfferedDuring deployment start state recommendation
  decisions : ∀ decision ∈ state.decisions,
    decision ∈ start.decisions ∨ CommittedDuring deployment state decision

variable {deployment} {start before after state : ActionState}

theorem PipelineStep.confidences_kept (stepped : PipelineStep deployment before after) :
    before.confidences ⊆ after.confidences := by
  rcases stepped.confidences with same | ⟨now, confidence, saved⟩
  · rw [same]
    exact List.Subset.refl _
  · rw [saved]
    exact subset_insertAbsent _ _ _

theorem PipelineStep.recommendations_kept (stepped : PipelineStep deployment before after) :
    before.recommendations ⊆ after.recommendations := by
  rcases stepped.recommendations with same | ⟨_, -, recommendation, -, saved⟩
  · rw [same]
    exact List.Subset.refl _
  · rw [saved]
    exact subset_insertAbsent _ _ _

theorem OfferedDuring.step {recommendation : Recommendation} (moved : ActionRun deployment before after)
    (kept : before.confidences ⊆ after.confidences)
    (offered : OfferedDuring deployment start before recommendation) :
    OfferedDuring deployment start after recommendation := by
  obtain ⟨⟨confidence, member, about⟩, ⟨earlier, first, second, found⟩, derived⟩ := offered
  exact ⟨⟨confidence, kept member, about⟩, ⟨earlier, first, second.trans moved, found⟩, derived⟩

theorem CommittedDuring.step {decision : Decision} (stepped : PipelineStep deployment before after)
    (committed : CommittedDuring deployment before decision) :
    CommittedDuring deployment after decision := by
  obtain ⟨recommendation, stored, confidence, known, rest⟩ := committed
  exact ⟨recommendation, stepped.recommendations_kept stored, confidence,
    stepped.confidences_kept known, rest⟩

theorem OfferedFor.during {tenantId : Uuid} {hypothesis : Hypothesis} {confidence : Confidence}
    {recommendation : Recommendation} (reached : ActionRun deployment start before)
    (moved : ActionRun deployment before after) (kept : before.confidences ⊆ after.confidences)
    (found : getConfidence tenantId .hypothesis hypothesis.id before.confidences = some confidence)
    (offered : OfferedFor deployment.std hypothesis confidence recommendation) :
    OfferedDuring deployment start after recommendation := by
  obtain ⟨stored, isType, isTarget, isTenant, -⟩ := getConfidence_spec found
  have sameTenant : confidence.tenantId = recommendation.tenantId :=
    offered.sameTenant.trans offered.ofTenant.symm
  refine ⟨⟨confidence, kept stored, offered.ofConfidence.symm, sameTenant, isType, ?_⟩,
    ⟨before, reached, moved, confidence, ?_, offered.ofConfidence.symm⟩, offered.derived⟩
  · rw [isTarget, offered.ofHypothesis]
  · rw [← sameTenant, isTenant, offered.ofHypothesis]
    exact found

/-- **Every step keeps the invariant.** -/
theorem ActionInvariant.step {event : ActionEvent} (holds : ActionInvariant deployment start before)
    (stepped : (pipeline deployment).step before event = some after) :
    ActionInvariant deployment start after := by
  have effect := pipeline_step stepped
  have moved : ActionRun deployment before after :=
    Transition.System.Reachable.tail .refl trivial stepped
  have kept := effect.confidences_kept
  exact {
    reached := holds.reached.trans moved
    confidences := List.Subset.trans holds.confidences kept
    offers := by
      intro task member recommendation offered
      rcases (effect.tasks task member).offers recommendation offered with ⟨old, oldIn, before⟩ | made
      · exact (holds.offers old oldIn recommendation before).step moved kept
      · obtain ⟨tenantId, hypothesis, confidence, found, isOffer⟩ := made
        exact isOffer.during holds.reached moved kept found
    listed := by
      intro task member recommendation isListed
      refine effect.recommendations_kept ?_
      rcases (effect.tasks task member).listed recommendation isListed with ⟨old, oldIn, before⟩ | stored
      · exact holds.listed old oldIn recommendation before
      · exact stored
    known := by
      intro task member confidence isKnown
      refine kept ?_
      rcases (effect.tasks task member).known confidence isKnown with ⟨old, oldIn, before⟩ | stored
      · exact holds.known old oldIn confidence before
      · exact stored
    recommendations := by
      intro recommendation stored
      have old : recommendation ∈ before.recommendations ∨
          OfferedDuring deployment start before recommendation := by
        rcases effect.recommendations with same | ⟨task, member, offer, offered, saved⟩
        · rw [same] at stored
          exact .inl stored
        · rw [saved] at stored
          refine (mem_insertAbsent stored).imp_right ?_
          rintro rfl
          exact holds.offers task member recommendation offered
      rcases old with old | offered
      · exact (holds.recommendations recommendation old).imp_right (·.step moved kept)
      · exact .inr (offered.step moved kept)
    decisions := by
      intro decision stored
      have old : decision ∈ before.decisions ∨ CommittedDuring deployment before decision := by
        rcases effect.decisions with same | ⟨task, member, recommendation, isListed, now, made, ran, saved⟩
        · rw [same] at stored
          exact .inl stored
        · rw [saved] at stored
          refine (mem_insertAbsent stored).imp_right ?_
          rintro rfl
          obtain ⟨confidence, isKnown, policy, bound, inForce, satisfied⟩ :=
            commitRecommendation_satisfies ran
          exact ⟨recommendation, holds.listed task member recommendation isListed, confidence,
            holds.known task member confidence isKnown, policy, bound, inForce, satisfied,
            commitRecommendation_id ran⟩
      rcases old with old | committed
      · exact (holds.decisions decision old).imp_right (·.step effect)
      · exact .inr (committed.step effect) }

/-- **The invariant holds in every run** that starts without a running task. -/
theorem actionInvariant {tables : ActionTables}
    (reached : ActionRun deployment tables.idle state) :
    ActionInvariant deployment tables.idle state := by
  refine reached.invariant ?_ fun before event after holds _ stepped => holds.step stepped
  exact {
    reached := .refl
    confidences := List.Subset.refl _
    offers := fun _ member => by cases member
    listed := fun _ member => by cases member
    known := fun _ member => by cases member
    recommendations := fun _ stored => .inl stored
    decisions := fun _ stored => .inl stored }

end Runs

/-! ### The commitment policy -/

/-- **Every decision satisfies the commitment policy.** In every run of the two cycles, from any tables
and in any interleaving, a decision that was not there before is bound to a stored confidence of its
tenant, the one that its recommendation names; it is about the hypothesis of the recommendation, unless
the recommendation was there before and did not name such a one. The score is at least the minimum of
the policy in force for the domain, a high-risk decision has the irreversible threshold, the policy
allows its risk, and its status is committed. Whenever a risk is resolved for a score, the eligibility
check for that risk and score says committable to all that pass the traceability guard. -/
theorem decisions_satisfy_policy (deployment : ActionDeployment) (tables : ActionTables)
    (state : ActionState) (reached : ActionRun deployment tables.idle state) :
    (∀ decision ∈ state.decisions, decision ∈ tables.decisions ∨
      ∃ recommendation ∈ state.recommendations, ∃ confidence ∈ state.confidences, ∃ policy,
        confidence.id = recommendation.confidenceId ∧
        ((recommendation ∈ tables.recommendations → recommendation.BoundIn tables.confidences) →
          confidence.targetType = .hypothesis ∧
            confidence.targetId = recommendation.hypothesisId) ∧
        deployment.service.policyFor recommendation = .ok (some policy) ∧
        SatisfiesPolicy policy recommendation confidence decision) ∧
      ∀ (policy : DecisionPolicyEntry) (recommendation : Recommendation) (confidence : Confidence)
        (risk : String), resolveRiskTolerance confidence.confidenceScore.val policy = some risk →
        ∀ (authorityId : Uuid) (label : String),
          commitEligibility recommendation confidence (some policy)
            (some { authorityId, label, riskTolerance := risk }) =
              (validateCommitment recommendation confidence).map fun _ => .committable := by
  have holds := actionInvariant reached
  constructor
  · intro decision stored
    refine (holds.decisions decision stored).imp_right ?_
    rintro ⟨recommendation, offered, confidence, known, policy, bound, inForce, satisfied, -⟩
    refine ⟨recommendation, offered, confidence, known, policy, bound, fun subject => ?_, inForce,
      satisfied⟩
    have boundIn : recommendation.BoundIn state.confidences := by
      rcases holds.recommendations recommendation offered with old | during
      · obtain ⟨other, otherIn, about⟩ := subject old
        exact ⟨other, holds.confidences otherIn, about⟩
      · exact during.bound
    obtain ⟨other, otherIn, sameId, -, isType, isTarget⟩ := boundIn
    obtain rfl := List.inj_on_of_nodup_map state.confidencesKeyed otherIn known
      (sameId.trans bound.symm)
    exact ⟨isType, isTarget⟩
  · intro policy recommendation confidence risk resolved authorityId label
    rcases validated : validateCommitment recommendation confidence with failure | passed
    · show (validateCommitment recommendation confidence >>= _) = _
      rw [validated]
      rfl
    · obtain ⟨bound, sameTenant⟩ := validateCommitment_ok.mp validated
      exact resolved_committable resolved bound sameTenant authorityId label

/-! ### Stale and repeated commitments -/

/-- No offer was made and no decision was taken. -/
def ActionTables.Unoffered (tables : ActionTables) : Prop :=
  tables.recommendations = [] ∧ tables.decisions = []

/-- **A decision is as fresh as its offer, and no commitment is repeated.** In every interleaving of
calibrations, propose cycles and commit cycles, every decision is bound to the confidence that its
recommendation was formulated with, which was the most recent one of its hypothesis when the propose
cycle read it; and two decisions never share the hypothesis, the action and the confidence. -/
theorem commitments_unrepeated (deployment : ActionDeployment) (tables : ActionTables)
    (unoffered : tables.Unoffered) (state : ActionState)
    (reached : ActionRun deployment tables.idle state) :
    (∀ decision ∈ state.decisions, ∃ recommendation ∈ state.recommendations,
      recommendation.id = decision.recommendationId ∧
      recommendation.confidenceId = decision.confidenceId ∧
      ∃ earlier, ActionRun deployment tables.idle earlier ∧ ActionRun deployment earlier state ∧
        ∃ confidence, getConfidence decision.tenantId .hypothesis recommendation.hypothesisId
          earlier.confidences = some confidence ∧ confidence.id = decision.confidenceId) ∧
      ∀ first ∈ state.decisions, ∀ second ∈ state.decisions,
        ∀ firstOffer ∈ state.recommendations, ∀ secondOffer ∈ state.recommendations,
          firstOffer.id = first.recommendationId → secondOffer.id = second.recommendationId →
          firstOffer.hypothesisId = secondOffer.hypothesisId →
          firstOffer.actionDescription = secondOffer.actionDescription →
          first.confidenceId = second.confidenceId → first = second := by
  have holds := actionInvariant reached
  have offered : ∀ recommendation ∈ state.recommendations,
      OfferedDuring deployment tables.idle state recommendation := by
    intro recommendation stored
    refine (holds.recommendations recommendation stored).resolve_left fun old => ?_
    rw [show tables.idle.recommendations = [] from unoffered.1] at old
    cases old
  have committed : ∀ decision ∈ state.decisions, CommittedDuring deployment state decision := by
    intro decision stored
    refine (holds.decisions decision stored).resolve_left fun old => ?_
    rw [show tables.idle.decisions = [] from unoffered.2] at old
    cases old
  constructor
  · intro decision stored
    obtain ⟨recommendation, isOffer, confidence, -, policy, bound, -, satisfied, -⟩ :=
      committed decision stored
    have sameConfidence : recommendation.confidenceId = decision.confidenceId :=
      bound.symm.trans satisfied.bound.symm
    obtain ⟨earlier, first, second, found, read, sameId⟩ := (offered recommendation isOffer).formulated
    refine ⟨recommendation, isOffer, satisfied.ofRecommendation.symm, sameConfidence, earlier, first,
      second, found, ?_, sameId.trans sameConfidence⟩
    rw [satisfied.ofTenant]
    exact read
  · intro first firstIn second secondIn firstOffer firstOfferIn secondOffer secondOfferIn firstIs
      secondIs sameHypothesis sameAction sameConfidence
    -- The offer that a decision names is the one that it was made from.
    have ofOffer : ∀ decision ∈ state.decisions, ∀ offer ∈ state.recommendations,
        offer.id = decision.recommendationId → offer.confidenceId = decision.confidenceId ∧
          decision.id = decisionId deployment.std offer.tenantId offer.id offer.confidenceId := by
      intro decision stored offer isOffer named
      obtain ⟨made, madeIn, confidence, -, policy, bound, -, satisfied, derived⟩ :=
        committed decision stored
      obtain rfl := List.inj_on_of_nodup_map state.recommendationsKeyed madeIn isOffer
        (satisfied.ofRecommendation.symm.trans named.symm)
      exact ⟨bound.symm.trans satisfied.bound.symm, derived⟩
    obtain ⟨firstConfidence, firstId⟩ := ofOffer first firstIn firstOffer firstOfferIn firstIs
    obtain ⟨secondConfidence, secondId⟩ := ofOffer second secondIn secondOffer secondOfferIn secondIs
    have named : firstOffer.confidenceId = secondOffer.confidenceId := by
      rw [firstConfidence, secondConfidence, sameConfidence]
    -- One confidence has one tenant.
    have sameTenant : firstOffer.tenantId = secondOffer.tenantId := by
      obtain ⟨one, oneIn, oneId, oneTenant, -⟩ := (offered firstOffer firstOfferIn).bound
      obtain ⟨other, otherIn, otherId, otherTenant, -⟩ := (offered secondOffer secondOfferIn).bound
      obtain rfl := List.inj_on_of_nodup_map state.confidencesKeyed oneIn otherIn
        (by rw [oneId, otherId, named])
      exact oneTenant.symm.trans otherTenant
    have sameOffer : firstOffer.id = secondOffer.id := by
      rw [(offered firstOffer firstOfferIn).derived, (offered secondOffer secondOfferIn).derived,
        sameTenant, sameHypothesis, named, sameAction]
    refine List.inj_on_of_nodup_map state.decisionsKeyed firstIn secondIn ?_
    rw [firstId, secondId, sameTenant, sameOffer, named]

/-! ### Two calibrations of one hypothesis -/

/-- The events of one propose cycle that makes one offer. -/
def proposeOnce : List ActionEvent :=
  .propose 1 :: List.replicate 5 (.advance 0 0)

/-- The events of one commit cycle over some recommendations. -/
def commitOnce (recommendations : Nat) : List ActionEvent :=
  .decide 1 :: List.replicate (recommendations + 2) (.advance 0 0)

theorem crash_committed : ∃ state, ActionRun defaultDeployment crashTables.idle state ∧
    state.decisions.length = 1 := by
  have ran : ((pipeline defaultDeployment).run crashTables.idle
      (.calibrate 1 (crashConfidence 21 5 0) :: proposeOnce ++ commitOnce 1)).any
        (fun state => decide (state.decisions.length = 1)) = true := by decide +kernel
  obtain ⟨state, -, reached, counted⟩ := Transition.System.run_reaches ran
  exact ⟨state, reached, counted⟩

/-- The decision of the crash satisfies the policy. -/
theorem decisions_satisfy_policy_crash : ∃ state : ActionState, ∃ decision ∈ state.decisions,
    ∃ recommendation ∈ state.recommendations, ∃ confidence ∈ state.confidences, ∃ policy,
      SatisfiesPolicy policy recommendation confidence decision := by
  obtain ⟨state, reached, counted⟩ := crash_committed
  obtain ⟨decision, stored⟩ := List.exists_mem_of_length_pos (by omega : 0 < state.decisions.length)
  refine ⟨state, decision, stored, ?_⟩
  rcases (decisions_satisfy_policy defaultDeployment crashTables state reached).1 decision stored with
    old | ⟨recommendation, offered, confidence, known, policy, -, -, -, satisfied⟩
  · cases old
  · exact ⟨recommendation, offered, confidence, known, policy, satisfied⟩

/-- The decision of the crash has the confidence that its offer was formulated with. -/
theorem commitments_unrepeated_crash : ∃ state : ActionState, ∃ decision ∈ state.decisions,
    ∃ recommendation ∈ state.recommendations, recommendation.id = decision.recommendationId ∧
      recommendation.confidenceId = decision.confidenceId := by
  obtain ⟨state, reached, counted⟩ := crash_committed
  obtain ⟨decision, stored⟩ := List.exists_mem_of_length_pos (by omega : 0 < state.decisions.length)
  obtain ⟨recommendation, offered, named, bound, -⟩ :=
    (commitments_unrepeated defaultDeployment crashTables ⟨rfl, rfl⟩ state reached).1 decision stored
  exact ⟨state, decision, stored, recommendation, offered, named, bound⟩

/-- A decision is not bound to the most recent confidence that its hypothesis had before. -/
def ActionState.Stale (before after : ActionState) : Prop :=
  ∃ decision ∈ after.decisions, ∃ recommendation ∈ after.recommendations,
    recommendation.id = decision.recommendationId ∧
    ∃ latest ∈ getConfidence decision.tenantId .hypothesis recommendation.hypothesisId
      before.confidences, latest.id ≠ decision.confidenceId

instance (before after : ActionState) : Decidable (ActionState.Stale before after) :=
  inferInstanceAs (Decidable (∃ _ ∈ _, ∃ _ ∈ _, _ ∧ ∃ _ ∈ _, _))

/-- Two decisions are about one hypothesis and one action. -/
def ActionState.Repeats (state : ActionState) : Prop :=
  ∃ first ∈ state.decisions, ∃ second ∈ state.decisions, first ≠ second ∧
    ∃ firstOffer ∈ state.recommendations, ∃ secondOffer ∈ state.recommendations,
      firstOffer.id = first.recommendationId ∧ secondOffer.id = second.recommendationId ∧
      firstOffer.hypothesisId = secondOffer.hypothesisId ∧
      firstOffer.actionDescription = secondOffer.actionDescription

instance (state : ActionState) : Decidable state.Repeats :=
  inferInstanceAs (Decidable (∃ _ ∈ _, ∃ _ ∈ _, _ ∧ ∃ _ ∈ _, ∃ _ ∈ _, _))

/-- A hypothesis is calibrated, offered, calibrated again and offered again. Then one commit cycle
commits both offers: the decision of the first one is bound to a confidence that was not the most recent
one when the cycle started, and both are about one hypothesis and one action. -/
theorem stale_and_duplicate : ∃ between after : ActionState,
    ActionRun defaultDeployment crashTables.idle between ∧
    between.tasks = [] ∧ between.decisions = [] ∧
    (pipeline defaultDeployment).run between (commitOnce 2) = some after ∧
    ActionState.Stale between after ∧ after.Repeats := by
  have ran : ((pipeline defaultDeployment).run crashTables.idle
      (.calibrate 1 (crashConfidence 21 5 0) :: proposeOnce ++
        .calibrate 2 (crashConfidence 22 5 0) :: proposeOnce)).any (fun between =>
          decide (between.tasks.length = 0 ∧ between.decisions.length = 0 ∧
            ((pipeline defaultDeployment).run between (commitOnce 2)).any (fun after =>
              decide (ActionState.Stale between after ∧ after.Repeats)) = true)) = true := by
    decide +kernel
  obtain ⟨between, -, reached, idle, undecided, committed⟩ := Transition.System.run_reaches ran
  obtain ⟨after, executed, -, stale, repeats⟩ := Transition.System.run_reaches committed
  exact ⟨between, after, reached, List.length_eq_zero_iff.mp idle, List.length_eq_zero_iff.mp undecided,
    executed, stale, repeats⟩

end CosMonitor
