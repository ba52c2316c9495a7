/-
**Refuted knowledge — the propose, commit and evaluation cycles over one database.**

An evaluation task runs statement by statement and may falsify a hypothesis at any time. A propose or a
commit cycle is one step: it reads the tables, and any part of what it sends arrives, in any order. Each
row that a cycle stores is recorded next to the hypotheses as they stood in that cycle.

* `formulateHypothesis_cases`: the gates of an offer, and nothing else, decide whether it is made;
* `knowledgeCycles`: the system of all steps;
* `OffersRefuted`, `CommitsRefuted`: the states in which a cycle acts on a falsified hypothesis;
* `refuted_unacted`: in the runs whose cycles start in no such state, no stored row is from a hypothesis
  that was falsified then.
-/

import CosMonitor.Action.Starvation
import CosMonitor.Evaluation.Runs

namespace CosMonitor

open Table

/-! ### The gates of an offer -/

/-- The gates that an offer passes: its hypothesis is calibrated, a context behind it is active, and the
action space has an entry for the domain and the purpose of the context. -/
structure OfferGates (actionSpace : List ActionSpaceEntry) (understanding : Understanding)
    (confidences : List Confidence) (hypothesis : Hypothesis) (confidence : Confidence)
    (context : Context) (domain : String) (entry : ActionSpaceEntry) : Prop where
  calibrated : getConfidence hypothesis.tenantId .hypothesis hypothesis.id confidences = some confidence
  active : resolveActiveContext hypothesis (listAnomalies hypothesis.tenantId understanding.anomalies)
    (listContexts hypothesis.tenantId understanding.contexts) = some context
  resolved : resolveDomain context = some domain
  covered : selectActionSpace actionSpace (some domain) context.purpose = some entry

/-- The action that an entry leads with, as an offer describes it. -/
def ActionSpaceEntry.describedLeading (entry : ActionSpaceEntry) (domain : String) : String :=
  (actionDescriptionTemplates.lookup (entry.leading domain)).getD (entry.leading domain)

/-- The id of the offer for a hypothesis. -/
def offerId (std : Stdlib) (hypothesis : Hypothesis) (confidence : Confidence) (domain : String)
    (entry : ActionSpaceEntry) : Uuid :=
  recommendationId std hypothesis.tenantId hypothesis.id confidence.id (entry.describedLeading domain)

section Gates

variable {std : Stdlib} {formats : TextFormats} {actionSpace : List ActionSpaceEntry}
  {understanding : Understanding} {confidences : List Confidence} {hypothesis : Hypothesis}
  {confidence : Confidence} {context : Context} {domain : String} {entry : ActionSpaceEntry}

theorem selectActionSpace_spec {purpose : String}
    (selected : selectActionSpace actionSpace (some domain) purpose = some entry) :
    entry.domain = domain ∧ (entry.purposes = [] ∨ purpose ∈ entry.purposes) := by
  rw [selectActionSpace, Option.bind_some] at selected
  simpa only [decide_eq_true_iff] using List.find?_some selected

theorem resolveActiveContext_mem {anomalies : List Anomaly} {contexts : List Context}
    (resolved : resolveActiveContext hypothesis anomalies contexts = some context) :
    context ∈ contexts :=
  List.mem_of_find?_eq_some resolved

theorem mem_listContexts {tenantId : Uuid} {rows : List Context} :
    context ∈ listContexts tenantId rows ↔ context ∈ rows ∧ context.tenantId = tenantId := by
  unfold listContexts
  rw [Sorting.mem_sortBy, List.mem_filter, decide_eq_true_iff]

/-- **Behind its gates a formulation makes an offer**: no check of it can fail. -/
theorem OfferGates.formulates
    (gates : OfferGates actionSpace understanding confidences hypothesis confidence context domain entry)
    (now : Timestamp) :
    ∃ create, formulate formats hypothesis confidence context entry now = .ok (some create) ∧
      create.hypothesisId = hypothesis.id ∧
      (buildRecommendation std create).id = offerId std hypothesis confidence domain entry := by
  obtain ⟨-, isType, isTarget, isTenant, -⟩ := getConfidence_spec gates.calibrated
  obtain ⟨isDomain, applies⟩ := selectActionSpace_spec gates.covered
  have ofTenant : context.tenantId = hypothesis.tenantId :=
    (mem_listContexts.mp (resolveActiveContext_mem gates.active)).2
  have validated : validateOffer hypothesis confidence context = .ok () := by
    unfold validateOffer
    rw [if_neg (not_not.mpr isType), if_neg (not_not.mpr isTarget), if_neg]
    rw [not_or]
    exact ⟨not_not.mpr isTenant, not_not.mpr ofTenant⟩
  have inPurpose : ¬(entry.purposes ≠ [] ∧ context.purpose ∉ entry.purposes) := by
    rintro ⟨some, outside⟩
    rcases applies with none | inside
    · exact some none
    · exact outside inside
  unfold formulate
  rw [validated, Result.ok_bind, gates.resolved]
  dsimp only
  rw [if_neg (not_not.mpr isDomain.symm), if_neg inPurpose]
  exact ⟨_, rfl, rfl, rfl⟩

/-- **The gates decide**: the body of the loop makes an offer when they are open, skips the hypothesis
when one of them is not, and never raises. -/
theorem formulateHypothesis_cases (now : Timestamp) :
    ((¬∃ confidence context domain entry, OfferGates actionSpace understanding confidences hypothesis
        confidence context domain entry) ∧
      formulateHypothesis std formats actionSpace hypothesis.tenantId confidences
        (listAnomalies hypothesis.tenantId understanding.anomalies)
        (listContexts hypothesis.tenantId understanding.contexts) now hypothesis = .ok none) ∨
    ∃ confidence context domain entry offer,
      OfferGates actionSpace understanding confidences hypothesis confidence context domain entry ∧
      formulateHypothesis std formats actionSpace hypothesis.tenantId confidences
        (listAnomalies hypothesis.tenantId understanding.anomalies)
        (listContexts hypothesis.tenantId understanding.contexts) now hypothesis = .ok (some offer) ∧
      offer.hypothesisId = hypothesis.id ∧
      offer.id = offerId std hypothesis confidence domain entry := by
  unfold formulateHypothesis
  split
  · rename_i uncalibrated
    refine .inl ⟨?_, rfl⟩
    rintro ⟨_, _, _, _, gates⟩
    exact nomatch uncalibrated.symm.trans gates.calibrated
  rename_i confidence calibrated
  split
  · rename_i inactive
    refine .inl ⟨?_, rfl⟩
    rintro ⟨_, _, _, _, gates⟩
    exact nomatch inactive.symm.trans gates.active
  rename_i context active
  split
  · rename_i uncovered
    refine .inl ⟨?_, rfl⟩
    rintro ⟨_, other, _, _, gates⟩
    obtain rfl := Option.some.inj (active.symm.trans gates.active)
    rw [gates.resolved] at uncovered
    exact nomatch uncovered.symm.trans gates.covered
  rename_i entry covered
  cases resolved : resolveDomain context with
  | none =>
      rw [resolved] at covered
      cases covered
  | some domain =>
      rw [resolved] at covered
      have gates : OfferGates actionSpace understanding confidences hypothesis confidence context
        domain entry := ⟨calibrated, active, resolved, covered⟩
      obtain ⟨create, formulated, ofHypothesis, derived⟩ := gates.formulates now
      refine .inr ⟨confidence, context, domain, entry, buildRecommendation std create, gates, ?_,
        ofHypothesis, derived⟩
      rw [formulated]
      rfl

end Gates

/-! ### What the cycles send -/

section Sent

/-- A hypothesis of the first page of its tenant gets the offer of an id. -/
def GetsOffer (std : Stdlib) (actionSpace : List ActionSpaceEntry) (understanding : Understanding)
    (confidences : List Confidence) (hypothesis : Hypothesis) (id : Uuid) : Prop :=
  hypothesis ∈ listHypotheses hypothesis.tenantId 500 0 understanding.hypotheses ∧
    ∃ confidence context domain entry, OfferGates actionSpace understanding confidences hypothesis
      confidence context domain entry ∧ offerId std hypothesis confidence domain entry = id

variable {std : Stdlib} {formats : TextFormats} {actionSpace : List ActionSpaceEntry}
  {clock : Uuid → Timestamp} {understanding : Understanding} {confidences : List Confidence}

theorem formulateTenant_finished (tenantId : Uuid) :
    (formulateTenant std formats actionSpace clock understanding confidences tenantId).2 = none := by
  refine Result.collect_total fun hypothesis listed => ?_
  obtain rfl := (mem_listHypotheses listed).2
  rcases formulateHypothesis_cases (clock hypothesis.id) with
    ⟨-, skipped⟩ | ⟨_, _, _, _, offer, -, returned, -⟩
  · exact ⟨none, skipped⟩
  · exact ⟨some offer, returned⟩

/-- **Where an offer comes from**: a hypothesis that gets it. -/
theorem recommendationsSent_from {offer : Recommendation}
    (sent : offer ∈ recommendationsSent std formats actionSpace clock understanding confidences) :
    ∃ hypothesis, GetsOffer std actionSpace understanding confidences hypothesis offer.id ∧
      offer.hypothesisId = hypothesis.id := by
  obtain ⟨tenantId, -, collected⟩ := List.mem_flatMap.mp sent
  obtain ⟨hypothesis, listed, returned⟩ := Result.mem_collect collected
  obtain rfl := (mem_listHypotheses listed).2
  rcases formulateHypothesis_cases (clock hypothesis.id) with
    ⟨-, skipped⟩ | ⟨confidence, context, domain, entry, other, gates, made, ofHypothesis, derived⟩
  · cases skipped.symm.trans returned
  · cases made.symm.trans returned
    exact ⟨hypothesis, ⟨listed, confidence, context, domain, entry, gates, derived.symm⟩,
      ofHypothesis⟩

/-- **Every hypothesis that gets an offer** has it sent. -/
theorem GetsOffer.sent {hypothesis : Hypothesis} {id : Uuid}
    (gets : GetsOffer std actionSpace understanding confidences hypothesis id)
    (formats : TextFormats) (clock : Uuid → Timestamp) :
    ∃ offer ∈ recommendationsSent std formats actionSpace clock understanding confidences,
      offer.hypothesisId = hypothesis.id ∧ offer.id = id := by
  obtain ⟨listed, confidence, context, domain, entry, gates, isId⟩ := gets
  have ofTenant : hypothesis.tenantId ∈ hypothesisTenants understanding.hypotheses :=
    List.mem_dedup.mpr (List.mem_map_of_mem (mem_listHypotheses listed).1)
  rcases formulateHypothesis_cases (clock hypothesis.id) with
    ⟨closed, -⟩ | ⟨_, _, _, _, made, open', returned, ofHypothesis, derived⟩
  · exact absurd ⟨_, _, _, _, gates⟩ closed
  obtain rfl := Option.some.inj (open'.calibrated.symm.trans gates.calibrated)
  obtain rfl := Option.some.inj (open'.active.symm.trans gates.active)
  obtain rfl := Option.some.inj (open'.resolved.symm.trans gates.resolved)
  obtain rfl := Option.some.inj (open'.covered.symm.trans gates.covered)
  rcases Result.collect_finished (formulateTenant_finished hypothesis.tenantId) listed with
    skipped | ⟨offer, collected, returnedToo⟩
  · cases skipped.symm.trans returned
  · cases returnedToo.symm.trans returned
    exact ⟨made, List.mem_flatMap.mpr ⟨_, ofTenant, collected⟩, ofHypothesis, derived.trans isId⟩

/-- A recommendation gets its decision: a listed confidence makes it eligible. -/
def GetsDecision (service : DecisionService) (confidences : List Confidence)
    (recommendation : Recommendation) : Prop :=
  ∃ confidence, confidenceOf (listConfidence recommendation.tenantId 500 0 confidences)
      recommendation.confidenceId = some confidence ∧
    CommitEligible service recommendation confidence

variable {service : DecisionService} {recommendations : List Recommendation}

/-- **Where a decision comes from**: a recommendation that gets it. -/
theorem decisionsSent_from {decision : Decision}
    (sent : decision ∈ decisionsSent std service clock recommendations confidences) :
    ∃ recommendation ∈ recommendations, GetsDecision service confidences recommendation ∧
      decision.recommendationId = recommendation.id ∧
      decision.id = recommendation.decisionId std := by
  obtain ⟨tenantId, -, collected⟩ := List.mem_flatMap.mp sent
  obtain ⟨recommendation, listed, returned⟩ := Result.mem_collect collected
  obtain ⟨stored, rfl⟩ := mem_listRecommendations.mp listed
  obtain ⟨confidence, -, -, -, found, eligible, -⟩ := commitRecommendation_returned returned
  obtain ⟨_, -, _, -, -, satisfies⟩ := commitRecommendation_satisfies returned
  exact ⟨recommendation, stored, ⟨confidence, found, eligible⟩, satisfies.ofRecommendation,
    commitRecommendation_id returned⟩

/-- **Every recommendation that gets a decision** has it sent by a cycle that raises nothing. -/
theorem GetsDecision.sent {recommendation : Recommendation} (stored : recommendation ∈ recommendations)
    (gets : GetsDecision service confidences recommendation)
    (succeeds : DecisionCycleSucceeds std service clock recommendations confidences) :
    ∃ decision ∈ decisionsSent std service clock recommendations confidences,
      decision.recommendationId = recommendation.id ∧
      decision.id = recommendation.decisionId std := by
  obtain ⟨confidence, found, eligible⟩ := gets
  have ofTenant : recommendation.tenantId ∈ recommendationTenants recommendations :=
    List.mem_dedup.mpr (List.mem_map_of_mem stored)
  have listed : recommendation ∈ listRecommendations recommendation.tenantId recommendations :=
    mem_listRecommendations.mpr ⟨stored, rfl⟩
  rcases Result.collect_finished (succeeds _ ofTenant) listed with
    skipped | ⟨decision, collected, returned⟩
  · exact absurd skipped (commitRecommendation_eligible found eligible _)
  obtain ⟨_, -, _, -, -, satisfies⟩ := commitRecommendation_satisfies returned
  exact ⟨decision, List.mem_flatMap.mpr ⟨_, ofTenant, collected⟩, satisfies.ofRecommendation,
    commitRecommendation_id returned⟩

end Sent

/-! ### States -/

/-- A recommendation that a propose cycle stored, and the hypotheses in that cycle. -/
structure Proposed where
  recommendation : Recommendation
  hypotheses : List Hypothesis

/-- A decision that a commit cycle stored, and the recommendations and the hypotheses in that cycle. -/
structure Committed where
  decision : Decision
  recommendations : List Recommendation
  hypotheses : List Hypothesis

/-- The tables of the cycles, and the running evaluation tasks. -/
structure CycleTables extends EvaluationState where
  anomalies : List Anomaly
  contexts : List Context
  recommendations : List Recommendation
  decisions : List Decision
  recommendationsKeyed : (recommendations.map Recommendation.id).Nodup

/-- The tables, and what the cycles have stored so far. -/
structure CycleState extends CycleTables where
  proposed : List Proposed
  committed : List Committed

/-- The tables before any cycle. -/
def CycleTables.start (tables : CycleTables) : CycleState where
  toCycleTables := tables
  proposed := []
  committed := []

/-- What a propose cycle reads next to the confidences. -/
def CycleTables.understanding (tables : CycleTables) : Understanding where
  hypotheses := tables.hypotheses
  anomalies := tables.anomalies
  contexts := tables.contexts

namespace CycleState

/-- Some offers arrive in the recommendation store. -/
def propose (state : CycleState) (saves : List Recommendation) : CycleState :=
  let after := insertEach Recommendation.id saves state.recommendations
  { state with
    recommendations := after
    recommendationsKeyed := insertEach_nodup saves state.recommendationsKeyed
    proposed := state.proposed ++
      ((after.filter fun row => decide (row.id ∉ state.recommendations.map Recommendation.id)).map
        fun row => ⟨row, state.hypotheses⟩) }

/-- Some decisions arrive in the decision store. -/
def commit (state : CycleState) (saves : List Decision) : CycleState :=
  let after := insertEach Decision.id saves state.decisions
  { state with
    decisions := after
    committed := state.committed ++
      ((after.filter fun row => decide (row.id ∉ state.decisions.map Decision.id)).map
        fun row => ⟨row, state.recommendations, state.hypotheses⟩) }

/-- **No stored row is from a refuted hypothesis**: the hypothesis of a recommendation was not falsified
in the cycle that stored the recommendation, nor in the one that stored a decision over it. -/
def ActsUnrefuted (state : CycleState) : Prop :=
  (∀ entry ∈ state.proposed, ∀ hypothesis ∈ entry.hypotheses,
    hypothesis.id = entry.recommendation.hypothesisId → hypothesis.status ≠ "falsified") ∧
  ∀ entry ∈ state.committed, ∀ recommendation ∈ entry.recommendations,
    recommendation.id = entry.decision.recommendationId →
    ∀ hypothesis ∈ entry.hypotheses, hypothesis.id = recommendation.hypothesisId →
      hypothesis.status ≠ "falsified"

end CycleState

/-- What can happen next. -/
inductive CycleEvent where
  /-- a step of an evaluation task, or of a service that writes the tables an evaluation reads -/
  | evaluation (event : EvaluationEvent)
  /-- the other services write the anomalies and the contexts -/
  | perceive (anomalies : List Anomaly) (contexts : List Context)
  /-- a propose cycle, of which some saves arrive -/
  | propose (clock : Uuid → Timestamp) (saves : List Recommendation)
  /-- a commit cycle, of which some saves arrive -/
  | commit (clock : Uuid → Timestamp) (saves : List Decision)

section Steps

variable (deployment : ActionDeployment) (service : EvaluationService)

/-- What a propose cycle sends. -/
def ActionDeployment.offersSent (clock : Uuid → Timestamp) (state : CycleState) :
    List Recommendation :=
  recommendationsSent deployment.std deployment.formats deployment.actionSpace clock
    state.understanding state.confidences

/-- What a commit cycle sends. -/
def ActionDeployment.commitmentsSent (clock : Uuid → Timestamp) (state : CycleState) :
    List Decision :=
  decisionsSent deployment.std deployment.service clock state.recommendations state.confidences

/-- The evaluation, the propose and the commit cycles in any order. -/
def knowledgeCycles : Transition.System CycleState CycleEvent where
  step := fun state event =>
    match event with
    | .evaluation event =>
        ((evaluationCycles service).step state.toEvaluationState event).map fun after =>
          { state with toEvaluationState := after }
    | .perceive anomalies contexts => some { state with anomalies, contexts }
    | .propose clock saves =>
        if saves.Subperm (deployment.offersSent clock state) then some (state.propose saves) else none
    | .commit clock saves =>
        if saves.Subperm (deployment.commitmentsSent clock state) then some (state.commit saves)
        else none

/-- A falsified hypothesis gets an offer that is not stored yet. -/
def OffersRefuted (state : CycleState) : Prop :=
  ∃ hypothesis id, GetsOffer deployment.std deployment.actionSpace state.understanding
      state.confidences hypothesis id ∧
    hypothesis.status = "falsified" ∧ id ∉ state.recommendations.map Recommendation.id

/-- A recommendation of a falsified hypothesis gets a decision that is not stored yet. -/
def CommitsRefuted (state : CycleState) : Prop :=
  ∃ recommendation ∈ state.recommendations,
    GetsDecision deployment.service state.confidences recommendation ∧
    (∃ hypothesis ∈ state.hypotheses, hypothesis.id = recommendation.hypothesisId ∧
      hypothesis.status = "falsified") ∧
    recommendation.decisionId deployment.std ∉ state.decisions.map Decision.id

/-- A cycle starts in no state in which it acts on a falsified hypothesis. -/
def Unrefuted (state : CycleState) : CycleEvent → Prop
  | .propose _ _ => ¬OffersRefuted deployment state
  | .commit _ _ => ¬CommitsRefuted deployment state
  | .evaluation _ | .perceive _ _ => True

end Steps

/-! ### Runs -/

section Runs

variable {deployment : ActionDeployment} {service : EvaluationService} {state : CycleState}
  {clock : Uuid → Timestamp}

theorem CycleState.hypothesis_unique (state : CycleState) {first second : Hypothesis}
    (isFirst : first ∈ state.hypotheses) (isSecond : second ∈ state.hypotheses)
    (same : first.id = second.id) : first = second :=
  List.inj_on_of_nodup_map state.hypothesesKeyed isFirst isSecond same

theorem CycleState.recommendation_unique (state : CycleState) {first second : Recommendation}
    (isFirst : first ∈ state.recommendations) (isSecond : second ∈ state.recommendations)
    (same : first.id = second.id) : first = second :=
  List.inj_on_of_nodup_map state.recommendationsKeyed isFirst isSecond same

theorem CycleState.mem_proposed {saves : List Recommendation} {entry : Proposed} :
    entry ∈ (state.propose saves).proposed ↔ entry ∈ state.proposed ∨
      ∃ row ∈ insertEach Recommendation.id saves state.recommendations,
        row.id ∉ state.recommendations.map Recommendation.id ∧ ⟨row, state.hypotheses⟩ = entry := by
  simp only [CycleState.propose, List.mem_append, List.mem_map, List.mem_filter,
    decide_eq_true_iff, and_assoc]

theorem CycleState.mem_committed {saves : List Decision} {entry : Committed} :
    entry ∈ (state.commit saves).committed ↔ entry ∈ state.committed ∨
      ∃ row ∈ insertEach Decision.id saves state.decisions,
        row.id ∉ state.decisions.map Decision.id ∧
          ⟨row, state.recommendations, state.hypotheses⟩ = entry := by
  simp only [CycleState.commit, List.mem_append, List.mem_map, List.mem_filter,
    decide_eq_true_iff, and_assoc]

/-- **A propose cycle** in a state without a new offer for a falsified hypothesis. -/
theorem CycleState.ActsUnrefuted.propose {saves : List Recommendation}
    (acts : state.ActsUnrefuted) (none' : ¬OffersRefuted deployment state)
    (arrive : saves.Subperm (deployment.offersSent clock state)) :
    (state.propose saves).ActsUnrefuted := by
  refine ⟨fun entry recorded => ?_, acts.2⟩
  rcases CycleState.mem_proposed.mp recorded with old | ⟨row, stored, isNew, rfl⟩
  · exact acts.1 entry old
  intro hypothesis known same refuted
  -- A new row arrived in this cycle, so it is the offer of a listed hypothesis.
  have arrived : row ∈ saves :=
    (mem_insertEach stored).resolve_left fun old => isNew (List.mem_map_of_mem old)
  obtain ⟨origin, gets, ofOrigin⟩ := recommendationsSent_from (arrive.subset arrived)
  obtain rfl : hypothesis = origin := state.hypothesis_unique known (mem_listHypotheses gets.1).1
    (same.trans ofOrigin)
  exact none' ⟨hypothesis, row.id, gets, refuted, isNew⟩

/-- **A commit cycle** in a state without a new decision for a falsified hypothesis. -/
theorem CycleState.ActsUnrefuted.commit {saves : List Decision} (acts : state.ActsUnrefuted)
    (none' : ¬CommitsRefuted deployment state)
    (arrive : saves.Subperm (deployment.commitmentsSent clock state)) :
    (state.commit saves).ActsUnrefuted := by
  refine ⟨acts.1, fun entry recorded => ?_⟩
  rcases CycleState.mem_committed.mp recorded with old | ⟨row, stored, isNew, rfl⟩
  · exact acts.2 entry old
  intro recommendation offered ofRow hypothesis known same refuted
  have arrived : row ∈ saves :=
    (mem_insertEach stored).resolve_left fun old => isNew (List.mem_map_of_mem old)
  obtain ⟨origin, originStored, gets, ofOrigin, derived⟩ :=
    decisionsSent_from (arrive.subset arrived)
  obtain rfl : recommendation = origin :=
    state.recommendation_unique offered originStored (ofRow.trans ofOrigin)
  rw [derived] at isNew
  exact none' ⟨recommendation, offered, gets, ⟨hypothesis, known, same, refuted⟩, isNew⟩

/-- **A step.** -/
theorem CycleState.ActsUnrefuted.step {event : CycleEvent} {after : CycleState}
    (acts : state.ActsUnrefuted) (unrefuted : Unrefuted deployment state event)
    (stepped : (knowledgeCycles deployment service).step state event = some after) :
    after.ActsUnrefuted := by
  cases event with
  | evaluation event =>
      obtain ⟨next, -, rfl⟩ := Option.map_eq_some_iff.mp stepped
      exact acts
  | perceive anomalies contexts =>
      rw [← Option.some.inj stepped]
      exact acts
  | propose clock saves =>
      obtain ⟨arrive, ran⟩ := Option.ite_none_right_eq_some.mp stepped
      rw [← Option.some.inj ran]
      exact acts.propose unrefuted arrive
  | commit clock saves =>
      obtain ⟨arrive, ran⟩ := Option.ite_none_right_eq_some.mp stepped
      rw [← Option.some.inj ran]
      exact acts.commit unrefuted arrive

/-- **A propose cycle that breaks it**: the offer of the falsified hypothesis arrives first. -/
theorem OffersRefuted.acted (offers : OffersRefuted deployment state) (clock : Uuid → Timestamp) :
    ∃ saves after, saves.Perm (deployment.offersSent clock state) ∧
      (knowledgeCycles deployment service).step state (.propose clock saves) = some after ∧
      ¬after.ActsUnrefuted := by
  obtain ⟨hypothesis, id, gets, refuted, isNew⟩ := offers
  obtain ⟨offer, sent, ofHypothesis, rfl⟩ := gets.sent deployment.formats clock
  let saves := offer :: (deployment.offersSent clock state).erase offer
  have arrive : saves.Perm (deployment.offersSent clock state) := (List.perm_cons_erase sent).symm
  refine ⟨saves, state.propose saves, arrive, if_pos arrive.subperm, fun acts => ?_⟩
  refine acts.1 ⟨offer, state.hypotheses⟩ (CycleState.mem_proposed.mpr (.inr ?_)) hypothesis
    (mem_listHypotheses gets.1).1 ofHypothesis.symm refuted
  exact ⟨offer, first_mem_insertEach _ isNew, isNew, rfl⟩

/-- **A commit cycle that breaks it**: the decision for the falsified hypothesis arrives first. -/
theorem CommitsRefuted.acted (commits : CommitsRefuted deployment state)
    (succeeds : DecisionCycleSucceeds deployment.std deployment.service clock state.recommendations
      state.confidences) :
    ∃ saves after, saves.Perm (deployment.commitmentsSent clock state) ∧
      (knowledgeCycles deployment service).step state (.commit clock saves) = some after ∧
      ¬after.ActsUnrefuted := by
  obtain ⟨recommendation, stored, gets, ⟨hypothesis, known, same, refuted⟩, isNew⟩ := commits
  obtain ⟨decision, sent, ofRecommendation, derived⟩ := gets.sent stored succeeds
  rw [← derived] at isNew
  let saves := decision :: (deployment.commitmentsSent clock state).erase decision
  have arrive : saves.Perm (deployment.commitmentsSent clock state) :=
    (List.perm_cons_erase sent).symm
  refine ⟨saves, state.commit saves, arrive, if_pos arrive.subperm, fun acts => ?_⟩
  refine acts.2 ⟨decision, state.recommendations, state.hypotheses⟩
    (CycleState.mem_committed.mpr (.inr ?_)) recommendation stored ofRecommendation.symm hypothesis
    known same refuted
  exact ⟨decision, first_mem_insertEach _ isNew, isNew, rfl⟩

theorem unrefuted_of_none {state : CycleState}
    (unrefuted : ∀ hypothesis ∈ state.hypotheses, hypothesis.status ≠ "falsified")
    (event : CycleEvent) : Unrefuted deployment state event := by
  cases event with
  | evaluation event => exact trivial
  | perceive anomalies contexts => exact trivial
  | propose clock saves =>
      rintro ⟨hypothesis, id, gets, refuted, -⟩
      exact unrefuted hypothesis (mem_listHypotheses gets.1).1 refuted
  | commit clock saves =>
      rintro ⟨recommendation, -, -, ⟨hypothesis, known, -, refuted⟩, -⟩
      exact unrefuted hypothesis known refuted

end Runs

/-- **When refuted knowledge drives no action.** In a run whose propose cycles start in no state with a
new offer for a falsified hypothesis, and whose commit cycles start in none with a new decision for one,
no stored recommendation and no stored decision is from a hypothesis that was falsified in its cycle.
From any other state a cycle stores such a row, when all that it sends arrives with that row first. -/
theorem refuted_unacted (deployment : ActionDeployment) (service : EvaluationService)
    (tables : CycleTables) :
    (∀ state, (knowledgeCycles deployment service).Reachable (Unrefuted deployment) tables.start state →
      state.ActsUnrefuted) ∧
    (∀ state clock, OffersRefuted deployment state →
      ∃ saves after, saves.Perm (deployment.offersSent clock state) ∧
        (knowledgeCycles deployment service).step state (.propose clock saves) = some after ∧
        ¬after.ActsUnrefuted) ∧
    ∀ state clock, CommitsRefuted deployment state →
      DecisionCycleSucceeds deployment.std deployment.service clock state.recommendations
        state.confidences →
      ∃ saves after, saves.Perm (deployment.commitmentsSent clock state) ∧
        (knowledgeCycles deployment service).step state (.commit clock saves) = some after ∧
        ¬after.ActsUnrefuted := by
  refine ⟨fun state reached => ?_, fun state clock offers => offers.acted clock,
    fun state clock commits succeeds => commits.acted succeeds⟩
  refine reached.invariant ?_ fun before event after acts unrefuted stepped =>
    acts.step unrefuted stepped
  exact ⟨(fun _ recorded => nomatch recorded), (fun _ recorded => nomatch recorded)⟩

/-! ### A crash that did not happen -/

/-- A service that crashed, and an evidence that it answers. -/
def refutedTables : CycleTables where
  hypotheses := [crashHypothesis "candidate"]
  evidence := [leakEvidence 32 "requests succeed" 1]
  confidences := [crashConfidence 21 5 0]
  evaluations := []
  hypothesesKeyed := List.nodup_singleton _
  evaluationsKeyed := List.nodup_nil
  referenced := fun _ stored => nomatch stored
  tasks := []
  anomalies := [crashAnomaly]
  contexts := [crashContext]
  recommendations := []
  decisions := []
  recommendationsKeyed := List.nodup_nil

/-- The offer for the crash, as the cycle makes it. -/
def refutedOffers (status : String) : List Recommendation :=
  recommendationsSent countingStd defaultDeployment.formats actionSpaceLibrary (fun _ => 0)
    ⟨[crashHypothesis status], [crashAnomaly], [crashContext]⟩ [crashConfidence 21 5 0]

/-- A propose and a commit cycle, of which everything arrives. -/
def actedCycles (status : String) : List CycleEvent :=
  [.propose (fun _ => 0) (refutedOffers status),
    .commit (fun _ => 0) (decisionsSent countingStd defaultDeployment.service (fun _ => 0)
      (refutedOffers status) [crashConfidence 21 5 0])]

/-- An evaluation cycle that falsifies the hypothesis. -/
def falsifyingCycle : List CycleEvent :=
  .evaluation .cycle :: List.replicate 5 (.evaluation (.advance 0 0))

/-- The hypothesis was falsified, and an offer for it is stored. -/
def falsifiedTables : CycleTables :=
  { refutedTables with
    hypotheses := [crashHypothesis "falsified"]
    hypothesesKeyed := List.nodup_singleton _
    referenced := (fun _ stored => nomatch stored)
    recommendations := [crashOffer 21]
    recommendationsKeyed := List.nodup_singleton _ }

theorem falsified_offers : OffersRefuted defaultDeployment falsifiedTables.start := by
  have sent : (refutedOffers "falsified").any (fun offer =>
      decide (offer.id ∉ [crashOffer 21].map Recommendation.id)) = true := by decide +kernel
  obtain ⟨offer, member, isNew⟩ := List.any_eq_true.mp sent
  obtain ⟨hypothesis, gets, -⟩ := recommendationsSent_from member
  refine ⟨hypothesis, offer.id, gets, ?_, of_decide_eq_true isNew⟩
  rw [List.mem_singleton.mp (mem_listHypotheses gets.1).1]
  rfl

theorem falsified_commits : CommitsRefuted defaultDeployment falsifiedTables.start :=
  ⟨crashOffer 21, List.mem_singleton_self _,
    ⟨crashConfidence 21 5 0, by decide +kernel, crashOffer_eligible 21 5 0⟩,
    ⟨crashHypothesis "falsified", List.mem_singleton_self _, rfl, rfl⟩, (fun stored => nomatch stored)⟩

/-- A hypothesis is acted on first and falsified afterwards; where it is falsified first, a propose and
a commit cycle act on it. -/
theorem refuted_unacted_crash :
    (∃ state : CycleState, state.ActsUnrefuted ∧ state.proposed.length = 1 ∧
      state.committed.length = 1 ∧ ∃ hypothesis ∈ state.hypotheses, hypothesis.status = "falsified") ∧
    (∃ saves after, (knowledgeCycles defaultDeployment reliableService).step falsifiedTables.start
      (.propose (fun _ => 0) saves) = some after ∧ ¬after.ActsUnrefuted) ∧
    ∃ saves after, (knowledgeCycles defaultDeployment reliableService).step falsifiedTables.start
      (.commit (fun _ => 0) saves) = some after ∧ ¬after.ActsUnrefuted := by
  obtain ⟨kept, offered, committed⟩ := refuted_unacted defaultDeployment reliableService refutedTables
  refine ⟨?_, ?_, ?_⟩
  · have ran : ((knowledgeCycles defaultDeployment reliableService).guardedRun
        (fun before _ => ∀ hypothesis ∈ before.hypotheses, hypothesis.status ≠ "falsified")
        refutedTables.start (actedCycles "candidate" ++ falsifyingCycle)).any (fun state =>
          decide (state.proposed.length = 1 ∧ state.committed.length = 1 ∧
            ∃ hypothesis ∈ state.hypotheses, hypothesis.status = "falsified")) = true := by
      decide +kernel
    obtain ⟨state, reached, stored⟩ := Transition.System.guardedRun_reaches ran
    exact ⟨state, kept state (reached.weaken fun _ event unrefuted =>
      unrefuted_of_none unrefuted event), stored⟩
  · obtain ⟨saves, after, -, broken⟩ := offered _ (fun _ => 0) falsified_offers
    exact ⟨saves, after, broken⟩
  · obtain ⟨saves, after, -, broken⟩ := committed _ (fun _ => 0) falsified_commits (by decide +kernel)
    exact ⟨saves, after, broken⟩

/-- **A refuted hypothesis is acted on**: an evaluation cycle falsifies it, the propose cycle offers an
action for it all the same, and the commit cycle decides on the offer. -/
theorem falsified_acted : ∃ state : CycleState,
    (knowledgeCycles defaultDeployment reliableService).Reachable (fun _ _ => True) refutedTables.start
      state ∧
    (∃ entry ∈ state.proposed, ∃ hypothesis ∈ entry.hypotheses,
      hypothesis.id = entry.recommendation.hypothesisId ∧ hypothesis.status = "falsified") ∧
    (∃ entry ∈ state.committed, ∃ recommendation ∈ entry.recommendations,
      recommendation.id = entry.decision.recommendationId ∧ ∃ hypothesis ∈ entry.hypotheses,
        hypothesis.id = recommendation.hypothesisId ∧ hypothesis.status = "falsified") ∧
    ¬state.ActsUnrefuted := by
  have ran : ((knowledgeCycles defaultDeployment reliableService).run refutedTables.start
      (falsifyingCycle ++ actedCycles "falsified")).any (fun state => decide (
        (∃ entry ∈ state.proposed, ∃ hypothesis ∈ entry.hypotheses,
          hypothesis.id = entry.recommendation.hypothesisId ∧ hypothesis.status = "falsified") ∧
        ∃ entry ∈ state.committed, ∃ recommendation ∈ entry.recommendations,
          recommendation.id = entry.decision.recommendationId ∧ ∃ hypothesis ∈ entry.hypotheses,
            hypothesis.id = recommendation.hypothesisId ∧ hypothesis.status = "falsified")) = true := by
    decide +kernel
  obtain ⟨state, -, reached, proposed, committed⟩ := Transition.System.run_reaches ran
  refine ⟨state, reached, proposed, committed, fun acts => ?_⟩
  obtain ⟨entry, recorded, hypothesis, known, same, refuted⟩ := proposed
  exact acts.1 entry recorded hypothesis known same refuted

end CosMonitor
