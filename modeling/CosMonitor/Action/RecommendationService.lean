/-
**The recommendation service — one propose cycle over the hypotheses of every tenant.**

A tenant's task lists the first page of its hypotheses, its anomalies and its contexts, and formulates an
offer for every hypothesis with a confidence, an active context and an action space. The listing of the
hypotheses does not look at their status.

* `getConfidence`: the most recent confidence of a target;
* `formulateHypothesis`: the body of the loop;
* `formulateHypothesis_returned`: what an offer is made from;
* `formulateTenant`: the task of a tenant.
-/

import CosMonitor.Action.ActionSpace
import CosMonitor.Foundation.Sorting
import CosMonitor.Foundation.Table

namespace CosMonitor

open Table

/-! ### Reads -/

/-- `SELECT_LATEST_BY_TARGET`: the last confidence of a target in the order of `computed_at, id`. -/
def getConfidence (tenantId : Uuid) (targetType : TargetType) (targetId : Uuid)
    (rows : List Confidence) : Option Confidence :=
  ((rows.filter fun row => decide (row.targetType = targetType ∧ row.targetId = targetId ∧
      row.tenantId = tenantId)).insertionSort fun first second =>
    second.computedAt < first.computedAt ∨
      (second.computedAt = first.computedAt ∧ second.id ≤ first.id)).head?

/-- **The most recent confidence of a target**: a row of the target that precedes none of its rows. -/
theorem getConfidence_spec {tenantId : Uuid} {targetType : TargetType} {targetId : Uuid}
    {rows : List Confidence} {row : Confidence}
    (found : getConfidence tenantId targetType targetId rows = some row) :
    row ∈ rows ∧ row.targetType = targetType ∧ row.targetId = targetId ∧ row.tenantId = tenantId ∧
      ∀ other ∈ rows, other.targetType = targetType → other.targetId = targetId →
        other.tenantId = tenantId → ¬row.Precedes other := by
  let later : Confidence → Confidence → Prop := fun first second =>
    second.computedAt < first.computedAt ∨
      (second.computedAt = first.computedAt ∧ second.id ≤ first.id)
  have isKey : ∀ first second, later first second ↔
      OrderDual.toDual first.listingKey ≤ OrderDual.toDual second.listingKey := fun first second =>
    (@Confidence.listingKey_le_iff second first).symm
  let own := rows.filter fun row => decide (row.targetType = targetType ∧ row.targetId = targetId ∧
    row.tenantId = tenantId)
  have ordered := Sorting.pairwise_insertionSort isKey own
  have together : (own.insertionSort later).Perm own := List.perm_insertionSort _ _
  replace found : (own.insertionSort later).head? = some row := found
  rcases sorted : own.insertionSort later with _ | ⟨first, rest⟩
  · rw [sorted] at found
    cases found
  · rw [sorted, List.head?_cons, Option.some.injEq] at found
    rw [sorted, found] at ordered together
    obtain ⟨isRow, target⟩ := List.mem_filter.mp (together.mem_iff.mp List.mem_cons_self)
    obtain ⟨isType, isTarget, isTenant⟩ := of_decide_eq_true target
    refine ⟨isRow, isType, isTarget, isTenant, fun other otherIn otherType otherTarget otherTenant => ?_⟩
    have listed : other ∈ row :: rest := together.mem_iff.mpr
      (List.mem_filter.mpr ⟨otherIn, decide_eq_true ⟨otherType, otherTarget, otherTenant⟩⟩)
    rw [Confidence.precedes_iff, not_lt]
    rcases List.mem_cons.mp listed with rfl | inRest
    · exact le_refl _
    · exact List.rel_of_pairwise_cons ordered inRest

theorem getConfidence_isSome {tenantId : Uuid} {targetType : TargetType} {targetId : Uuid}
    {rows : List Confidence} {row : Confidence} (member : row ∈ rows)
    (target : row.targetType = targetType ∧ row.targetId = targetId ∧ row.tenantId = tenantId) :
    ∃ latest, getConfidence tenantId targetType targetId rows = some latest := by
  unfold getConfidence
  rw [← Option.isSome_iff_exists, List.isSome_head?]
  exact List.ne_nil_of_mem ((List.perm_insertionSort _ _).mem_iff.mpr
    (List.mem_filter.mpr ⟨member, decide_eq_true target⟩))

/-- `list_anomalies`: the rows of a tenant in the order of `detected_at`. -/
def listAnomalies (tenantId : Uuid) (rows : List Anomaly) : List Anomaly :=
  Sorting.sortBy Anomaly.detectedAt (rows.filter fun row => decide (row.tenantId = tenantId))

/-- `list_contexts`: the rows of a tenant in the order of `activated_at`. -/
def listContexts (tenantId : Uuid) (rows : List Context) : List Context :=
  Sorting.sortBy Context.activatedAt (rows.filter fun row => decide (row.tenantId = tenantId))

/-! ### The body of the loop -/

/-- Formulate the offer of one hypothesis; `none` when it is skipped. -/
def formulateHypothesis (std : Stdlib) (formats : TextFormats) (actionSpace : List ActionSpaceEntry)
    (tenantId : Uuid) (confidences : List Confidence) (anomalies : List Anomaly)
    (contexts : List Context) (now : Timestamp) (hypothesis : Hypothesis) :
    Except PyError (Option Recommendation) :=
  match getConfidence tenantId .hypothesis hypothesis.id confidences with
  | none => .ok none
  | some confidence =>
      match resolveActiveContext hypothesis anomalies contexts with
      | none => .ok none
      | some context =>
          match selectActionSpace actionSpace (resolveDomain context) context.purpose with
          | none => .ok none
          | some entry => do
              let create ← formulate formats hypothesis confidence context entry now
              return create.map (buildRecommendation std)

/-- What an offer carries of the hypothesis and the confidence that it is made from. -/
structure OfferedFor (std : Stdlib) (hypothesis : Hypothesis) (confidence : Confidence)
    (recommendation : Recommendation) : Prop where
  ofTenant : recommendation.tenantId = hypothesis.tenantId
  ofHypothesis : recommendation.hypothesisId = hypothesis.id
  ofConfidence : recommendation.confidenceId = confidence.id
  sameTenant : confidence.tenantId = hypothesis.tenantId
  proposed : recommendation.status = "proposed"
  derived : recommendation.id = recommendationId std recommendation.tenantId recommendation.hypothesisId
    recommendation.confidenceId recommendation.actionDescription

theorem formulate_create {formats : TextFormats} {hypothesis : Hypothesis} {confidence : Confidence}
    {context : Context} {actionSpace : ActionSpaceEntry} {now : Timestamp}
    {create : RecommendationCreate}
    (formulated : formulate formats hypothesis confidence context actionSpace now =
      .ok (some create)) :
    confidence.tenantId = hypothesis.tenantId ∧ create.tenantId = hypothesis.tenantId ∧
      create.hypothesisId = hypothesis.id ∧ create.confidenceId = confidence.id ∧
      create.status = "proposed" := by
  unfold formulate at formulated
  obtain ⟨_, validated, formulated⟩ := Result.bind_eq_ok.mp formulated
  have sameTenant : confidence.tenantId = hypothesis.tenantId := by
    unfold validateOffer at validated
    split at validated
    · cases validated
    split at validated
    · cases validated
    split at validated
    · cases validated
    rename_i same
    rw [not_or] at same
    exact not_not.mp same.1
  split at formulated
  · cases formulated
  dsimp only at formulated
  split at formulated
  · cases formulated
  split at formulated
  · cases formulated
  rw [← Option.some.inj (Result.pure_eq_ok.mp formulated)]
  exact ⟨sameTenant, rfl, rfl, rfl, rfl⟩

section Body

variable {std : Stdlib} {formats : TextFormats} {actionSpace : List ActionSpaceEntry}
  {tenantId : Uuid} {confidences : List Confidence} {anomalies : List Anomaly}
  {contexts : List Context} {now : Timestamp} {hypothesis : Hypothesis}
  {recommendation : Recommendation}

/-- **What an offer is made from**: the most recent confidence of its hypothesis. -/
theorem formulateHypothesis_returned
    (returned : formulateHypothesis std formats actionSpace tenantId confidences anomalies contexts now
      hypothesis = .ok (some recommendation)) :
    ∃ confidence, getConfidence tenantId .hypothesis hypothesis.id confidences = some confidence ∧
      OfferedFor std hypothesis confidence recommendation := by
  unfold formulateHypothesis at returned
  split at returned
  · cases returned
  rename_i confidence found
  split at returned
  · cases returned
  split at returned
  · cases returned
  obtain ⟨created, formulated, mapped⟩ := Result.bind_eq_ok.mp returned
  obtain ⟨create, rfl, built⟩ := Option.map_eq_some_iff.mp (Result.pure_eq_ok.mp mapped)
  obtain ⟨sameTenant, tenantIs, hypothesisIs, confidenceIs, statusIs⟩ := formulate_create formulated
  refine ⟨confidence, found, ?_⟩
  rw [← built]
  exact ⟨tenantIs, hypothesisIs, confidenceIs, sameTenant, statusIs, rfl⟩

end Body

/-! ### The task of a tenant, and the cycle -/

/-- The tables that the propose cycle reads. -/
structure Understanding where
  hypotheses : List Hypothesis
  anomalies : List Anomaly
  contexts : List Context

section Tasks

variable (std : Stdlib) (formats : TextFormats) (actionSpace : List ActionSpaceEntry)
  (clock : Uuid → Timestamp)

/-- The loop: the offers that it sends to the store, and the error that ended it. `clock` is when the
offer of each hypothesis is formulated. -/
def formulateHypotheses (tenantId : Uuid) (confidences : List Confidence) (anomalies : List Anomaly)
    (contexts : List Context) (hypotheses : List Hypothesis) :
    List Recommendation × Option PyError :=
  Result.collect (fun hypothesis => formulateHypothesis std formats actionSpace tenantId confidences
    anomalies contexts (clock hypothesis.id) hypothesis) hypotheses

/-- `_formulate_tenant`, with the first page of the tenant's hypotheses. -/
def formulateTenant (understanding : Understanding) (confidences : List Confidence)
    (tenantId : Uuid) : List Recommendation × Option PyError :=
  formulateHypotheses std formats actionSpace clock tenantId confidences
    (listAnomalies tenantId understanding.anomalies) (listContexts tenantId understanding.contexts)
    (listHypotheses tenantId 500 0 understanding.hypotheses)

/-- The tenants with a hypothesis. -/
def hypothesisTenants (hypotheses : List Hypothesis) : List Uuid :=
  (hypotheses.map Hypothesis.tenantId).dedup

/-- What the tasks of all tenants send to the recommendation store. -/
def recommendationsSent (understanding : Understanding) (confidences : List Confidence) :
    List Recommendation :=
  (hypothesisTenants understanding.hypotheses).flatMap fun tenantId =>
    (formulateTenant std formats actionSpace clock understanding confidences tenantId).1

end Tasks

end CosMonitor
