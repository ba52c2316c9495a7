/-
**Starvation — which rows the pages of the cycles leave out.**

The commit cycle joins the recommendations with the first page of the confidences, the propose cycle reads
the first page of the hypotheses, and the calibration cycle reads the hypotheses page by page, each page
by a query of its own that orders hypotheses of one instant in any way.

* `sent_ids`: the decisions that a commit cycle sends;
* `mem_calibrationScan`: the hypotheses that the paging loop hands to its body;
* `no_starvation_iff`: when every eligible recommendation gets its decision, and when every hypothesis is
  considered;
* `old_confidences_starve`: a recommendation whose confidence comes after five hundred others.
-/

import CosMonitor.Action.PipelineSteps
import CosMonitor.Foundation.Paging

namespace CosMonitor

open Table

/-! ### The commit cycle -/

section Commit

variable {std : Stdlib} {service : DecisionService} {clock : Uuid → Timestamp}
  {recommendations : List Recommendation} {confidences : List Confidence}
  {before after : List Decision}

/-- The id of the decision over a recommendation. -/
def Recommendation.decisionId (std : Stdlib) (recommendation : Recommendation) : Uuid :=
  CosMonitor.decisionId std recommendation.tenantId recommendation.id recommendation.confidenceId

theorem confidenceOf_listed (keyed : (confidences.map Confidence.id).Nodup) {confidence : Confidence}
    (member : confidence ∈ confidences) (early : confidence.rank confidences < 500) :
    confidenceOf (listConfidence confidence.tenantId 500 0 confidences) confidence.id =
      some confidence := by
  have listed := (mem_listConfidence keyed).mpr ⟨member, rfl, early⟩
  unfold confidenceOf
  rw [Paging.find_key_eq_some]
  · exact ⟨List.mem_reverse.mpr listed, rfl⟩
  · rw [List.map_reverse, List.nodup_reverse]
    exact listConfidence_ids keyed _ _ _

/-- **The decisions that a cycle sends** are those of the recommendations that a confidence of the first
page makes eligible. -/
theorem sent_ids (keyed : (confidences.map Confidence.id).Nodup)
    (succeeds : DecisionCycleSucceeds std service clock recommendations confidences) (wanted : Uuid) :
    wanted ∈ (decisionsSent std service clock recommendations confidences).map Decision.id ↔
      ∃ recommendation ∈ recommendations, ∃ confidence ∈ confidences,
        CommitEligible service recommendation confidence ∧ confidence.rank confidences < 500 ∧
        recommendation.decisionId std = wanted := by
  rw [List.mem_map]
  constructor
  · rintro ⟨decision, sent, rfl⟩
    obtain ⟨tenantId, -, collected⟩ := List.mem_flatMap.mp sent
    obtain ⟨recommendation, listed, returned⟩ := Result.mem_collect collected
    obtain ⟨confidence, -, -, -, found, eligible, -⟩ := commitRecommendation_returned returned
    obtain ⟨member, -, early⟩ := (mem_listConfidence keyed).mp (confidenceOf_spec found).1
    exact ⟨recommendation, (mem_listRecommendations.mp listed).1, confidence, member, eligible, early,
      (commitRecommendation_id returned).symm⟩
  · rintro ⟨recommendation, offered, confidence, member, eligible, early, rfl⟩
    have tenantIn : recommendation.tenantId ∈ recommendationTenants recommendations :=
      List.mem_dedup.mpr (List.mem_map_of_mem offered)
    have found := confidenceOf_listed keyed member early
    rw [eligible.sameTenant, eligible.bound] at found
    have listed : recommendation ∈ listRecommendations recommendation.tenantId recommendations :=
      mem_listRecommendations.mpr ⟨offered, rfl⟩
    rcases Result.collect_finished (succeeds _ tenantIn) listed with skipped | ⟨decision, sent, returned⟩
    · exact absurd skipped (commitRecommendation_eligible found eligible _)
    · exact ⟨decision, List.mem_flatMap.mpr ⟨_, tenantIn, sent⟩, commitRecommendation_id returned⟩

/-- Every proposed recommendation that its own confidence makes eligible has its decision. -/
def EveryEligibleCommitted (std : Stdlib) (service : DecisionService)
    (recommendations : List Recommendation) (confidences : List Confidence)
    (decisions : List Decision) : Prop :=
  ∀ recommendation ∈ recommendations, ∀ own ∈ confidences,
    CommitEligible service recommendation own →
      recommendation.decisionId std ∈ decisions.map Decision.id

/-- Every eligible recommendation has its decision before the cycle, or shares its decision id with one
whose own confidence has fewer than five hundred rows of its tenant before it. -/
def EveryEligibleEarly (std : Stdlib) (service : DecisionService)
    (recommendations : List Recommendation) (confidences : List Confidence)
    (before : List Decision) : Prop :=
  ∀ recommendation ∈ recommendations, ∀ own ∈ confidences,
    CommitEligible service recommendation own →
      recommendation.decisionId std ∈ before.map Decision.id ∨
        ∃ other ∈ recommendations, ∃ confidence ∈ confidences,
          CommitEligible service other confidence ∧ confidence.rank confidences < 500 ∧
          other.decisionId std = recommendation.decisionId std

/-- **When a commit cycle leaves nobody out.** -/
theorem every_eligible_committed_iff (keyed : (confidences.map Confidence.id).Nodup)
    (succeeds : DecisionCycleSucceeds std service clock recommendations confidences)
    (ended : DecisionCycleEnds std service clock recommendations confidences before after) :
    EveryEligibleCommitted std service recommendations confidences after ↔
      EveryEligibleEarly std service recommendations confidences before := by
  obtain ⟨saves, arrived, rfl⟩ := ended
  unfold EveryEligibleCommitted EveryEligibleEarly
  refine forall₄_congr fun recommendation _ own _ => imp_congr_right fun _ => ?_
  rw [key_mem_insertEach, (arrived.map Decision.id).mem_iff, sent_ids keyed succeeds]

end Commit

/-! ### The calibration cycle -/

/-- The hypotheses that the paging loop hands to its body. `rows` is the table as the query of each page
finds it; `fuel` bounds the number of pages. -/
def calibrationScan (tenantId : Uuid) (batchSize : Nat) (rows : Nat → List Hypothesis) :
    (fuel index : Nat) → List Hypothesis
  | 0, _ => []
  | fuel + 1, index =>
      match listHypotheses tenantId batchSize (index * batchSize) (rows index) with
      | [] => []
      | hypotheses => hypotheses ++ calibrationScan tenantId batchSize rows fuel (index + 1)

/-- The hypotheses of a tenant. -/
def ownHypotheses (tenantId : Uuid) (hypotheses : List Hypothesis) : List Hypothesis :=
  hypotheses.filter fun row => decide (row.tenantId = tenantId)

section Scan

variable {tenantId : Uuid} {batchSize : Nat} {hypotheses : List Hypothesis}
  {rows : Nat → List Hypothesis} {hypothesis : Hypothesis}

theorem listHypotheses_page (tenantId : Uuid) (batchSize index : Nat) (rows : List Hypothesis) :
    listHypotheses tenantId batchSize (index * batchSize) rows =
      Paging.page batchSize index (Sorting.sortBy Hypothesis.generatedAt
        (ownHypotheses tenantId rows)) := rfl

/-- **The paging loop hands every row of its pages to its body.** -/
theorem mem_calibrationScan (positive : 0 < batchSize)
    (same : ∀ index, (rows index).Perm hypotheses) {fuel index : Nat}
    (enough : (ownHypotheses tenantId hypotheses).length < index + fuel) :
    hypothesis ∈ calibrationScan tenantId batchSize rows fuel index ↔ ∃ later, index ≤ later ∧
      hypothesis ∈ listHypotheses tenantId batchSize (later * batchSize) (rows later) := by
  have counted : ∀ later, (Sorting.sortBy Hypothesis.generatedAt
      (ownHypotheses tenantId (rows later))).length = (ownHypotheses tenantId hypotheses).length :=
    fun later => by
      rw [Sorting.length_sortBy]
      exact ((same later).filter _).length_eq
  -- From an empty page on, every page is empty.
  have past : ∀ later, (ownHypotheses tenantId hypotheses).length ≤ later * batchSize →
      listHypotheses tenantId batchSize (later * batchSize) (rows later) = [] := by
    intro later beyond
    rw [listHypotheses_page, Paging.page, List.drop_eq_nil_of_le (by rw [counted]; exact beyond),
      List.take_nil]
  induction fuel generalizing index with
  | zero =>
      rw [calibrationScan]
      refine iff_of_false (by simp) ?_
      rintro ⟨later, after, listed⟩
      rw [past later (Nat.le_trans (by omega) (Nat.le_mul_of_pos_right later positive))] at listed
      cases listed
  | succ fuel ih =>
      rw [calibrationScan]
      split
      · rename_i empty
        refine iff_of_false (by simp) ?_
        rintro ⟨later, after, listed⟩
        have exhausted : (ownHypotheses tenantId hypotheses).length ≤ index * batchSize := by
          rw [listHypotheses_page, Paging.page, List.take_eq_nil_iff] at empty
          have rest := empty.resolve_left (by omega)
          rw [List.drop_eq_nil_iff, counted] at rest
          exact rest
        rw [past later (Nat.le_trans exhausted (Nat.mul_le_mul_right batchSize after))] at listed
        cases listed
      · have rest := ih (show (ownHypotheses tenantId hypotheses).length < index + 1 + fuel by omega)
        refine List.mem_append.trans ((or_congr_right rest).trans ?_)
        constructor
        · rintro (now | ⟨later, after, listed⟩)
          · exact ⟨index, Nat.le_refl index, now⟩
          · exact ⟨later, by omega, listed⟩
        · rintro ⟨later, after, listed⟩
          rcases Nat.eq_or_lt_of_le after with rfl | further
          · exact .inl listed
          · exact .inr ⟨later, further, listed⟩

/-- **When a calibration cycle leaves nobody out**, however its queries order the hypotheses of one
instant: no page ends between two of them. -/
theorem every_hypothesis_calibrated_iff (positive : 0 < batchSize)
    (distinct : (ownHypotheses tenantId hypotheses).Nodup) :
    (∀ rows : Nat → List Hypothesis, (∀ index, (rows index).Perm hypotheses) →
      ∀ hypothesis ∈ ownHypotheses tenantId hypotheses, hypothesis ∈
        calibrationScan tenantId batchSize rows ((ownHypotheses tenantId hypotheses).length + 1) 0) ↔
      ∀ hypothesis ∈ ownHypotheses tenantId hypotheses,
        Paging.Whole Hypothesis.generatedAt (ownHypotheses tenantId hypotheses) batchSize
          hypothesis := by
  rw [← Paging.scan_complete_iff distinct positive]
  constructor
  · intro complete orders answered hypothesis member
    -- A table whose rows of the tenant stand in the order of the answer.
    let others := hypotheses.filter fun row => !decide (row.tenantId = tenantId)
    have own : ∀ index, ownHypotheses tenantId (orders index ++ others) = orders index := by
      intro index
      have kept : (orders index).filter (fun row => decide (row.tenantId = tenantId)) = orders index :=
        List.filter_eq_self.mpr fun row isRow =>
          (List.mem_filter.mp ((answered index).1.mem_iff.mp isRow)).2
      have dropped : others.filter (fun row => decide (row.tenantId = tenantId)) = [] :=
        List.filter_eq_nil_iff.mpr fun row isRow => by simpa using (List.mem_filter.mp isRow).2
      unfold ownHypotheses
      rw [List.filter_append, kept, dropped, List.append_nil]
    have same : ∀ index, (orders index ++ others).Perm hypotheses := fun index =>
      ((answered index).1.append_right others).trans
        (List.filter_append_perm (fun row : Hypothesis => decide (row.tenantId = tenantId)) hypotheses)
    have scanned := complete (fun index => orders index ++ others) same hypothesis member
    obtain ⟨index, -, listed⟩ := (mem_calibrationScan positive same (by omega)).mp scanned
    rw [listHypotheses_page, own, Sorting.sortBy_of_pairwise (answered index).2] at listed
    exact ⟨index, listed⟩
  · intro complete rows same hypothesis member
    obtain ⟨index, listed⟩ := complete (fun index => Sorting.sortBy Hypothesis.generatedAt
      (ownHypotheses tenantId (rows index))) (fun index =>
        ⟨(Sorting.sortBy_perm _ _).trans ((same index).filter _), Sorting.pairwise_sortBy _ _⟩)
      hypothesis member
    exact (mem_calibrationScan positive same (by omega)).mpr ⟨index, Nat.zero_le index, listed⟩

/-- **When a propose cycle leaves nobody out**: the tenant has no more hypotheses than a page holds. -/
theorem every_hypothesis_listed_iff (distinct : (ownHypotheses tenantId hypotheses).Nodup) :
    (∀ hypothesis ∈ ownHypotheses tenantId hypotheses,
      hypothesis ∈ listHypotheses tenantId 500 0 hypotheses) ↔
      (ownHypotheses tenantId hypotheses).length ≤ 500 := by
  have together := Sorting.sortBy_perm Hypothesis.generatedAt (ownHypotheses tenantId hypotheses)
  have page : listHypotheses tenantId 500 0 hypotheses = (Sorting.sortBy Hypothesis.generatedAt
      (ownHypotheses tenantId hypotheses)).take 500 := rfl
  rw [page]
  constructor
  · intro all
    have counted := (distinct.subperm fun hypothesis member => all hypothesis member).length_le
    rw [List.length_take] at counted
    omega
  · intro few hypothesis member
    rw [List.take_of_length_le (by rw [together.length_eq]; exact few)]
    exact together.mem_iff.mpr member

end Scan

/-! ### All three cycles -/

/-- **Who starves.** After a commit cycle without failures every eligible recommendation has its decision
exactly when each of them had it before, or has its own confidence among the first five hundred of its
tenant (or shares its decision id with such a one). A propose cycle considers every hypothesis of a
tenant exactly when there are at most five hundred. A calibration cycle considers every hypothesis,
however its queries order hypotheses of one instant, exactly when no page ends between two of them. -/
theorem no_starvation_iff (std : Stdlib) (service : DecisionService) (clock : Uuid → Timestamp)
    (recommendations : List Recommendation) (confidences : List Confidence)
    (before after : List Decision) (hypotheses : List Hypothesis) (tenantId : Uuid) (batchSize : Nat)
    (confidencesKeyed : (confidences.map Confidence.id).Nodup)
    (hypothesesKeyed : (hypotheses.map Hypothesis.id).Nodup) (positive : 0 < batchSize)
    (succeeds : DecisionCycleSucceeds std service clock recommendations confidences)
    (ended : DecisionCycleEnds std service clock recommendations confidences before after) :
    (EveryEligibleCommitted std service recommendations confidences after ↔
      EveryEligibleEarly std service recommendations confidences before) ∧
    ((∀ hypothesis ∈ ownHypotheses tenantId hypotheses,
      hypothesis ∈ listHypotheses tenantId 500 0 hypotheses) ↔
        (ownHypotheses tenantId hypotheses).length ≤ 500) ∧
    ((∀ rows : Nat → List Hypothesis, (∀ index, (rows index).Perm hypotheses) →
      ∀ hypothesis ∈ ownHypotheses tenantId hypotheses, hypothesis ∈
        calibrationScan tenantId batchSize rows ((ownHypotheses tenantId hypotheses).length + 1) 0) ↔
      ∀ hypothesis ∈ ownHypotheses tenantId hypotheses,
        Paging.Whole Hypothesis.generatedAt (ownHypotheses tenantId hypotheses) batchSize
          hypothesis) := by
  have distinct : (ownHypotheses tenantId hypotheses).Nodup :=
    (List.Nodup.of_map _ hypothesesKeyed).filter _
  exact ⟨every_eligible_committed_iff confidencesKeyed succeeds ended,
    every_hypothesis_listed_iff distinct, every_hypothesis_calibrated_iff positive distinct⟩

/-! ### A crash after five hundred calibrations -/

/-- The offer for the crash, from a confidence. -/
def crashOffer (confidenceId : Uuid) : Recommendation where
  id := 31
  tenantId := 1
  hypothesisId := 5
  insightId := none
  confidenceId
  actionDescription := "Reiniciar el servicio afectado."
  rationale := ""
  expectedConsequences := ["El servicio volverá al estado activo."]
  alternativesConsidered := [{
    action := "scale_up"
    rationale := ""
    rejectedReason := ""
    confidence := 4 / 5 }]
  confidenceScore := ⟨4 / 5, fourFifths_isUnit⟩
  status := "proposed"
  proposedAt := 0

theorem crashOffer_eligible (confidenceId hypothesisId : Uuid) (computedAt : Timestamp) :
    CommitEligible defaultDeployment.service (crashOffer confidenceId)
      (crashConfidence confidenceId hypothesisId computedAt) := by
  have resolved : ((defaultDeployment.service.policyFor (crashOffer 0)).toOption.join.bind
      (resolveRiskTolerance (4 / 5))).isSome = true := by decide +kernel
  obtain ⟨risk, found⟩ := Option.isSome_iff_exists.mp resolved
  obtain ⟨policy, inForce, isRisk⟩ := Option.bind_eq_some_iff.mp found
  exact ⟨rfl, rfl, rfl, policy, risk, Result.toOption_join inForce, isRisk⟩

/-- Two offers for the crash, each with its confidence. -/
def crashOffers : List Recommendation :=
  [crashOffer 21, { crashOffer 22 with id := 32, hypothesisId := 6 }]

/-- Their confidences. -/
def crashConfidences : List Confidence :=
  [crashConfidence 21 5 0, crashConfidence 22 6 1]

/-- The two hypotheses behind them. -/
def crashHypotheses : List Hypothesis :=
  [crashHypothesis "candidate", { crashHypothesis "candidate" with id := 6, generatedAt := 1 }]

/-- Offers that were calibrated early are committed, and their hypotheses are considered. -/
theorem no_starvation_crash :
    EveryEligibleCommitted countingStd defaultDeployment.service crashOffers crashConfidences
      (insertEach Decision.id (decisionsSent countingStd defaultDeployment.service (fun _ => 0)
        crashOffers crashConfidences) []) ∧
    (∀ hypothesis ∈ ownHypotheses 1 crashHypotheses,
      hypothesis ∈ listHypotheses 1 500 0 crashHypotheses) ∧
    ∀ rows : Nat → List Hypothesis, (∀ index, (rows index).Perm crashHypotheses) →
      ∀ hypothesis ∈ ownHypotheses 1 crashHypotheses,
        hypothesis ∈ calibrationScan 1 2 rows ((ownHypotheses 1 crashHypotheses).length + 1) 0 := by
  obtain ⟨committed, listed, calibrated⟩ := no_starvation_iff countingStd defaultDeployment.service
    (fun _ => 0) crashOffers crashConfidences [] _ crashHypotheses 1 2
    (by decide) (by decide) (by decide) (by decide +kernel) ⟨_, List.Perm.refl _, rfl⟩
  refine ⟨committed.mpr fun recommendation offered own member eligible => .inr ?_,
    listed.mpr (by decide), calibrated.mpr fun _ _ => .of_length_le (by decide)⟩
  exact ⟨recommendation, offered, own, member, eligible,
    List.countP_le_length.trans_lt (by decide), rfl⟩

/-- The confidences of a tenant with five hundred calibrations before the one of the crash. -/
def manyConfidences : List Confidence :=
  (List.range 500).map (fun number => crashConfidence (Fin.ofNat _ (number + 100)) 9 number) ++
    [crashConfidence 21 5 500]

theorem manyConfidences_nodup : (manyConfidences.map Confidence.id).Nodup := by
  have numbers : (manyConfidences.map Confidence.id).map Fin.val =
      (List.range 500).map (· + 100) ++ [21] := by decide +kernel
  refine List.Nodup.of_map Fin.val ?_
  rw [numbers]
  refine List.Nodup.append (List.nodup_range.map (add_left_injective 100)) (List.nodup_singleton _) ?_
  intro number inRange isLast
  obtain ⟨index, -, rfl⟩ := List.mem_map.mp inRange
  have same := List.mem_singleton.mp isLast
  omega

/-- **An eligible recommendation without a decision**: five hundred older confidences keep its own one
off the page, and a commit cycle without failures sends nothing. -/
theorem old_confidences_starve :
    (manyConfidences.map Confidence.id).Nodup ∧
    DecisionCycleSucceeds countingStd defaultDeployment.service (fun _ => 0) [crashOffer 21]
      manyConfidences ∧
    DecisionCycleEnds countingStd defaultDeployment.service (fun _ => 0) [crashOffer 21]
      manyConfidences [] [] ∧
    ¬EveryEligibleCommitted countingStd defaultDeployment.service [crashOffer 21] manyConfidences [] := by
  have sent : decisionsSent countingStd defaultDeployment.service (fun _ => 0) [crashOffer 21]
      manyConfidences = [] := by decide +kernel
  refine ⟨manyConfidences_nodup, by decide +kernel, ⟨[], by rw [sent], rfl⟩, fun every => ?_⟩
  cases every (crashOffer 21) (List.mem_singleton_self _) (crashConfidence 21 5 500)
    (List.mem_append_right _ (List.mem_singleton_self _)) (crashOffer_eligible 21 5 500)

end CosMonitor
