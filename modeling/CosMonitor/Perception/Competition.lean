/-
**The coherence competition — a result of the batch and the catalogue, not of their order.**

The coherence of a model is the weight of the evidence that it explains, as a share of all weight. Models
with different ids have different places in the competition, so the order in which the evidence and the
models are listed is lost.

* `scoreModel_coherence`: the sums by type compute the coherence;
* `weightsByType_perm`, `rankedScores_perm`: the order of the evidence and of the models is lost;
* `compete_outcome`: with evidence and a compatible model there is a winner;
* `competition_canonical`: scores, winner and candidates, and that they are the same in every order.
-/

import CosMonitor.Perception.Activator

namespace CosMonitor

open Sorting

/-! ### Coherence -/

/-- The weight of the evidence that a model explains, as a share of all weight. -/
def coherence (model : MentalModel) (evidence : List Evidence) : ℚ :=
  ((evidence.filter fun item => item.organizationType ∈ model.explains).map fun item =>
    item.weight.val).sum / totalWeight evidence

section Coherence

variable {evidence other : List Evidence} {model : MentalModel}

theorem totalWeight_nonneg (evidence : List Evidence) : 0 ≤ totalWeight evidence := by
  refine List.sum_nonneg fun weight member => ?_
  obtain ⟨item, -, rfl⟩ := List.mem_map.mp member
  exact item.weight.property.1

/-- **The score of a model is its coherence.** -/
theorem scoreModel_coherence (model : MentalModel) (evidence : List Evidence) :
    (scoreModel model (weightsByType evidence) (totalWeight evidence)).coherenceScore =
      coherence model evidence := by
  simp only [scoreModel, weightsByType_getD, coherence, ← sum_typeWeight]
  split
  · rfl
  · rename_i nothing
    rw [le_antisymm (not_lt.mp nothing) (totalWeight_nonneg evidence), div_zero]

/-! ### The order of the evidence -/

theorem addWeight_comm (weights : String → Option ℚ) (first second : Evidence) :
    addWeight (addWeight weights first) second = addWeight (addWeight weights second) first := by
  funext factType
  unfold addWeight
  by_cases same : first.organizationType = second.organizationType
  · rw [same]
    by_cases own : factType = second.organizationType
    · subst own
      simp [add_right_comm]
    · simp [own]
  · by_cases ownFirst : factType = first.organizationType
    · subst ownFirst
      simp [Function.update_of_ne same, Function.update_of_ne (Ne.symm same)]
    · by_cases ownSecond : factType = second.organizationType
      · subst ownSecond
        simp [Function.update_of_ne (Ne.symm same), Function.update_of_ne same]
      · simp [ownFirst, ownSecond]

theorem weightsByType_perm (same : other.Perm evidence) :
    weightsByType other = weightsByType evidence :=
  same.foldl_eq' (fun first _ second _ weights => addWeight_comm weights first second) _

theorem totalWeight_perm (same : other.Perm evidence) :
    totalWeight other = totalWeight evidence := by
  unfold totalWeight
  exact (same.map _).sum_eq

end Coherence

/-! ### The order of the models -/

/-- The models that compete for a purpose. -/
def compatibleModels (purpose : String) (models : List MentalModel) : List MentalModel :=
  models.filter fun model => purpose ∈ model.purposes

section Ranking

variable {evidence otherEvidence : List Evidence} {purpose : String}
  {models otherModels : List MentalModel}

theorem competitionKeys_nodup (distinct : (models.map MentalModel.modelId).Nodup)
    (score : MentalModel → ModelScore) (named : ∀ model, (score model).mentalModelId = model.modelId) :
    (((compatibleModels purpose models).map score).map competitionKey).Nodup := by
  have ids : ((compatibleModels purpose models).map MentalModel.modelId).Nodup :=
    distinct.sublist (List.filter_sublist.map MentalModel.modelId)
  rw [List.map_map]
  refine List.Nodup.of_map (fun key => (ofLex key).2) ?_
  rw [List.map_map]
  convert ids using 2
  funext model
  exact named model

/-- **The order of the evidence and of the models is lost.** -/
theorem rankedScores_perm (distinct : (models.map MentalModel.modelId).Nodup)
    (sameEvidence : otherEvidence.Perm evidence) (sameModels : otherModels.Perm models) :
    rankedScores otherEvidence purpose otherModels = rankedScores evidence purpose models := by
  unfold rankedScores
  rw [weightsByType_perm sameEvidence, totalWeight_perm sameEvidence]
  exact sortBy_congr ((sameModels.filter _).map _)
    (competitionKeys_nodup distinct _ fun _ => rfl)

theorem compete_outcome (present : evidence ≠ [])
    (compatible : ∃ model ∈ models, purpose ∈ model.purposes) :
    ∃ winner others, rankedScores evidence purpose models = winner :: others ∧
      compete evidence purpose models = some {
        purpose
        winner
        candidates := winner :: others
        evidenceIds := evidence.map Evidence.id } := by
  cases ranked : rankedScores evidence purpose models with
  | nil =>
      obtain ⟨model, member, serves⟩ := compatible
      have scored : scoreModel model (weightsByType evidence) (totalWeight evidence) ∈
          rankedScores evidence purpose models :=
        mem_sortBy.mpr (List.mem_map_of_mem (List.mem_filter.mpr ⟨member, by simpa using serves⟩))
      rw [ranked] at scored
      cases scored
  | cons winner others =>
      refine ⟨winner, others, rfl, ?_⟩
      unfold compete
      rw [if_neg present, ranked]

theorem activate_of_compete {competition : CompetitionResult}
    (competed : compete evidence purpose models = some competition) (present : evidence ≠ []) :
    ∃ create, activate models evidence purpose = some create ∧
      create.mentalModelId = competition.winner.mentalModelId ∧
      create.coherenceScore.val = roundHalfEven 2 competition.winner.coherenceScore ∧
      create.competingModels = competition.candidates.map competingModel := by
  obtain ⟨first, rest, rfl⟩ := List.exists_cons_of_ne_nil present
  unfold activate
  split
  · rename_i missing
    rw [competed] at missing
    cases missing
  · rename_i found competedToo
    rw [competed] at competedToo
    obtain rfl := Option.some.inj competedToo
    exact ⟨_, rfl, rfl, rfl, rfl⟩

/-- **The competition**, for a batch of evidence and models with different ids, one of which serves the
purpose: every score is a share, the winner scores highest and has the smallest id of those that do, the
candidates are the compatible models with their coherence, by falling score and by id, and another order
of the evidence and of the models changes neither the winner nor a candidate nor the order. -/
theorem competition_canonical (present : evidence ≠ [])
    (distinct : (models.map MentalModel.modelId).Nodup)
    (compatible : ∃ model ∈ models, purpose ∈ model.purposes) :
    ∃ competition, compete evidence purpose models = some competition ∧
      (∀ candidate ∈ competition.candidates,
        0 ≤ candidate.coherenceScore ∧ candidate.coherenceScore ≤ 1) ∧
      competition.winner ∈ competition.candidates ∧
      (∀ candidate ∈ competition.candidates,
        candidate.coherenceScore ≤ competition.winner.coherenceScore ∧
          (candidate.coherenceScore = competition.winner.coherenceScore →
            competition.winner.mentalModelId ≤ candidate.mentalModelId)) ∧
      (competition.candidates.map fun candidate =>
        (candidate.mentalModelId, candidate.coherenceScore)).Perm
          ((compatibleModels purpose models).map fun model =>
            (model.modelId, coherence model evidence)) ∧
      (competition.candidates.Pairwise fun before after =>
        after.coherenceScore < before.coherenceScore ∨
          after.coherenceScore = before.coherenceScore ∧
            before.mentalModelId < after.mentalModelId) ∧
      ∀ otherEvidence otherModels, otherEvidence.Perm evidence → otherModels.Perm models →
        ∃ again, compete otherEvidence purpose otherModels = some again ∧
          again.winner = competition.winner ∧ again.candidates = competition.candidates ∧
          ∃ create recreate, activate models evidence purpose = some create ∧
            activate otherModels otherEvidence purpose = some recreate ∧
            recreate.mentalModelId = create.mentalModelId ∧
            recreate.coherenceScore = create.coherenceScore ∧
            recreate.competingModels = create.competingModels := by
  obtain ⟨winner, others, ranked, competed⟩ := compete_outcome present compatible
  have strict : (winner :: others).Pairwise fun before after =>
      competitionKey before < competitionKey after := by
    rw [← ranked]
    exact pairwise_lt_sortBy (competitionKeys_nodup distinct _ fun _ => rfl)
  have ordered : (winner :: others).Pairwise fun before after =>
      after.coherenceScore < before.coherenceScore ∨
        after.coherenceScore = before.coherenceScore ∧ before.mentalModelId < after.mentalModelId := by
    refine strict.imp fun {before after} below => ?_
    rcases Prod.Lex.toLex_lt_toLex.mp below with falls | ⟨equal, smaller⟩
    · exact .inl (neg_lt_neg_iff.mp falls)
    · exact .inr ⟨(neg_injective equal).symm, smaller⟩
  refine ⟨_, competed, ?_, List.mem_cons_self, ?_, ?_, ordered, ?_⟩
  · intro candidate member
    rw [← ranked, rankedScores, mem_sortBy] at member
    obtain ⟨model, -, rfl⟩ := List.mem_map.mp member
    exact scoreModel_unit model evidence
  · intro candidate member
    rcases List.mem_cons.mp member with rfl | later
    · exact ⟨le_rfl, fun _ => le_rfl⟩
    · rcases List.rel_of_pairwise_cons ordered later with lower | ⟨equal, smaller⟩
      · exact ⟨lower.le, fun equal => absurd equal lower.ne⟩
      · exact ⟨equal.le, fun _ => smaller.le⟩
  · dsimp only
    rw [← ranked, rankedScores]
    refine ((sortBy_perm competitionKey _).map _).trans (.of_eq ?_)
    rw [List.map_map]
    refine List.map_congr_left fun model _ => ?_
    exact Prod.ext rfl (scoreModel_coherence model evidence)
  · intro otherEvidence otherModels sameEvidence sameModels
    have presentToo : otherEvidence ≠ [] := fun missing =>
      present (List.nil_perm.mp (missing ▸ sameEvidence))
    obtain ⟨model, member, serves⟩ := compatible
    obtain ⟨winnerToo, othersToo, rankedToo, competedToo⟩ :=
      compete_outcome presentToo ⟨model, sameModels.mem_iff.mpr member, serves⟩
    rw [rankedScores_perm distinct sameEvidence sameModels, ranked] at rankedToo
    obtain ⟨rfl, rfl⟩ := List.cons.inj rankedToo
    obtain ⟨create, created, model, score, competing⟩ := activate_of_compete competed present
    obtain ⟨recreate, recreated, modelToo, scoreToo, competingToo⟩ :=
      activate_of_compete competedToo presentToo
    exact ⟨_, competedToo, rfl, rfl, create, recreate, created, recreated, modelToo.trans model.symm,
      Subtype.ext (scoreToo.trans score.symm), competingToo.trans competing.symm⟩

end Ranking

/-! ### A batch that two models share -/

/-- An evidence of a type, with full weight. -/
def wholeEvidence (id : Uuid) (organizationType : String) : Evidence where
  id
  tenantId := 1
  observationIds := [id]
  organizationType
  description := ""
  qualityClass := .q1
  weight := ⟨1, one_isUnit⟩
  organizedAt := 0

/-- A backup failure and a service degradation: the catalogue's models for the infrastructure, in either
order of both lists. -/
theorem competition_canonical_catalog :
    ∃ competition, compete [wholeEvidence 1 "backup_failure_evidence",
        wholeEvidence 2 "service_degradation_evidence"] "infrastructure_health" mentalModelCatalog =
          some competition ∧
      ∃ again, compete [wholeEvidence 2 "service_degradation_evidence",
          wholeEvidence 1 "backup_failure_evidence"] "infrastructure_health"
            mentalModelCatalog.reverse = some again ∧
        again.winner = competition.winner ∧ again.candidates = competition.candidates := by
  have distinct : (mentalModelCatalog.map MentalModel.modelId).Nodup := by decide
  have serves : ∃ model ∈ mentalModelCatalog, "infrastructure_health" ∈ model.purposes :=
    ⟨_, List.mem_cons_self, by decide⟩
  obtain ⟨competition, competed, -, -, -, -, -, orders⟩ :=
    competition_canonical (List.cons_ne_nil (wholeEvidence 1 "backup_failure_evidence")
      [wholeEvidence 2 "service_degradation_evidence"]) distinct serves
  obtain ⟨again, competedToo, winner, candidates, -⟩ := orders _ _ (List.Perm.swap _ _ _)
    (List.reverse_perm mentalModelCatalog)
  exact ⟨competition, competed, again, competedToo, winner, candidates⟩

end CosMonitor
