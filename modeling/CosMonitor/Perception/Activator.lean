/-
**The context activator — the coherence competition of the mental models.**

The models that serve a purpose are scored against a batch of evidence: the weight of the evidence that a
model explains, as a share of all weight. They are sorted by falling score, and by id where the scores
are equal; the first one wins, and all of them are kept with the context.

* `weightsByType_getD`: the weight of a type is the sum over the evidence of that type;
* `scoreModel_unit`: a score lies in the unit interval;
* `compete`, `activate`: the competition, and the context that it selects;
* `candidates_sorted`, `winner_strongest`: no candidate scores higher than one before it.
-/

import CosMonitor.Base.PyFloat
import CosMonitor.Foundation.Sorting
import CosMonitor.Perception.ContextStore
import CosMonitor.Perception.Evidence
import Mathlib.Algebra.BigOperators.Group.Finset.Piecewise
import Mathlib.Algebra.Order.BigOperators.Group.Finset
import Mathlib.Data.Prod.Lex
import Mathlib.Data.String.Basic
import Mathlib.Tactic.Linarith

namespace CosMonitor

open Sorting

/-! ### Mental models -/

/-- A candidate interpretation: the evidence types that it explains, and the purposes it serves. -/
structure MentalModel where
  modelId : String
  explains : Finset String
  purposes : Finset String
  deriving DecidableEq

/-- `MENTAL_MODEL_CATALOG`. -/
def mentalModelCatalog : List MentalModel :=
  [{ modelId := "resource_pressure"
     explains := {"resource_exhaustion_evidence"}
     purposes := {"infrastructure_health", "capacity_management"} },
   { modelId := "service_failure"
     explains := {"service_degradation_evidence"}
     purposes := {"infrastructure_health", "security_posture"} },
   { modelId := "auth_compromise"
     explains := {"auth_anomaly_evidence"}
     purposes := {"security_posture"} },
   { modelId := "capacity_risk"
     explains := {"backup_failure_evidence", "vmware_capacity_evidence"}
     purposes := {"infrastructure_health", "capacity_management"} },
   { modelId := "connectivity_degradation"
     explains := {"network_anomaly_evidence"}
     purposes := {"infrastructure_health"} }]

/-! ### Scores -/

/-- The coherence of one model with a batch of evidence. -/
structure ModelScore where
  mentalModelId : String
  coherenceScore : ℚ
  explainedWeight : ℚ
  explainedCount : Nat
  deriving DecidableEq, Repr

/-- `result[type] = result.get(type, 0.0) + weight`. -/
def addWeight (weights : String → Option ℚ) (item : Evidence) : String → Option ℚ :=
  Function.update weights item.organizationType
    (some ((weights item.organizationType).getD 0 + item.weight.val))

/-- `weights_by_type`: the weight of each type that occurs. -/
def weightsByType (evidence : List Evidence) : String → Option ℚ :=
  evidence.foldl addWeight fun _ => none

/-- `total_weight`. -/
def totalWeight (evidence : List Evidence) : ℚ :=
  (evidence.map fun item => item.weight.val).sum

/-- `score_model`. -/
def scoreModel (model : MentalModel) (weights : String → Option ℚ) (total : ℚ) : ModelScore :=
  let explainedWeight := ∑ factType ∈ model.explains, (weights factType).getD 0
  { mentalModelId := model.modelId
    coherenceScore := if 0 < total then explainedWeight / total else 0
    explainedWeight
    explainedCount := (model.explains.filter fun factType => (weights factType).isSome).card }

section Scores

variable {evidence : List Evidence} {item : Evidence}

/-- The weight of the evidence of a type. -/
def typeWeight (evidence : List Evidence) (factType : String) : ℚ :=
  ((evidence.filter fun item => item.organizationType = factType).map fun item => item.weight.val).sum

theorem foldl_addWeight (weights : String → Option ℚ) (factType : String) :
    (evidence.foldl addWeight weights factType).getD 0 =
      (weights factType).getD 0 + typeWeight evidence factType := by
  induction evidence generalizing weights with
  | nil => simp [typeWeight]
  | cons item rest ih =>
      rw [List.foldl_cons, ih]
      by_cases own : item.organizationType = factType
      · subst own
        rw [addWeight, Function.update_self, Option.getD_some, typeWeight, typeWeight,
          List.filter_cons_of_pos (by simp), List.map_cons, List.sum_cons, add_assoc]
      · rw [addWeight, Function.update_of_ne (Ne.symm own), typeWeight, typeWeight,
          List.filter_cons_of_neg (by simpa using own)]

/-- **The weight of a type** is the sum over the evidence of that type. -/
theorem weightsByType_getD (evidence : List Evidence) (factType : String) :
    (weightsByType evidence factType).getD 0 = typeWeight evidence factType := by
  unfold weightsByType
  rw [foldl_addWeight, Option.getD_none, zero_add]

theorem typeWeight_nonneg (evidence : List Evidence) (factType : String) :
    0 ≤ typeWeight evidence factType := by
  refine List.sum_nonneg fun weight member => ?_
  obtain ⟨item, -, rfl⟩ := List.mem_map.mp member
  exact item.weight.property.1

theorem sum_typeWeight (types : Finset String) (evidence : List Evidence) :
    ∑ factType ∈ types, typeWeight evidence factType =
      ((evidence.filter fun item => item.organizationType ∈ types).map fun item =>
        item.weight.val).sum := by
  induction evidence with
  | nil => simp [typeWeight]
  | cons item rest ih =>
      have split : ∀ factType, typeWeight (item :: rest) factType =
          (if item.organizationType = factType then item.weight.val else 0) +
            typeWeight rest factType := by
        intro factType
        by_cases own : item.organizationType = factType
        · simp [typeWeight, own]
        · simp [typeWeight, own]
      rw [Finset.sum_congr rfl fun factType _ => split factType, Finset.sum_add_distrib, ih,
        Finset.sum_ite_eq]
      by_cases explained : item.organizationType ∈ types
      · simp [explained]
      · simp [explained]

theorem explained_le_total (types : Finset String) (evidence : List Evidence) :
    ∑ factType ∈ types, typeWeight evidence factType ≤ totalWeight evidence := by
  rw [sum_typeWeight]
  refine (List.filter_sublist.map _).sum_le_sum fun weight member => ?_
  obtain ⟨item, -, rfl⟩ := List.mem_map.mp member
  exact item.weight.property.1

/-- **A score lies in the unit interval.** -/
theorem scoreModel_unit (model : MentalModel) (evidence : List Evidence) :
    0 ≤ (scoreModel model (weightsByType evidence) (totalWeight evidence)).coherenceScore ∧
      (scoreModel model (weightsByType evidence) (totalWeight evidence)).coherenceScore ≤ 1 := by
  simp only [scoreModel, weightsByType_getD]
  split
  · rename_i positive
    refine ⟨div_nonneg (Finset.sum_nonneg fun factType _ => ?_) positive.le, ?_⟩
    · exact typeWeight_nonneg evidence factType
    · rw [div_le_one positive]
      exact explained_le_total model.explains evidence
  · exact zero_isUnit

end Scores

/-! ### The competition -/

/-- The outcome of a competition: its candidates, the winner first. -/
structure CompetitionResult where
  purpose : String
  winner : ModelScore
  candidates : List ModelScore
  evidenceIds : List Uuid
  deriving DecidableEq, Repr

/-- The order of the candidates: falling score, and the id where scores are equal. -/
def competitionKey (score : ModelScore) : ℚ ×ₗ String :=
  toLex (-score.coherenceScore, score.mentalModelId)

/-- The scores of the models that serve a purpose, in order. -/
def rankedScores (evidence : List Evidence) (purpose : String) (models : List MentalModel) :
    List ModelScore :=
  sortBy competitionKey ((models.filter fun model => purpose ∈ model.purposes).map fun model =>
    scoreModel model (weightsByType evidence) (totalWeight evidence))

/-- `compete`: nothing without evidence or candidates. -/
def compete (evidence : List Evidence) (purpose : String) (models : List MentalModel) :
    Option CompetitionResult :=
  if evidence = [] then none
  else match rankedScores evidence purpose models with
    | [] => none
    | winner :: others => some {
        purpose
        winner
        candidates := winner :: others
        evidenceIds := evidence.map Evidence.id }

section Competition

variable {evidence : List Evidence} {purpose : String} {models : List MentalModel}
  {competition : CompetitionResult}

theorem compete_candidates (competed : compete evidence purpose models = some competition) :
    competition.candidates = rankedScores evidence purpose models ∧
      ∃ others, competition.candidates = competition.winner :: others := by
  unfold compete at competed
  split at competed
  · cases competed
  · split at competed
    · cases competed
    · rename_i winner others ranked
      cases competed
      exact ⟨ranked.symm, others, rfl⟩

/-- **No candidate scores higher than one before it.** -/
theorem candidates_sorted (competed : compete evidence purpose models = some competition) :
    competition.candidates.Pairwise fun before after =>
      after.coherenceScore ≤ before.coherenceScore := by
  rw [(compete_candidates competed).1]
  refine (pairwise_sortBy competitionKey _).imp fun {before after} ordered => ?_
  rcases Prod.Lex.toLex_le_toLex.mp ordered with below | ⟨equal, -⟩
  · exact le_of_neg_le_neg below.le
  · exact (neg_injective equal).ge

theorem winner_strongest (competed : compete evidence purpose models = some competition) :
    competition.winner ∈ competition.candidates ∧
      ∀ candidate ∈ competition.candidates,
        candidate.coherenceScore ≤ competition.winner.coherenceScore := by
  obtain ⟨-, others, listed⟩ := compete_candidates competed
  have sorted := candidates_sorted competed
  rw [listed] at sorted ⊢
  refine ⟨List.mem_cons_self, fun candidate member => ?_⟩
  rcases List.mem_cons.mp member with rfl | later
  · exact le_rfl
  · exact List.rel_of_pairwise_cons sorted later

theorem winner_unit (competed : compete evidence purpose models = some competition) :
    0 ≤ competition.winner.coherenceScore ∧ competition.winner.coherenceScore ≤ 1 := by
  have member := (winner_strongest competed).1
  rw [(compete_candidates competed).1, rankedScores, mem_sortBy] at member
  obtain ⟨model, -, scored⟩ := List.mem_map.mp member
  rw [← scored]
  exact scoreModel_unit model evidence

end Competition

/-! ### The activation -/

/-- A creation request for an active context. -/
structure ContextCreate where
  tenantId : Uuid
  evidenceIds : List Uuid
  mentalModelId : String
  purpose : String
  coherenceScore : UnitScore
  competingModels : List Json
  deriving DecidableEq

/-- The entry that is kept for a candidate. -/
def competingModel (candidate : ModelScore) : Json :=
  .obj [("mental_model_id", .str candidate.mentalModelId),
    ("coherence_score", .float (roundHalfEven 2 candidate.coherenceScore))]

/-- `ActivatorEngine.activate`: the context of the winner, with every candidate. -/
def activate (models : List MentalModel) (evidence : List Evidence) (purpose : String) :
    Option ContextCreate :=
  match competed : compete evidence purpose models with
  | none => none
  | some competition => do
      let first ← evidence.head?
      return {
        tenantId := first.tenantId
        evidenceIds := competition.evidenceIds
        mentalModelId := competition.winner.mentalModelId
        purpose
        coherenceScore := ⟨roundHalfEven 2 competition.winner.coherenceScore,
          roundHalfEven_unit 2 (winner_unit competed).1 (winner_unit competed).2⟩
        competingModels := competition.candidates.map competingModel }

/-- The namespace of context ids. -/
def contextNamespace : Uuid := 0x7c

/-- What the competing models are sorted by. -/
def modelKey (std : Stdlib) (model : Json) : String :=
  std.str ((model.lookup "mental_model_id").getD (.str ""))

/-- The text of the competing models. `dumps` is `json.dumps` with sorted keys. -/
def competingText (std : Stdlib) (dumps : Json → String) (competingModels : List Json) : String :=
  if competingModels = [] then "[]" else dumps (.arr (sortBy (modelKey std) competingModels))

/-- The text that the id of a context hashes. -/
def contextPreimage (std : Stdlib) (dumps : Json → String) (create : ContextCreate) : String :=
  uuidText create.tenantId ++ ":" ++ create.purpose ++ ":" ++ joinedIds create.evidenceIds ++ ":" ++
    create.mentalModelId ++ ":" ++ std.floatRepr create.coherenceScore.val ++ ":" ++
    competingText std dumps create.competingModels

/-- `context_id`: the id hashes the whole content. -/
def contextId (std : Stdlib) (dumps : Json → String) (create : ContextCreate) : Uuid :=
  std.uuid5 contextNamespace (contextPreimage std dumps create)

/-- `build_context`: an active context, at the time of the call. -/
def buildContext (std : Stdlib) (dumps : Json → String) (now : Timestamp) (create : ContextCreate) :
    Context where
  id := contextId std dumps create
  tenantId := create.tenantId
  evidenceIds := create.evidenceIds
  mentalModelId := create.mentalModelId
  purpose := create.purpose
  coherenceScore := create.coherenceScore
  competingModels := create.competingModels
  activatedAt := now
  isActive := true

/-- **What an activation keeps of its competition.** -/
theorem activate_competing {models : List MentalModel} {evidence : List Evidence} {purpose : String}
    {competition : CompetitionResult} {create : ContextCreate}
    (competed : compete evidence purpose models = some competition)
    (activated : activate models evidence purpose = some create) :
    create.mentalModelId = competition.winner.mentalModelId ∧
      create.competingModels = competition.candidates.map competingModel := by
  unfold activate at activated
  split at activated
  · cases activated
  · rename_i found competedToo
    rw [competed] at competedToo
    obtain rfl := Option.some.inj competedToo
    obtain ⟨first, -, built⟩ := Option.bind_eq_some_iff.mp activated
    obtain rfl := Option.some.inj built
    exact ⟨rfl, rfl⟩

end CosMonitor
