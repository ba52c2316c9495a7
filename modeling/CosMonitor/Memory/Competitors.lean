/-
**The competitor that a context revision suggests.**

The activator keeps every candidate of its competition with the context, the winner first, under
`mental_model_id`. The revision reads `model_id` or `name` of the first one.

* `firstCompetitorId_activated`: it finds neither, and suggests the empty text;
* `suggested_competitor_iff`: the suggestion is a strongest other model exactly when that model is
  named by the empty text;
* `catalogue_competitor_unnamed`: the catalogue, with a context whose outcomes were contradicted.
-/

import CosMonitor.Memory.LedgerRuns
import CosMonitor.Memory.LegacyLoop
import CosMonitor.Memory.Refinement
import CosMonitor.Perception.Activator

namespace CosMonitor

open Sorting

/-! ### What the suggestion should be -/

/-- The id of a strongest candidate with another id than the winner's. -/
def StrongestOther (competition : CompetitionResult) (id : String) : Prop :=
  ∃ candidate ∈ competition.candidates, candidate.mentalModelId = id ∧
    id ≠ competition.winner.mentalModelId ∧
    ∀ other ∈ competition.candidates, other.mentalModelId ≠ competition.winner.mentalModelId →
      other.coherenceScore ≤ candidate.coherenceScore

/-- A suggestion names a strongest other model, and there is none exactly when there is no other
model. -/
def NamesCompetitor (competition : CompetitionResult) : Option String → Prop
  | some id => StrongestOther competition id
  | none => ∀ other ∈ competition.candidates,
      other.mentalModelId = competition.winner.mentalModelId

/-! ### What it is -/

section Revision

variable {std : Stdlib} {models : List MentalModel} {evidence : List Evidence} {purpose : String}
  {competition : CompetitionResult} {create : ContextCreate}

theorem firstCompetitorId_activated (competed : compete evidence purpose models = some competition) :
    firstCompetitorId std (competition.candidates.map competingModel) = .ok (some "") := by
  obtain ⟨-, others, listed⟩ := compete_candidates competed
  rw [listed]
  rfl

theorem recommendRevision_activated {context : Context} {counts : OutcomeCounts}
    {suggested : Option String} (competed : compete evidence purpose models = some competition)
    (kept : context.competingModels = competition.candidates.map competingModel)
    (recommended : recommendRevision std context counts = .ok ("consider_competitor", suggested)) :
    suggested = some "" := by
  unfold recommendRevision at recommended
  dsimp only at recommended
  split at recommended
  · simp at recommended
  · split at recommended
    · rw [kept, firstCompetitorId_activated competed] at recommended
      cases recommended
      rfl
    · simp at recommended

theorem reviseContext_id {context : Context} {counts : OutcomeCounts} {result : ContextRevisionResult}
    (revised : reviseContext std context counts = .ok result) : result.contextId = context.id := by
  obtain ⟨recommended, -, built⟩ := Result.bind_eq_ok.mp revised
  rw [← Result.pure_eq_ok.mp built]

theorem mem_buildContextRevision {listings : Listings} {results : List ContextRevisionResult}
    {result : ContextRevisionResult} (built : buildContextRevision std listings = .ok results)
    (member : result ∈ results) :
    ∃ context ∈ listings.contexts, ∃ counts, reviseContext std context counts = .ok result := by
  obtain ⟨attribution, -, mapped⟩ := Result.bind_eq_ok.mp built
  obtain ⟨row, listed, revised⟩ := (Result.mem_mapM mapped).mp member
  obtain ⟨context, inside, counted⟩ := List.mem_filterMap.mp listed
  obtain ⟨counts, -, rfl⟩ := Option.map_eq_some_iff.mp counted
  exact ⟨context, inside, counts, revised⟩

/-- **When the suggested competitor is right.** For a stored context that the activator has selected, and
every report that recommends a competitor, the suggestion names a strongest other model exactly when the
empty text does. -/
theorem suggested_competitor_iff {dumps : Json → String} {now : Timestamp} {stored row : Context}
    {table : ContextTable} {listings : Listings} {results : List ContextRevisionResult}
    {result : ContextRevisionResult}
    (competed : compete evidence purpose models = some competition)
    (activated : activate models evidence purpose = some create)
    (saved : (buildContext std dumps now create).toRow = .ok stored)
    (lifecycle : row = stored ∨ row = stored.deactivated) (inTable : row ∈ table.rows)
    (listed : ∀ context ∈ listings.contexts, context ∈ table.rows)
    (built : buildContextRevision std listings = .ok results) (member : result ∈ results)
    (about : result.contextId = row.id)
    (recommends : result.recommendedRevision = "consider_competitor") :
    NamesCompetitor competition result.suggestedCompetitor ↔ StrongestOther competition "" := by
  obtain ⟨context, inside, counts, revised⟩ := mem_buildContextRevision built member
  have sameId : context.id = row.id := (reviseContext_id revised).symm.trans about
  obtain rfl := table.idUnique.eq_of_key (listed context inside) inTable rfl rfl sameId
  have kept : context.competingModels = competition.candidates.map competingModel := by
    rw [← (activate_competing competed activated).2]
    have content := Context.toRow_competing saved
    rcases lifecycle with rfl | rfl
    · exact content
    · exact content
  obtain ⟨recommended, decided, rebuilt⟩ := Result.bind_eq_ok.mp revised
  rw [← Result.pure_eq_ok.mp rebuilt] at recommends ⊢
  obtain ⟨revision, suggested⟩ := recommended
  obtain rfl : revision = "consider_competitor" := recommends
  obtain rfl := recommendRevision_activated competed kept decided
  exact Iff.rfl

end Revision

/-! ### A competition of the catalogue -/

/-- Evidence of a type, with a weight. -/
def typedEvidence (id : Uuid) (organizationType : String) (weight : UnitScore) : Evidence where
  id := id
  tenantId := 1
  observationIds := [id]
  organizationType := organizationType
  description := ""
  qualityClass := .q1
  weight := weight
  organizedAt := 0

/-- Exhausted resources, and a degraded service. -/
def mixedEvidence : List Evidence :=
  [typedEvidence 2 "resource_exhaustion_evidence" ⟨4 / 5, fourFifths_isUnit⟩,
    typedEvidence 3 "service_degradation_evidence" ⟨3 / 5, threeFifths_isUnit⟩]

/-- The competition of the catalogue over that evidence. -/
def mixedCompetition : CompetitionResult where
  purpose := "infrastructure_health"
  winner := ⟨"resource_pressure", 4 / 7, 4 / 5, 1⟩
  candidates := [⟨"resource_pressure", 4 / 7, 4 / 5, 1⟩, ⟨"service_failure", 3 / 7, 3 / 5, 1⟩,
    ⟨"capacity_risk", 0, 0, 0⟩, ⟨"connectivity_degradation", 0, 0, 0⟩]
  evidenceIds := [2, 3]

theorem compete_mixed :
    compete mixedEvidence "infrastructure_health" mentalModelCatalog = some mixedCompetition := by
  decide +kernel

/-- The context of the winner, as it is stored. -/
def pressureContext : Context where
  id := 0
  tenantId := 1
  evidenceIds := [2, 3]
  mentalModelId := "resource_pressure"
  purpose := "infrastructure_health"
  coherenceScore := ⟨57 / 100, by norm_num⟩
  competingModels := mixedCompetition.candidates.map competingModel
  activatedAt := 0
  isActive := true

theorem pressureContext_activated : ∃ create,
    activate mentalModelCatalog mixedEvidence "infrastructure_health" = some create ∧
      (buildContext .constant (fun _ => "") 0 create).toRow = .ok pressureContext := by
  have built : ((activate mentalModelCatalog mixedEvidence "infrastructure_health").map fun create =>
      (buildContext .constant (fun _ => "") 0 create).toRow) = some (.ok pressureContext) := by
    decide +kernel
  exact Option.map_eq_some_iff.mp built

/-- A decision whose two predictions did not come true. -/
def contradictedDecision : Decision where
  id := 7
  tenantId := 1
  recommendationId := 6
  confidenceId := 8
  authorityId := 9
  commitment := "restart"
  expectedOutcomes :=
    [.obj [("verifiable_by", .str "load"), ("prediction", .int 1)],
      .obj [("verifiable_by", .str "errors"), ("prediction", .int 1)]]
  riskTolerance := "low"
  status := "executed"
  committedAt := 0
  executedAt := some 0
  actualOutcomes := some
    [.obj [("verifiable_by", .str "load"), ("value", .bool false)],
      .obj [("verifiable_by", .str "errors"), ("value", .bool false)]]
  outcomeStatus := "observed"

/-- Its chain down to the context. -/
def contradictedListings : Listings where
  decisions := [contradictedDecision]
  recommendations := [{
    id := 6
    tenantId := 1
    hypothesisId := 5
    insightId := none
    confidenceId := 8
    actionDescription := "restart"
    rationale := ""
    expectedConsequences := []
    alternativesConsidered := []
    confidenceScore := ⟨1 / 2, half_isUnit⟩
    status := "proposed"
    proposedAt := 0 }]
  hypotheses := [{
    id := 5
    tenantId := 1
    anomalyIds := []
    patternIds := [4]
    description := ""
    predictedConsequences := []
    falsificationCriterion := ""
    coherenceScore := ⟨1 / 2, half_isUnit⟩
    status := "supported"
    generatedAt := 0 }]
  patterns := [{
    id := 4
    tenantId := 1
    contextId := 0
    patternType := "recurrence"
    strengthMeasure := 1 / 2
    detectedAt := 0
    isActive := true }]
  contexts := [pressureContext]
  insights := []

deriving instance DecidableEq for ContextRevisionResult

/-- What the revision reports about the context. -/
def pressureRevision : ContextRevisionResult where
  contextId := 0
  recommendedRevision := "consider_competitor"
  suggestedCompetitor := some ""
  linkedDecisions := 1
  corroborated := 0
  contradicted := 2
  inconclusive := 0
  contradictionRatio := 1
  hasCompetingModels := true

theorem revision_contradicted :
    buildContextRevision .constant contradictedListings = .ok [pressureRevision] := by
  decide +kernel

/-- **An unnamed competitor.** The catalogue's `resource_pressure` wins over `service_failure`, its
outcomes are contradicted, and the competitor that is suggested is the empty text. -/
theorem catalogue_competitor_unnamed :
    compete mixedEvidence "infrastructure_health" mentalModelCatalog = some mixedCompetition ∧
      buildContextRevision .constant contradictedListings = .ok [pressureRevision] ∧
      StrongestOther mixedCompetition "service_failure" ∧
      ¬ NamesCompetitor mixedCompetition pressureRevision.suggestedCompetitor := by
  refine ⟨compete_mixed, revision_contradicted, ?_, ?_⟩
  · exact ⟨⟨"service_failure", 3 / 7, 3 / 5, 1⟩, by decide +kernel, rfl, by decide,
      by decide +kernel⟩
  · rintro ⟨candidate, member, unnamed, -, -⟩
    have named : ∀ candidate ∈ mixedCompetition.candidates, candidate.mentalModelId ≠ "" := by decide
    exact named candidate member unnamed

/-- The context alone in its table. -/
def pressureTable : ContextTable where
  rows := [pressureContext]
  idUnique := by decide
  activeUnique := by decide
  purposeFits := by decide

/-- The suggestion of that revision, by the condition. -/
theorem suggested_competitor_mixed :
    pressureRevision ∈ [pressureRevision] ∧
      (NamesCompetitor mixedCompetition pressureRevision.suggestedCompetitor ↔
        StrongestOther mixedCompetition "") := by
  obtain ⟨create, activated, saved⟩ := pressureContext_activated
  have inTable : pressureContext ∈ pressureTable.rows := List.mem_singleton_self _
  have listed : ∀ context ∈ contradictedListings.contexts, context ∈ pressureTable.rows :=
    fun _ inside => inside
  exact ⟨List.mem_singleton_self _, suggested_competitor_iff compete_mixed activated saved (.inl rfl)
    inTable listed revision_contradicted (List.mem_singleton_self _) rfl rfl⟩

end CosMonitor
