/-
**The readers of the learning loop — what they report about patterns, contexts and insights.**

Each of them attributes the outcomes of the listed decisions to the artifacts behind them, and turns the
counts of an artifact into a result.

* `attributeDecisions`: the loop that the three attributions share; a decision without outcomes is
  skipped;
* `refinePattern`, `reviseContext`, `journalInsight`: the result of one artifact;
* `attributeDecisions_eq`, `attributed_eq`: the loop has tallied the outcomes of the decisions.
-/

import CosMonitor.Foundation.Tally
import CosMonitor.Memory.LearningLoop
import CosMonitor.Memory.Listings

namespace CosMonitor

/-! ### Attribution -/

/-- What is attributed to an artifact. The insights count `decisions_with_outcomes` next to `linked`, by
the same steps. -/
@[ext] structure OutcomeCounts where
  linked : Nat
  corroborated : Nat
  contradicted : Nat
  inconclusive : Nat
  deriving DecidableEq

/-- The counts that an artifact starts with. -/
def OutcomeCounts.zero : OutcomeCounts where
  linked := 0
  corroborated := 0
  contradicted := 0
  inconclusive := 0

/-- Add the outcomes of one more decision. -/
def OutcomeCounts.add (counts : OutcomeCounts) (consolidation : ConsolidationResult) :
    OutcomeCounts where
  linked := counts.linked + 1
  corroborated := counts.corroborated + consolidation.corroborated
  contradicted := counts.contradicted + consolidation.contradicted
  inconclusive := counts.inconclusive + consolidation.inconclusive

/-- The counts of the artifacts that have some. -/
abbrev OutcomeAttribution : Type :=
  Uuid → Option OutcomeCounts

/-- `attr = attribution.setdefault(target, …)`, and its sums. -/
def OutcomeAttribution.credit (consolidation : ConsolidationResult) (attribution : OutcomeAttribution)
    (target : Uuid) : OutcomeAttribution :=
  Function.update attribution target
    (some (((attribution target).getD .zero).add consolidation))

/-- The decision has actual outcomes. -/
def Decision.hasOutcomes (decision : Decision) : Bool :=
  !(decision.actualOutcomes.getD []).isEmpty

/-- `build_consolidation(_DecisionView(decision))`. -/
def consolidate (std : Stdlib) (decision : Decision) : Except PyError ConsolidationResult :=
  buildConsolidation std (learningView decision.id decision.tenantId decision.expectedOutcomes
    decision.actualOutcomes)

/-- Attribute the outcomes of the decisions to their targets. A decision is consolidated before its
targets are looked up. -/
def attributeDecisions (std : Stdlib) (targets : Decision → List Uuid) :
    List Decision → OutcomeAttribution → Except PyError OutcomeAttribution
  | [], attribution => .ok attribution
  | decision :: rest, attribution =>
      if decision.hasOutcomes then do
        let consolidation ← consolidate std decision
        attributeDecisions std targets rest
          ((targets decision).foldl (OutcomeAttribution.credit consolidation) attribution)
      else attributeDecisions std targets rest attribution

section Readers

variable (std : Stdlib) (listings : Listings)

/-- `_attribute_outcomes`, to the patterns. -/
def attributeOutcomes : Except PyError OutcomeAttribution :=
  attributeDecisions std listings.patternTargets listings.decisions fun _ => none

/-- `_attribute_outcomes_to_contexts`. -/
def attributeOutcomesToContexts : Except PyError OutcomeAttribution :=
  attributeDecisions std listings.contextTargets listings.decisions fun _ => none

/-- `_attribute_outcomes_to_insights`. -/
def attributeOutcomesToInsights : Except PyError OutcomeAttribution :=
  attributeDecisions std listings.insightTargets listings.decisions fun _ => none

end Readers

/-! ### Results -/

/-- The contradicted ones among the outcomes that were decided. -/
def OutcomeCounts.contradictionRatio (counts : OutcomeCounts) : ℚ :=
  let total := counts.corroborated + counts.contradicted
  if 0 < total then counts.contradicted / total else 0

/-- `MIN_SAMPLES_FOR_REFINEMENT`. -/
def minSamplesForRefinement : Nat := 2

/-- `DEACTIVATE_THRESHOLD`. -/
def deactivateThreshold : ℚ := 1 / 2

/-- `_refine_pattern`. -/
def refinePattern (pattern : Pattern) (counts : OutcomeCounts) : PatternRefinementResult :=
  let total := counts.corroborated + counts.contradicted
  let recommended : String × ℚ :=
    if total < minSamplesForRefinement then ("keep", pattern.strengthMeasure)
    else if deactivateThreshold ≤ counts.contradictionRatio then ("deactivate", 0)
    else if 0 < counts.contradicted then
      ("degrade", roundHalfEven 4 (pattern.strengthMeasure * (counts.corroborated / total)))
    else ("keep", pattern.strengthMeasure)
  { patternId := pattern.id
    contextId := pattern.contextId
    recommendedAction := recommended.1
    recommendedStrength := recommended.2
    currentStrength := pattern.strengthMeasure
    linkedDecisions := counts.linked
    corroborated := counts.corroborated
    contradicted := counts.contradicted
    inconclusive := counts.inconclusive
    contradictionRatio := roundHalfEven 4 counts.contradictionRatio }

/-- `MIN_SAMPLES_FOR_REVISION`. -/
def minSamplesForRevision : Nat := 2

/-- `REVISION_THRESHOLD`. -/
def revisionThreshold : ℚ := 1 / 2

/-- `_first_competitor_id`. A model that is no object has no `get`. -/
def firstCompetitorId (std : Stdlib) : List Json → Except PyError (Option String)
  | [] => .ok none
  | first :: _ =>
      if first.isDict then
        .ok (some (std.str (((first.get "model_id").or (first.get "name")).or (.str ""))))
      else .error (.attributeError "get")

/-- The recommendation of `_revise_context`, with the competitor that it suggests. -/
def recommendRevision (std : Stdlib) (context : Context) (counts : OutcomeCounts) :
    Except PyError (String × Option String) :=
  let total := counts.corroborated + counts.contradicted
  if total < minSamplesForRevision ∨ counts.contradicted = 0 then .ok ("keep", none)
  else if revisionThreshold ≤ counts.contradictionRatio ∧ context.competingModels ≠ [] then do
    let suggested ← firstCompetitorId std context.competingModels
    return ("consider_competitor", suggested)
  else .ok ("review", none)

/-- `_revise_context`. -/
def reviseContext (std : Stdlib) (context : Context) (counts : OutcomeCounts) :
    Except PyError ContextRevisionResult := do
  let recommended ← recommendRevision std context counts
  return {
    contextId := context.id
    recommendedRevision := recommended.1
    suggestedCompetitor := recommended.2
    linkedDecisions := counts.linked
    corroborated := counts.corroborated
    contradicted := counts.contradicted
    inconclusive := counts.inconclusive
    contradictionRatio := roundHalfEven 4 counts.contradictionRatio
    hasCompetingModels := !context.competingModels.isEmpty }

/-- `_classify_transformation`. -/
def classifyTransformation (std : Stdlib) (prior : Option String) (updated : Json) : String :=
  let priorBlank := prior = none ∨ prior = some ""
  let updatedBlank := updated = .null ∨ updated = .obj []
  if priorBlank ∧ updatedBlank then "unchanged"
  else if priorBlank ∨ updatedBlank then "revised"
  else if stripChars (prior.getD "").toList ≠ stripChars (std.str updated).toList then "revised"
  else "stable"

/-- `_journal_insight`. The result is validated: its update is an object or `None`. -/
def journalInsight (std : Stdlib) (insight : Insight) (linkedRecommendations : Nat)
    (counts : Option OutcomeCounts) : Except PyError InsightTransformationResult :=
  if insight.mentalModelUpdate.isDict ∨ insight.mentalModelUpdate = .null then
    let attributed := counts.getD .zero
    .ok {
      insightId := insight.id
      transformationKind :=
        classifyTransformation std insight.priorUnderstanding insight.mentalModelUpdate
      description := insight.description
      priorUnderstanding := insight.priorUnderstanding
      mentalModelUpdate :=
        if insight.mentalModelUpdate = .null then none else some insight.mentalModelUpdate
      linkedRecommendations
      linkedDecisionsWithOutcomes := attributed.linked
      corroborated := attributed.corroborated
      contradicted := attributed.contradicted
      inconclusive := attributed.inconclusive }
  else .error (.valueError "mental_model_update")

theorem journalInsight_id {std : Stdlib} {insight : Insight} {linked : Nat}
    {counts : Option OutcomeCounts} {result : InsightTransformationResult}
    (journaled : journalInsight std insight linked counts = .ok result) :
    result.insightId = insight.id := by
  unfold journalInsight at journaled
  split at journaled
  · rw [← Except.ok.inj journaled]
  · cases journaled

/-- `rec_count_by_insight.get(insight_id, 0)`. -/
def recommendationsOf (recommendations : List Recommendation) (insightId : Uuid) : Nat :=
  recommendations.countP fun recommendation => decide (recommendation.insightId = some insightId)

/-! ### Reports -/

section Reports

variable (std : Stdlib) (listings : Listings)

/-- `build_pattern_refinement`: the listed patterns that have counts. -/
def buildPatternRefinement : Except PyError (List PatternRefinementResult) := do
  let attribution ← attributeOutcomes std listings
  return listings.patterns.filterMap fun pattern =>
    (attribution pattern.id).map (refinePattern pattern)

/-- `build_context_revision`: the listed contexts that have counts. -/
def buildContextRevision : Except PyError (List ContextRevisionResult) := do
  let attribution ← attributeOutcomesToContexts std listings
  (listings.contexts.filterMap fun context =>
    (attribution context.id).map fun counts => (context, counts)).mapM fun attributed =>
      reviseContext std attributed.1 attributed.2

/-- `build_insight_transformation`: every listed insight. -/
def buildInsightTransformation : Except PyError (List InsightTransformationResult) := do
  let attribution ← attributeOutcomesToInsights std listings
  listings.insights.mapM fun insight =>
    journalInsight std insight (recommendationsOf listings.recommendations insight.id)
      (attribution insight.id)

end Reports

/-! ### Tallies -/

section Tallies

variable (std : Stdlib)

/-- What the consolidation of a decision counts. -/
def verdict (count : ConsolidationResult → Nat) (decision : Decision) : Nat :=
  match consolidate std decision with
  | .ok consolidation => count consolidation
  | .error _ => 0

/-- A decision with outcomes reaches the artifact. -/
def OutcomesReach (targets : Decision → List Uuid) (decisions : List Decision) (target : Uuid) : Prop :=
  ∃ decision ∈ decisions, decision.hasOutcomes ∧ target ∈ targets decision

instance (targets : Decision → List Uuid) (decisions : List Decision) (target : Uuid) :
    Decidable (OutcomesReach targets decisions target) :=
  inferInstanceAs (Decidable (∃ _ ∈ _, _))

/-- The outcomes of the decisions, tallied for an artifact. -/
def tallyOutcomes (targets : Decision → List Uuid) (decisions : List Decision) (target : Uuid) :
    OutcomeCounts :=
  let observed := decisions.filter Decision.hasOutcomes
  { linked := Tally.weigh targets (fun _ => 1) observed target
    corroborated := Tally.weigh targets (verdict std (·.corroborated)) observed target
    contradicted := Tally.weigh targets (verdict std (·.contradicted)) observed target
    inconclusive := Tally.weigh targets (verdict std (·.inconclusive)) observed target }

variable {std} {attribution result : OutcomeAttribution} {target : Uuid}

/-- Two counts together. -/
def OutcomeCounts.plus (first second : OutcomeCounts) : OutcomeCounts where
  linked := first.linked + second.linked
  corroborated := first.corroborated + second.corroborated
  contradicted := first.contradicted + second.contradicted
  inconclusive := first.inconclusive + second.inconclusive

/-- The outcomes of one decision, several times. -/
def OutcomeCounts.repeated (consolidation : ConsolidationResult) (times : Nat) : OutcomeCounts where
  linked := times
  corroborated := times * consolidation.corroborated
  contradicted := times * consolidation.contradicted
  inconclusive := times * consolidation.inconclusive

theorem OutcomeCounts.add_plus (counts : OutcomeCounts) (consolidation : ConsolidationResult)
    (times : Nat) :
    (counts.add consolidation).plus (repeated consolidation times) =
      counts.plus (repeated consolidation (times + 1)) := by
  ext
  · simp only [plus, add, repeated]
    omega
  all_goals
    simp only [plus, add, repeated, Nat.add_mul]
    omega

theorem credits_eq (consolidation : ConsolidationResult) (targets : List Uuid)
    (attribution : OutcomeAttribution) (target : Uuid) :
    ((targets.foldl (OutcomeAttribution.credit consolidation) attribution) target).getD .zero =
        ((attribution target).getD .zero).plus (.repeated consolidation (targets.count target)) ∧
      (((targets.foldl (OutcomeAttribution.credit consolidation) attribution) target).isSome ↔
        (attribution target).isSome ∨ target ∈ targets) := by
  induction targets generalizing attribution with
  | nil => simp [OutcomeCounts.plus, OutcomeCounts.repeated]
  | cons first rest ih =>
      obtain ⟨sums, known⟩ := ih (OutcomeAttribution.credit consolidation attribution first)
      rw [List.foldl_cons, sums, known, List.mem_cons]
      by_cases isFirst : target = first
      · subst isFirst
        have credited : OutcomeAttribution.credit consolidation attribution target target =
            some (((attribution target).getD .zero).add consolidation) :=
          Function.update_self _ _ _
        rw [credited, List.count_cons_self, Option.getD_some, OutcomeCounts.add_plus]
        exact ⟨rfl, by simp⟩
      · have kept : OutcomeAttribution.credit consolidation attribution first target =
            attribution target :=
          Function.update_of_ne isFirst _ _
        rw [kept, List.count_cons_of_ne (Ne.symm isFirst)]
        refine ⟨rfl, ?_⟩
        simp [isFirst]

/-- **The loop has tallied the outcomes of the decisions**, on top of what it started with. -/
theorem attributeDecisions_eq {targets : Decision → List Uuid} {decisions : List Decision}
    (attributed : attributeDecisions std targets decisions attribution = .ok result) (target : Uuid) :
    (result target).getD .zero =
        ((attribution target).getD .zero).plus (tallyOutcomes std targets decisions target) ∧
      ((result target).isSome ↔ (attribution target).isSome ∨
        ∃ decision ∈ decisions, decision.hasOutcomes ∧ target ∈ targets decision) := by
  induction decisions generalizing attribution with
  | nil =>
      cases attributed
      simp [OutcomeCounts.plus, tallyOutcomes]
  | cons decision rest ih =>
      unfold attributeDecisions at attributed
      by_cases observed : decision.hasOutcomes
      · rw [if_pos observed] at attributed
        obtain ⟨consolidation, consolidated, remaining⟩ := Result.bind_eq_ok.mp attributed
        obtain ⟨sums, known⟩ := ih remaining
        obtain ⟨credits, credited⟩ := credits_eq consolidation (targets decision) attribution target
        constructor
        · rw [sums, credits]
          unfold tallyOutcomes
          rw [List.filter_cons_of_pos observed]
          ext
          all_goals
            simp only [OutcomeCounts.plus, OutcomeCounts.repeated, Tally.weigh_cons, verdict,
              consolidated]
            omega
        · rw [known, credited, or_assoc]
          simp [observed]
      · rw [if_neg observed] at attributed
        obtain ⟨sums, known⟩ := ih attributed
        constructor
        · rw [sums]
          unfold tallyOutcomes
          rw [List.filter_cons_of_neg observed]
        · rw [known]
          simp [observed]

theorem attributeDecisions_tally {targets : Decision → List Uuid} {decisions : List Decision}
    (attributed : attributeDecisions std targets decisions (fun _ => none) = .ok result)
    (target : Uuid) :
    (result target).getD .zero = tallyOutcomes std targets decisions target ∧
      ((result target).isSome ↔
        ∃ decision ∈ decisions, decision.hasOutcomes ∧ target ∈ targets decision) := by
  obtain ⟨sums, known⟩ := attributeDecisions_eq attributed target
  refine ⟨?_, by simpa using known⟩
  rw [sums]
  ext <;> simp [OutcomeCounts.plus, OutcomeCounts.zero]

theorem attributed_eq {targets : Decision → List Uuid} {decisions : List Decision}
    {attribution : OutcomeAttribution}
    (attributed : attributeDecisions std targets decisions (fun _ => none) = .ok attribution)
    (target : Uuid) :
    attribution target = if OutcomesReach targets decisions target then
      some (tallyOutcomes std targets decisions target) else none := by
  obtain ⟨sums, known⟩ := attributeDecisions_tally attributed target
  by_cases reached : OutcomesReach targets decisions target
  · rw [if_pos reached]
    obtain ⟨counts, isCounts⟩ := Option.isSome_iff_exists.mp (known.mpr reached)
    rw [isCounts, Option.getD_some] at sums
    rw [isCounts, sums]
  · rw [if_neg reached]
    rw [← Option.not_isSome_iff_eq_none, known]
    exact reached

end Tallies

end CosMonitor
