/-
**Distinct decisions — how the reports count a decision that reaches an artifact along several paths.**

A decision is counted for an artifact once for every path from it: for every place of the artifact, or of
one of its patterns, among the patterns that the hypothesis of the decision names. The minimum of samples
is a minimum of decided metrics.

* `pathsTo`: the number of paths, and `count_targets`: the loop credits as many;
* `counted_once_iff`: the reported counts are sums over distinct decisions exactly when no decision has
  two paths to an artifact;
* `minimum_samples_iff`: an artifact with fewer than two decisions is kept exactly when its only decision
  does not fill the minimum alone.
-/

import CosMonitor.Memory.Competitors

namespace CosMonitor

/-! ### Paths -/

section Paths

variable {listings : Listings} {decision : Decision}

/-- The paths from a decision to the patterns of a kind: the places of their ids in the hypothesis behind
the decision. -/
def Listings.pathsTo (listings : Listings) (wanted : Pattern → Bool) (decision : Decision) : Nat :=
  match listings.hypothesisOf decision with
  | none => 0
  | some hypothesis => hypothesis.patternIds.countP fun id =>
      listings.patterns.any fun pattern => decide (pattern.id = id) && wanted pattern

/-- The paths from a decision to a pattern. -/
def Listings.patternPaths (listings : Listings) (decision : Decision) (patternId : Uuid) : Nat :=
  listings.pathsTo (fun pattern => decide (pattern.id = patternId)) decision

/-- The paths from a decision to a context: those to its patterns. -/
def Listings.contextPaths (listings : Listings) (decision : Decision) (contextId : Uuid) : Nat :=
  listings.pathsTo (fun pattern => decide (pattern.contextId = contextId)) decision

theorem count_targets (keyed : (listings.patterns.map Pattern.id).Nodup) (field : Pattern → Uuid)
    (decision : Decision) (target : Uuid) :
    ((listings.patternsOf decision).map field).count target =
      listings.pathsTo (fun pattern => decide (field pattern = target)) decision := by
  unfold Listings.patternsOf Listings.pathsTo
  cases listings.hypothesisOf decision with
  | none => rfl
  | some hypothesis =>
      dsimp only
      rw [List.count, List.countP_map, List.countP_filterMap]
      refine List.countP_congr fun id _ => ?_
      cases found : byId Pattern.id id listings.patterns with
      | none =>
          have absent : ∀ pattern ∈ listings.patterns, pattern.id ≠ id := by
            intro pattern member isId
            cases ((byId_eq_some keyed).mpr ⟨member, isId⟩).symm.trans found
          simpa using fun pattern member isId => absurd isId (absent pattern member)
      | some pattern =>
          obtain ⟨member, isId⟩ := (byId_eq_some keyed).mp found
          simp only [Option.map_some, Option.getD_some, Function.comp_apply, beq_iff_eq,
            List.any_eq_true, Bool.and_eq_true, decide_eq_true_eq]
          constructor
          · intro isTarget
            exact ⟨pattern, member, isId, isTarget⟩
          · rintro ⟨other, otherIn, sameId, isTarget⟩
            obtain rfl := List.inj_on_of_nodup_map keyed otherIn member (sameId.trans isId.symm)
            exact isTarget

theorem count_patternTargets (keyed : (listings.patterns.map Pattern.id).Nodup) (decision : Decision)
    (patternId : Uuid) :
    (listings.patternTargets decision).count patternId = listings.patternPaths decision patternId :=
  count_targets keyed Pattern.id decision patternId

theorem count_contextTargets (keyed : (listings.patterns.map Pattern.id).Nodup) (decision : Decision)
    (contextId : Uuid) :
    (listings.contextTargets decision).count contextId = listings.contextPaths decision contextId :=
  count_targets keyed Pattern.contextId decision contextId

end Paths

/-! ### The counts of a report -/

section Counts

/-- The decisions with outcomes that have a path to an artifact. -/
def linkedDecisions (paths : Decision → Uuid → Nat) (decisions : List Decision) (artifactId : Uuid) :
    List Decision :=
  decisions.filter fun decision => decision.hasOutcomes && decide (0 < paths decision artifactId)

/-- Counts are sums over some decisions. -/
structure SumsOver (std : Stdlib) (decisions : List Decision) (counts : OutcomeCounts) : Prop where
  linked : counts.linked = decisions.length
  corroborated : counts.corroborated = (decisions.map (verdict std (·.corroborated))).sum
  contradicted : counts.contradicted = (decisions.map (verdict std (·.contradicted))).sum
  inconclusive : counts.inconclusive = (decisions.map (verdict std (·.inconclusive))).sum

/-- No decision with outcomes has two paths to an artifact. -/
def SinglePaths (paths : Decision → Uuid → Nat) (decisions : List Decision) (artifactId : Uuid) : Prop :=
  ∀ decision ∈ decisions, decision.hasOutcomes → paths decision artifactId ≤ 1

variable {std : Stdlib} {paths : Decision → Uuid → Nat} {targets : Decision → List Uuid}
  {decisions : List Decision} {artifactId : Uuid}

theorem linkedDecisions_eq
    (counted : ∀ decision, (targets decision).count artifactId = paths decision artifactId) :
    linkedDecisions paths decisions artifactId =
      (decisions.filter Decision.hasOutcomes).filter fun decision =>
        decide (artifactId ∈ targets decision) := by
  rw [linkedDecisions, List.filter_filter]
  refine List.filter_congr fun decision _ => ?_
  rw [← counted, Bool.and_comm]
  simp only [List.count_pos_iff]

/-- **What the loop tallies for an artifact are sums over distinct decisions** exactly when none of them
has two paths to it. -/
theorem tallyOutcomes_sums
    (counted : ∀ decision, (targets decision).count artifactId = paths decision artifactId) :
    SumsOver std (linkedDecisions paths decisions artifactId)
        (tallyOutcomes std targets decisions artifactId) ↔
      SinglePaths paths decisions artifactId := by
  have single : SinglePaths paths decisions artifactId ↔
      ∀ decision ∈ decisions.filter Decision.hasOutcomes,
        (targets decision).count artifactId ≤ 1 := by
    simp only [SinglePaths, List.mem_filter, counted, and_imp]
  have once (weight : Decision → Nat) :
      ((linkedDecisions paths decisions artifactId).map weight).sum =
        Tally.weighOnce targets weight (decisions.filter Decision.hasOutcomes) artifactId := by
    rw [linkedDecisions_eq counted]
    rfl
  have size : (linkedDecisions paths decisions artifactId).length =
      Tally.weighOnce targets (fun _ => 1) (decisions.filter Decision.hasOutcomes) artifactId := by
    rw [← once]
    simp
  rw [single]
  constructor
  · intro sums
    exact Tally.weigh_one_eq_iff.mp (sums.linked.trans size)
  · intro all
    exact {
      linked := (Tally.weigh_eq_weighOnce all).trans size.symm
      corroborated := (Tally.weigh_eq_weighOnce all).trans (once _).symm
      contradicted := (Tally.weigh_eq_weighOnce all).trans (once _).symm
      inconclusive := (Tally.weigh_eq_weighOnce all).trans (once _).symm }

theorem linkedDecisions_eq_nil (unlinked : linkedDecisions paths decisions artifactId = []) :
    SinglePaths paths decisions artifactId := by
  intro decision member observed
  have none := List.filter_eq_nil_iff.mp unlinked decision member
  simp only [observed, Bool.true_and, decide_eq_true_eq, Nat.not_lt, Nat.le_zero] at none
  omega

end Counts

/-! ### The reports -/

section Reports

variable {std : Stdlib} {listings : Listings}

/-- The counts of a result. -/
def PatternRefinementResult.counts (result : PatternRefinementResult) : OutcomeCounts where
  linked := result.linkedDecisions
  corroborated := result.corroborated
  contradicted := result.contradicted
  inconclusive := result.inconclusive

/-- The counts of a result. -/
def ContextRevisionResult.counts (result : ContextRevisionResult) : OutcomeCounts where
  linked := result.linkedDecisions
  corroborated := result.corroborated
  contradicted := result.contradicted
  inconclusive := result.inconclusive

theorem outcomesReach_iff {paths : Decision → Uuid → Nat} {targets : Decision → List Uuid}
    {decisions : List Decision} {artifactId : Uuid}
    (counted : ∀ decision, (targets decision).count artifactId = paths decision artifactId) :
    OutcomesReach targets decisions artifactId ↔ linkedDecisions paths decisions artifactId ≠ [] := by
  rw [linkedDecisions_eq counted, Ne, List.filter_eq_nil_iff]
  simp [OutcomesReach]

/-- **The reported patterns**: those that a decision is linked to, each with its tally. -/
theorem mem_buildPatternRefinement (keyed : (listings.patterns.map Pattern.id).Nodup)
    {results : List PatternRefinementResult}
    (built : buildPatternRefinement std listings = .ok results) {result : PatternRefinementResult} :
    result ∈ results ↔ ∃ pattern ∈ listings.patterns,
      linkedDecisions listings.patternPaths listings.decisions pattern.id ≠ [] ∧
      refinePattern pattern (tallyOutcomes std listings.patternTargets listings.decisions pattern.id) =
        result := by
  obtain ⟨attribution, attributed, filtered⟩ := Result.bind_eq_ok.mp built
  rw [← Result.pure_eq_ok.mp filtered, List.mem_filterMap]
  refine exists_congr fun pattern => and_congr_right fun _ => ?_
  rw [attributed_eq attributed,
    ← outcomesReach_iff fun decision => count_patternTargets keyed decision pattern.id]
  split
  · rename_i linked
    simp only [Option.map_some, Option.some.injEq]
    exact (and_iff_right linked).symm
  · rename_i unlinked
    exact iff_of_false (fun found => nomatch found) fun both => unlinked both.1

/-- **The reported contexts**: those that a decision is linked to, each with its tally. -/
theorem mem_buildContextRevision_iff (keyed : (listings.patterns.map Pattern.id).Nodup)
    {results : List ContextRevisionResult}
    (built : buildContextRevision std listings = .ok results) {result : ContextRevisionResult} :
    result ∈ results ↔ ∃ context ∈ listings.contexts,
      linkedDecisions listings.contextPaths listings.decisions context.id ≠ [] ∧
      reviseContext std context
        (tallyOutcomes std listings.contextTargets listings.decisions context.id) = .ok result := by
  obtain ⟨attribution, attributed, mapped⟩ := Result.bind_eq_ok.mp built
  rw [Result.mem_mapM mapped]
  have known (context : Context) (counts : OutcomeCounts) :
      attribution context.id = some counts ↔
        linkedDecisions listings.contextPaths listings.decisions context.id ≠ [] ∧
          tallyOutcomes std listings.contextTargets listings.decisions context.id = counts := by
    rw [attributed_eq attributed,
      ← outcomesReach_iff fun decision => count_contextTargets keyed decision context.id]
    simp
  constructor
  · rintro ⟨row, listed, revised⟩
    obtain ⟨context, inside, counted⟩ := List.mem_filterMap.mp listed
    obtain ⟨counts, isCounts, rfl⟩ := Option.map_eq_some_iff.mp counted
    obtain ⟨linked, rfl⟩ := (known context counts).mp isCounts
    exact ⟨context, inside, linked, revised⟩
  · rintro ⟨context, inside, linked, revised⟩
    refine ⟨(context, _), List.mem_filterMap.mpr ⟨context, inside, ?_⟩, revised⟩
    rw [(known context _).mpr ⟨linked, rfl⟩]
    rfl

theorem buildContextRevision_linked (keyed : (listings.patterns.map Pattern.id).Nodup)
    {results : List ContextRevisionResult}
    (built : buildContextRevision std listings = .ok results) {context : Context}
    (listed : context ∈ listings.contexts)
    (linked : linkedDecisions listings.contextPaths listings.decisions context.id ≠ []) :
    ∃ result, reviseContext std context
      (tallyOutcomes std listings.contextTargets listings.decisions context.id) = .ok result := by
  obtain ⟨attribution, attributed, mapped⟩ := Result.bind_eq_ok.mp built
  have reached : OutcomesReach listings.contextTargets listings.decisions context.id :=
    (outcomesReach_iff fun decision => count_contextTargets keyed decision context.id).mpr linked
  have counted : attribution context.id =
      some (tallyOutcomes std listings.contextTargets listings.decisions context.id) := by
    rw [attributed_eq attributed, if_pos reached]
  have inside : (context, tallyOutcomes std listings.contextTargets listings.decisions context.id) ∈
      listings.contexts.filterMap fun context =>
        (attribution context.id).map fun counts => (context, counts) := by
    refine List.mem_filterMap.mpr ⟨context, listed, ?_⟩
    rw [counted]
    rfl
  exact Result.mapM_returns mapped inside

theorem reviseContext_counts {context : Context} {counts : OutcomeCounts}
    {result : ContextRevisionResult} (revised : reviseContext std context counts = .ok result) :
    result.contextId = context.id ∧ result.counts = counts := by
  obtain ⟨recommended, -, rebuilt⟩ := Result.bind_eq_ok.mp revised
  rw [← Result.pure_eq_ok.mp rebuilt]
  exact ⟨rfl, rfl⟩

/-- **When outcomes are counted once.** The counts that a report of the patterns (of the contexts) gives
are sums over the distinct decisions that are linked to the artifact, exactly when no decision with
outcomes has two paths to a listed pattern (context). -/
theorem counted_once_iff (std : Stdlib) (listings : Listings) (keyed : listings.Keyed) :
    (∀ results, buildPatternRefinement std listings = .ok results →
      ((∀ result ∈ results, SumsOver std
          (linkedDecisions listings.patternPaths listings.decisions result.patternId) result.counts) ↔
        ∀ pattern ∈ listings.patterns,
          SinglePaths listings.patternPaths listings.decisions pattern.id)) ∧
    ∀ results, buildContextRevision std listings = .ok results →
      ((∀ result ∈ results, SumsOver std
          (linkedDecisions listings.contextPaths listings.decisions result.contextId) result.counts) ↔
        ∀ context ∈ listings.contexts,
          SinglePaths listings.contextPaths listings.decisions context.id) := by
  constructor
  · intro results built
    have sums (id : Uuid) : SumsOver std
          (linkedDecisions listings.patternPaths listings.decisions id)
          (tallyOutcomes std listings.patternTargets listings.decisions id) ↔
        SinglePaths listings.patternPaths listings.decisions id :=
      tallyOutcomes_sums fun decision => count_patternTargets keyed.patterns decision id
    constructor
    · intro all pattern listed
      by_cases linked : linkedDecisions listings.patternPaths listings.decisions pattern.id = []
      · exact linkedDecisions_eq_nil linked
      · exact (sums pattern.id).mp (all _ ((mem_buildPatternRefinement keyed.patterns built).mpr
          ⟨pattern, listed, linked, rfl⟩))
    · intro single result reported
      obtain ⟨pattern, listed, -, rfl⟩ :=
        (mem_buildPatternRefinement keyed.patterns built).mp reported
      exact (sums pattern.id).mpr (single pattern listed)
  · intro results built
    have sums (id : Uuid) : SumsOver std
          (linkedDecisions listings.contextPaths listings.decisions id)
          (tallyOutcomes std listings.contextTargets listings.decisions id) ↔
        SinglePaths listings.contextPaths listings.decisions id :=
      tallyOutcomes_sums fun decision => count_contextTargets keyed.patterns decision id
    constructor
    · intro all context listed
      by_cases linked : linkedDecisions listings.contextPaths listings.decisions context.id = []
      · exact linkedDecisions_eq_nil linked
      · obtain ⟨result, revised⟩ := buildContextRevision_linked keyed.patterns built listed linked
        have reported := all result ((mem_buildContextRevision_iff keyed.patterns built).mpr
          ⟨context, listed, linked, revised⟩)
        obtain ⟨sameId, counts⟩ := reviseContext_counts revised
        rw [sameId, counts] at reported
        exact (sums context.id).mp reported
    · intro single result reported
      obtain ⟨context, listed, -, revised⟩ :=
        (mem_buildContextRevision_iff keyed.patterns built).mp reported
      obtain ⟨sameId, counts⟩ := reviseContext_counts revised
      rw [sameId, counts]
      exact (sums context.id).mpr (single context listed)

end Reports

/-! ### The minimum of samples -/

section Minimum

variable {std : Stdlib} {listings : Listings}

/-- The recommendations to change a pattern or a context. -/
def changingRecommendations : List String :=
  ["degrade", "deactivate", "review", "consider_competitor"]

/-- The tally fills the minimum, and something in it was contradicted. -/
def OutcomeCounts.asksForChange (counts : OutcomeCounts) : Prop :=
  2 ≤ counts.corroborated + counts.contradicted ∧ counts.contradicted ≠ 0

theorem refinePattern_changes_iff (pattern : Pattern) (counts : OutcomeCounts) :
    (refinePattern pattern counts).recommendedAction ∈ changingRecommendations ↔
      counts.asksForChange := by
  have none (zero : counts.contradicted = 0) : counts.contradictionRatio = 0 := by
    simp [OutcomeCounts.contradictionRatio, zero]
  unfold refinePattern OutcomeCounts.asksForChange
  dsimp only
  split
  · rename_i few
    have below : counts.corroborated + counts.contradicted < 2 := few
    simp [changingRecommendations]
    omega
  · rename_i enough
    have filled : ¬ counts.corroborated + counts.contradicted < 2 := enough
    split
    · rename_i contradicted
      have some : counts.contradicted ≠ 0 := by
        intro zero
        rw [none zero] at contradicted
        exact absurd contradicted (by unfold deactivateThreshold; norm_num)
      simp [changingRecommendations]
      omega
    · split
      · simp [changingRecommendations]
        omega
      · simp [changingRecommendations]
        omega

theorem reviseContext_changes_iff {context : Context} {counts : OutcomeCounts}
    {result : ContextRevisionResult} (revised : reviseContext std context counts = .ok result) :
    result.recommendedRevision ∈ changingRecommendations ↔ counts.asksForChange := by
  obtain ⟨recommended, decided, rebuilt⟩ := Result.bind_eq_ok.mp revised
  rw [← Result.pure_eq_ok.mp rebuilt]
  unfold recommendRevision at decided
  unfold OutcomeCounts.asksForChange
  dsimp only at decided ⊢
  split at decided
  · rename_i kept
    have few : counts.corroborated + counts.contradicted < 2 ∨ counts.contradicted = 0 := kept
    rw [← Except.ok.inj decided]
    simp [changingRecommendations]
    omega
  · rename_i changes
    have enough : ¬ (counts.corroborated + counts.contradicted < 2 ∨ counts.contradicted = 0) := changes
    have changed : recommended.1 ∈ changingRecommendations := by
      split at decided
      · obtain ⟨suggested, -, returned⟩ := Result.bind_eq_ok.mp decided
        rw [← Result.pure_eq_ok.mp returned]
        simp [changingRecommendations]
      · rw [← Except.ok.inj decided]
        simp [changingRecommendations]
    exact iff_of_true changed (by omega)

/-- A decision fills the minimum of an artifact alone: its decided metrics, counted along each of its
paths, are enough, and one of them was contradicted. -/
def FillsMinimumAlone (std : Stdlib) (paths : Decision → Uuid → Nat) (decision : Decision)
    (artifactId : Uuid) : Prop :=
  2 ≤ paths decision artifactId *
      (verdict std (·.corroborated) decision + verdict std (·.contradicted) decision) ∧
    verdict std (·.contradicted) decision ≠ 0

section Single

variable {paths : Decision → Uuid → Nat} {targets : Decision → List Uuid} {decisions : List Decision}
  {artifactId : Uuid} {decision : Decision}

theorem weigh_single
    (counted : ∀ decision, (targets decision).count artifactId = paths decision artifactId)
    (single : linkedDecisions paths decisions artifactId = [decision]) (weight : Decision → Nat) :
    Tally.weigh targets weight (decisions.filter Decision.hasOutcomes) artifactId =
      paths decision artifactId * weight decision := by
  rw [Tally.weigh_eq_pointing, Tally.weighOnce, ← linkedDecisions_eq counted, single,
    List.map_singleton, List.sum_singleton, counted]

theorem asksForChange_single
    (counted : ∀ decision, (targets decision).count artifactId = paths decision artifactId)
    (single : linkedDecisions paths decisions artifactId = [decision]) :
    (tallyOutcomes std targets decisions artifactId).asksForChange ↔
      FillsMinimumAlone std paths decision artifactId := by
  have linked : decision ∈ linkedDecisions paths decisions artifactId := by
    rw [single]
    exact List.mem_singleton_self decision
  have positive : 0 < paths decision artifactId := by
    have both := (List.mem_filter.mp linked).2
    exact of_decide_eq_true (Bool.and_eq_true_iff.mp both).2
  unfold OutcomeCounts.asksForChange FillsMinimumAlone tallyOutcomes
  dsimp only
  rw [weigh_single counted single, weigh_single counted single, ← Nat.mul_add]
  refine and_congr_right fun _ => ?_
  rw [Ne, Nat.mul_eq_zero, not_or]
  exact and_iff_right (Nat.ne_of_gt positive)

theorem linkedDecisions_few (few : (linkedDecisions paths decisions artifactId).length < 2)
    (linked : linkedDecisions paths decisions artifactId ≠ []) :
    ∃ decision, linkedDecisions paths decisions artifactId = [decision] := by
  have positive := List.length_pos_of_ne_nil linked
  exact List.length_eq_one_iff.mp (by omega)

end Single

/-- **When the minimum of samples is one of decisions.** A report of the patterns (of the contexts)
recommends no change of a pattern (context) with fewer than two distinct decisions with outcomes, exactly
when no decision that is the only one of a listed pattern (context) fills the minimum alone. -/
theorem minimum_samples_iff (std : Stdlib) (listings : Listings) (keyed : listings.Keyed) :
    (∀ results, buildPatternRefinement std listings = .ok results →
      ((∀ result ∈ results,
          (linkedDecisions listings.patternPaths listings.decisions result.patternId).length < 2 →
          result.recommendedAction ∉ changingRecommendations) ↔
        ∀ pattern ∈ listings.patterns, ∀ decision,
          linkedDecisions listings.patternPaths listings.decisions pattern.id = [decision] →
          ¬ FillsMinimumAlone std listings.patternPaths decision pattern.id)) ∧
    ∀ results, buildContextRevision std listings = .ok results →
      ((∀ result ∈ results,
          (linkedDecisions listings.contextPaths listings.decisions result.contextId).length < 2 →
          result.recommendedRevision ∉ changingRecommendations) ↔
        ∀ context ∈ listings.contexts, ∀ decision,
          linkedDecisions listings.contextPaths listings.decisions context.id = [decision] →
          ¬ FillsMinimumAlone std listings.contextPaths decision context.id) := by
  constructor
  · intro results built
    constructor
    · intro kept pattern listed decision single fills
      have reported := (mem_buildPatternRefinement keyed.patterns built).mpr
        ⟨pattern, listed, by rw [single]; exact List.cons_ne_nil _ _, rfl⟩
      refine kept _ reported ?_ ?_
      · change (linkedDecisions listings.patternPaths listings.decisions pattern.id).length < 2
        rw [single]
        exact Nat.one_lt_two
      · rw [refinePattern_changes_iff]
        exact (asksForChange_single (fun decision =>
          count_patternTargets keyed.patterns decision pattern.id) single).mpr fills
    · intro alone result reported few
      obtain ⟨pattern, listed, linked, rfl⟩ :=
        (mem_buildPatternRefinement keyed.patterns built).mp reported
      obtain ⟨decision, single⟩ := linkedDecisions_few few linked
      rw [refinePattern_changes_iff]
      intro changes
      exact alone pattern listed decision single ((asksForChange_single (fun decision =>
        count_patternTargets keyed.patterns decision pattern.id) single).mp changes)
  · intro results built
    constructor
    · intro kept context listed decision single fills
      have linked : linkedDecisions listings.contextPaths listings.decisions context.id ≠ [] := by
        rw [single]
        exact List.cons_ne_nil _ _
      obtain ⟨result, revised⟩ := buildContextRevision_linked keyed.patterns built listed linked
      have reported := (mem_buildContextRevision_iff keyed.patterns built).mpr
        ⟨context, listed, linked, revised⟩
      refine kept result reported ?_ ?_
      · rw [(reviseContext_counts revised).1, single]
        exact Nat.one_lt_two
      · rw [reviseContext_changes_iff revised]
        exact (asksForChange_single (fun decision =>
          count_contextTargets keyed.patterns decision context.id) single).mpr fills
    · intro alone result reported few
      obtain ⟨context, listed, linked, revised⟩ :=
        (mem_buildContextRevision_iff keyed.patterns built).mp reported
      rw [(reviseContext_counts revised).1] at few
      obtain ⟨decision, single⟩ := linkedDecisions_few few linked
      rw [reviseContext_changes_iff revised]
      intro changes
      exact alone context listed decision single ((asksForChange_single (fun decision =>
        count_contextTargets keyed.patterns decision context.id) single).mp changes)

end Minimum

/-! ### One decision -/

theorem contradictedListings_keyed : contradictedListings.Keyed where
  decisions := by decide
  recommendations := by decide
  hypotheses := by decide
  patterns := by decide
  contexts := by decide
  insights := by decide

/-- Its hypothesis names a second pattern of the context. -/
def twoPatternListings : Listings :=
  { contradictedListings with
    hypotheses := [{
      id := 5
      tenantId := 1
      anomalyIds := []
      patternIds := [4, 9]
      description := ""
      predictedConsequences := []
      falsificationCriterion := ""
      coherenceScore := ⟨1 / 2, half_isUnit⟩
      status := "supported"
      generatedAt := 0 }]
    patterns := [{
      id := 4
      tenantId := 1
      contextId := 0
      patternType := "recurrence"
      strengthMeasure := 1 / 2
      detectedAt := 0
      isActive := true },
    { id := 9
      tenantId := 1
      contextId := 0
      patternType := "trend"
      strengthMeasure := 1 / 2
      detectedAt := 0
      isActive := true }] }

theorem twoPatternListings_keyed : twoPatternListings.Keyed where
  decisions := by decide
  recommendations := by decide
  hypotheses := by decide
  patterns := by decide
  contexts := by decide
  insights := by decide

deriving instance DecidableEq for PatternRefinementResult

/-- What the refinement reports about a pattern whose only decision had two contradicted metrics. -/
def contradictedPattern (patternId : Uuid) : PatternRefinementResult where
  patternId := patternId
  contextId := 0
  recommendedAction := "deactivate"
  recommendedStrength := 0
  currentStrength := 1 / 2
  linkedDecisions := 1
  corroborated := 0
  contradicted := 2
  inconclusive := 0
  contradictionRatio := 1

theorem refinement_contradicted :
    buildPatternRefinement .constant contradictedListings = .ok [contradictedPattern 4] := by
  decide +kernel

theorem refinement_two_patterns : buildPatternRefinement .constant twoPatternListings =
    .ok [contradictedPattern 4, contradictedPattern 9] := by
  decide +kernel

/-- What the revision reports when the decision is counted for each of the two patterns. -/
def doubledRevision : ContextRevisionResult :=
  { pressureRevision with
    linkedDecisions := 2
    contradicted := 4 }

theorem revision_doubled :
    buildContextRevision .constant twoPatternListings = .ok [doubledRevision] := by
  decide +kernel

/-- **A decision counted twice.** The context has one decision with outcomes, and the revision reports
two. -/
theorem decision_counted_twice :
    buildContextRevision .constant twoPatternListings = .ok [doubledRevision] ∧
      (linkedDecisions twoPatternListings.contextPaths twoPatternListings.decisions
        doubledRevision.contextId).length = 1 ∧
      doubledRevision.linkedDecisions = 2 ∧
      ¬ SumsOver .constant (linkedDecisions twoPatternListings.contextPaths
        twoPatternListings.decisions doubledRevision.contextId) doubledRevision.counts := by
  have one : (linkedDecisions twoPatternListings.contextPaths twoPatternListings.decisions
      doubledRevision.contextId).length = 1 := by
    decide +kernel
  refine ⟨revision_doubled, one, rfl, fun sums => ?_⟩
  have two : (2 : Nat) = 1 := sums.linked.trans one
  omega

/-- The condition, for these listings. -/
theorem counted_once_two_patterns :
    ((∀ result ∈ [contradictedPattern 4, contradictedPattern 9],
        SumsOver .constant (linkedDecisions twoPatternListings.patternPaths
          twoPatternListings.decisions result.patternId) result.counts) ↔
      ∀ pattern ∈ twoPatternListings.patterns,
        SinglePaths twoPatternListings.patternPaths twoPatternListings.decisions pattern.id) ∧
    ((∀ result ∈ [doubledRevision],
        SumsOver .constant (linkedDecisions twoPatternListings.contextPaths
          twoPatternListings.decisions result.contextId) result.counts) ↔
      ∀ context ∈ twoPatternListings.contexts,
        SinglePaths twoPatternListings.contextPaths twoPatternListings.decisions context.id) :=
  ⟨(counted_once_iff .constant twoPatternListings twoPatternListings_keyed).1 _
      refinement_two_patterns,
    (counted_once_iff .constant twoPatternListings twoPatternListings_keyed).2 _ revision_doubled⟩

/-- **Changes recommended after one decision.** Its two metrics fill the minimum of samples. -/
theorem single_decision_changes :
    buildPatternRefinement .constant contradictedListings = .ok [contradictedPattern 4] ∧
      (linkedDecisions contradictedListings.patternPaths contradictedListings.decisions 4).length = 1 ∧
      (contradictedPattern 4).recommendedAction ∈ changingRecommendations ∧
      buildContextRevision .constant contradictedListings = .ok [pressureRevision] ∧
      (linkedDecisions contradictedListings.contextPaths contradictedListings.decisions
        pressureRevision.contextId).length = 1 ∧
      pressureRevision.recommendedRevision ∈ changingRecommendations :=
  ⟨refinement_contradicted, by decide +kernel, by decide, revision_contradicted, by decide +kernel,
    by decide⟩

/-- The condition, for these listings. -/
theorem minimum_samples_single :
    ((∀ result ∈ [contradictedPattern 4],
        (linkedDecisions contradictedListings.patternPaths contradictedListings.decisions
          result.patternId).length < 2 →
        result.recommendedAction ∉ changingRecommendations) ↔
      ∀ pattern ∈ contradictedListings.patterns, ∀ decision,
        linkedDecisions contradictedListings.patternPaths contradictedListings.decisions pattern.id =
          [decision] →
        ¬ FillsMinimumAlone .constant contradictedListings.patternPaths decision pattern.id) ∧
    ((∀ result ∈ [pressureRevision],
        (linkedDecisions contradictedListings.contextPaths contradictedListings.decisions
          result.contextId).length < 2 →
        result.recommendedRevision ∉ changingRecommendations) ↔
      ∀ context ∈ contradictedListings.contexts, ∀ decision,
        linkedDecisions contradictedListings.contextPaths contradictedListings.decisions context.id =
          [decision] →
        ¬ FillsMinimumAlone .constant contradictedListings.contextPaths decision context.id) :=
  ⟨(minimum_samples_iff .constant contradictedListings contradictedListings_keyed).1 _
      refinement_contradicted,
    (minimum_samples_iff .constant contradictedListings contradictedListings_keyed).2 _
      revision_contradicted⟩

end CosMonitor
