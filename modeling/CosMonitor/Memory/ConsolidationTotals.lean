/-
**What a consolidation conserves, for one decision and for a batch.**

* `ConsolidationResult.Conserves`: every expected outcome is counted once and has a detail, and the feedback
  lies in `[-1, 1]`; whatever `build_consolidation` returns conserves (`buildConsolidation_conserves`);
* `consolidateDecisions`: the batch of one tenant; a decision of another one is rejected first
  (`consolidateDecisions_foreign`);
* `consolidation_conserves_iff`: the consolidation of a decision returns, and the totals of a batch are the
  sums over its decisions in any order, exactly when every prediction can be converted and every matched one
  has a squared distance that is a double. One prediction out of range ends it (`huge_prediction_raises`).
-/

import CosMonitor.Memory.OutcomeAgreement

namespace CosMonitor

/-! ### One decision -/

section Decision

/-- What a consolidation of a decision conserves. -/
structure ConsolidationResult.Conserves (decision : DecisionView) (result : ConsolidationResult) : Prop where
  counted : result.corroborated + result.contradicted + result.inconclusive = result.expectedCount
  expected : result.expectedCount = decision.expectedOutcomes.length
  detailed : result.details.length = result.expectedCount
  feedback : -1 ≤ result.calibrationFeedback ∧ result.calibrationFeedback ≤ 1

theorem balance_between (first second : Nat) :
    -1 ≤ ((first : ℚ) - second) / ((first + second : ℕ) : ℚ) ∧
      ((first : ℚ) - second) / ((first + second : ℕ) : ℚ) ≤ 1 := by
  have counted : (0 : ℚ) ≤ first := Nat.cast_nonneg _
  have others : (0 : ℚ) ≤ second := Nat.cast_nonneg _
  rcases Nat.eq_zero_or_pos (first + second) with none | some
  · rw [none, Nat.cast_zero, div_zero]
    norm_num
  · have total : (0 : ℚ) < ((first + second : ℕ) : ℚ) := by exact_mod_cast some
    rw [le_div_iff₀ total, div_le_one total, Nat.cast_add]
    constructor <;> linarith

theorem feedback_between (first second : Nat) :
    -1 ≤ (if first + second = 0 then 0
      else roundHalfEven 4 (((first : ℚ) - second) / ((first + second : ℕ) : ℚ))) ∧
    (if first + second = 0 then 0
      else roundHalfEven 4 (((first : ℚ) - second) / ((first + second : ℕ) : ℚ))) ≤ 1 := by
  split
  · norm_num
  · obtain ⟨above, below⟩ := balance_between first second
    have between : ((-1 : ℤ) : ℚ) ≤ roundHalfEven 4 (((first : ℚ) - second) / ((first + second : ℕ) : ℚ)) ∧
        roundHalfEven 4 (((first : ℚ) - second) / ((first + second : ℕ) : ℚ)) ≤ ((1 : ℤ) : ℚ) :=
      roundHalfEven_between 4 (by exact_mod_cast above) (by exact_mod_cast below)
    exact_mod_cast between

variable {std : Stdlib} {decision : DecisionView} {result : ConsolidationResult}

/-- **A consolidation that returned conserves.** -/
theorem buildConsolidation_conserves (built : buildConsolidation std decision = .ok result) :
    result.Conserves decision := by
  have counted := buildConsolidation_counts built
  unfold buildConsolidation at built
  split at built
  · obtain rfl := Except.ok.inj built
    exact ⟨counted, rfl, List.length_map .., by norm_num, by norm_num⟩
  · obtain ⟨details, classified, built⟩ := Result.bind_eq_ok.mp built
    obtain ⟨brier, -, built⟩ := Result.bind_eq_ok.mp built
    obtain rfl := Result.pure_eq_ok.mp built
    exact ⟨counted, rfl, (Result.mapM_eq_ok.mp classified).length_eq.symm, feedback_between _ _⟩

/-- A decision whose outcomes can be consolidated: it is pending, or its predictions can be converted and
the matched ones have a squared distance that is a double. -/
def Consolidatable (std : Stdlib) (decision : DecisionView) : Prop :=
  decision.outcomeStatus = some "pending" ∨
    (∀ expected ∈ decision.expectedOutcomes, Classifiable expected) ∧
      ReadingsBounded std (decision.actualOutcomes.getD []) decision.expectedOutcomes

theorem buildConsolidation_returned_iff :
    (∃ result, buildConsolidation std decision = .ok result) ↔ Consolidatable std decision := by
  by_cases pending : decision.outcomeStatus = some "pending"
  · obtain ⟨result, built, -⟩ := @buildConsolidation_pending std decision pending
    exact ⟨fun _ => .inl pending, fun _ => ⟨result, built⟩⟩
  · constructor
    · rintro ⟨result, built⟩
      obtain ⟨-, -, classifiable, bounded⟩ := buildConsolidation_readings pending built
      exact .inr ⟨classifiable, bounded⟩
    · rintro (isPending | ⟨classifiable, bounded⟩)
      · exact absurd isPending pending
      · exact buildConsolidation_returns pending classifiable bounded

theorem buildConsolidation_bounded (built : buildConsolidation std decision = .ok result) :
    ∀ pair ∈ result.details.filterMap ConsolidationDetail.outcomePair, Bounded pair.1 pair.2 := by
  unfold buildConsolidation at built
  split at built
  · obtain rfl := Except.ok.inj built
    have none : (decision.expectedOutcomes.map fun _ => ({
        metric := none
        prediction := none
        actual := none
        classification := .inconclusive
        reason := some "outcome_status_pending" } : ConsolidationDetail)).filterMap
          ConsolidationDetail.outcomePair = [] := by
      rw [List.filterMap_map, List.filterMap_eq_nil_iff]
      exact fun _ _ => rfl
    rw [none]
    exact fun _ absent => (nomatch absent)
  · obtain ⟨details, classified, built⟩ := Result.bind_eq_ok.mp built
    obtain ⟨brier, scored, built⟩ := Result.bind_eq_ok.mp built
    obtain rfl := Result.pure_eq_ok.mp built
    exact brierScore_returns.mp ⟨brier, scored⟩

end Decision

/-! ### A batch -/

section Batch

/-- What the consolidation of a batch raises. -/
inductive ConsolidationError where
  | crossTenant (decisionId owner requested : Uuid)
  | python (error : PyError)
  deriving DecidableEq

/-- `ConsolidationReport`. -/
structure ConsolidationReport where
  tenantId : Uuid
  totalDecisions : Nat
  decisionsWithActuals : Nat
  corroborated : Nat
  contradicted : Nat
  inconclusive : Nat
  aggregateFeedback : ℚ
  brier : Option PyFloat
  ece : Option ℚ
  results : List ConsolidationResult
  deriving DecidableEq

/-- `consolidate_decisions`. -/
def consolidateDecisions (std : Stdlib) (tenantId : Uuid) (decisions : List DecisionView) :
    Except ConsolidationError ConsolidationReport :=
  match decisions.find? fun decision => decide (decision.tenantId ≠ tenantId) with
  | some decision => .error (.crossTenant decision.id decision.tenantId tenantId)
  | none => do
      let results ← (decisions.mapM (buildConsolidation std)).mapError .python
      let corroborated := (results.map ConsolidationResult.corroborated).sum
      let contradicted := (results.map ConsolidationResult.contradicted).sum
      let matched := corroborated + contradicted
      let pairs := results.flatMap fun result =>
        result.details.filterMap ConsolidationDetail.outcomePair
      let brier ← (brierScore pairs).mapError .python
      return {
        tenantId
        totalDecisions := results.length
        decisionsWithActuals := results.countP ConsolidationResult.hasActuals
        corroborated
        contradicted
        inconclusive := (results.map ConsolidationResult.inconclusive).sum
        aggregateFeedback :=
          if matched = 0 then 0
          else roundHalfEven 4 (((corroborated : ℚ) - contradicted) / matched)
        brier := if pairs.isEmpty then none else some (brier.round 4)
        ece := if pairs.isEmpty then none
          else some (roundHalfEven 4 (eceScore .exact pairs CalibrationParams.default.M.toNat))
        results }

/-- The totals of a batch. -/
structure ConsolidationTotals where
  totalDecisions : Nat
  decisionsWithActuals : Nat
  corroborated : Nat
  contradicted : Nat
  inconclusive : Nat
  aggregateFeedback : ℚ
  deriving DecidableEq

/-- The totals of a report. -/
def ConsolidationReport.totals (report : ConsolidationReport) : ConsolidationTotals where
  totalDecisions := report.totalDecisions
  decisionsWithActuals := report.decisionsWithActuals
  corroborated := report.corroborated
  contradicted := report.contradicted
  inconclusive := report.inconclusive
  aggregateFeedback := report.aggregateFeedback

/-- The sums over the consolidations of decisions. -/
def sumTotals (results : List ConsolidationResult) : ConsolidationTotals where
  totalDecisions := results.length
  decisionsWithActuals := results.countP ConsolidationResult.hasActuals
  corroborated := (results.map ConsolidationResult.corroborated).sum
  contradicted := (results.map ConsolidationResult.contradicted).sum
  inconclusive := (results.map ConsolidationResult.inconclusive).sum
  aggregateFeedback :=
    let corroborated := (results.map ConsolidationResult.corroborated).sum
    let contradicted := (results.map ConsolidationResult.contradicted).sum
    if corroborated + contradicted = 0 then 0
    else roundHalfEven 4 (((corroborated : ℚ) - contradicted) / ((corroborated + contradicted : ℕ) : ℚ))

theorem sumTotals_perm {results others : List ConsolidationResult} (same : results.Perm others) :
    sumTotals results = sumTotals others := by
  unfold sumTotals
  rw [same.length_eq, same.countP_eq, (same.map ConsolidationResult.corroborated).sum_eq,
    (same.map ConsolidationResult.contradicted).sum_eq,
    (same.map ConsolidationResult.inconclusive).sum_eq]

variable {std : Stdlib} {tenantId : Uuid} {decisions : List DecisionView} {report : ConsolidationReport}

/-- **A decision of another tenant is rejected**, before anything is consolidated. -/
theorem consolidateDecisions_foreign {decision : DecisionView} (member : decision ∈ decisions)
    (foreign : decision.tenantId ≠ tenantId) :
    ∃ rejected ∈ decisions, rejected.tenantId ≠ tenantId ∧ consolidateDecisions std tenantId decisions =
      .error (.crossTenant rejected.id rejected.tenantId tenantId) := by
  rcases found : decisions.find? fun decision => decide (decision.tenantId ≠ tenantId) with - | rejected
  · rw [List.find?_eq_none] at found
    exact absurd (decide_eq_true foreign) (found decision member)
  · refine ⟨rejected, List.mem_of_find?_eq_some found, ?_, ?_⟩
    · simpa using List.find?_some found
    · unfold consolidateDecisions
      rw [found]

/-- **What the consolidation of a batch returned**: the consolidation of every decision, and their sums. -/
theorem consolidateDecisions_cases (returned : consolidateDecisions std tenantId decisions = .ok report) :
    (∀ decision ∈ decisions, decision.tenantId = tenantId) ∧
      List.Forall₂ (fun decision result => buildConsolidation std decision = .ok result) decisions
        report.results ∧
      report.totals = sumTotals report.results := by
  unfold consolidateDecisions at returned
  split at returned
  · cases returned
  · rename_i own
    obtain ⟨results, built, returned⟩ := Result.bind_eq_ok.mp returned
    obtain ⟨brier, -, returned⟩ := Result.bind_eq_ok.mp returned
    obtain rfl := Result.pure_eq_ok.mp returned
    refine ⟨fun decision member => ?_, Result.mapM_eq_ok.mp (Result.mapError_eq_ok.mp built), rfl⟩
    simpa using List.find?_eq_none.mp own decision member

/-- **A batch of one tenant returns** where each of its decisions does. -/
theorem consolidateDecisions_returns (own : ∀ decision ∈ decisions, decision.tenantId = tenantId)
    (each : ∀ decision ∈ decisions, ∃ result, buildConsolidation std decision = .ok result) :
    ∃ report, consolidateDecisions std tenantId decisions = .ok report := by
  have accepted : (decisions.find? fun decision => decide (decision.tenantId ≠ tenantId)) = none :=
    List.find?_eq_none.mpr fun decision member => by simp [own decision member]
  obtain ⟨results, built⟩ := Result.mapM_returned_iff.mpr each
  obtain ⟨brier, scored⟩ : ∃ brier, brierScore (results.flatMap fun result =>
      result.details.filterMap ConsolidationDetail.outcomePair) = .ok brier := by
    refine brierScore_returns.mpr fun pair member => ?_
    obtain ⟨result, listed, isPair⟩ := List.mem_flatMap.mp member
    obtain ⟨decision, -, done⟩ := (Result.mem_mapM built).mp listed
    exact buildConsolidation_bounded done pair isPair
  unfold consolidateDecisions
  rw [accepted]
  exact ⟨_, Result.bind_eq_ok.mpr ⟨results, Result.mapError_eq_ok.mpr built,
    Result.bind_eq_ok.mpr ⟨brier, Result.mapError_eq_ok.mpr scored, rfl⟩⟩⟩

theorem consolidations_perm {others : List DecisionView} (same : decisions.Perm others)
    {results moved : List ConsolidationResult}
    (built : List.Forall₂ (fun decision result => buildConsolidation std decision = .ok result)
      decisions results)
    (builtOthers : List.Forall₂ (fun decision result => buildConsolidation std decision = .ok result)
      others moved) : results.Perm moved := by
  -- Both lists are read off their decisions.
  have read : ∀ {decisions : List DecisionView} {results : List ConsolidationResult},
      List.Forall₂ (fun decision result => buildConsolidation std decision = .ok result)
        decisions results →
      results = decisions.filterMap fun decision => (buildConsolidation std decision).toOption := by
    intro decisions results each
    induction each with
    | nil => rfl
    | cons done rest ih =>
        rw [List.filterMap_cons, done]
        exact congrArg _ ih
  rw [read built, read builtOthers]
  exact same.filterMap _

end Batch

/-! ### When everything is conserved -/

section Conservation

/-- The decision is consolidated, and conserved. -/
def DecisionConserved (std : Stdlib) (decision : DecisionView) : Prop :=
  ∃ result, buildConsolidation std decision = .ok result ∧ result.Conserves decision

/-- The batch is consolidated, its totals are the sums over its decisions, and every reordering of it is
consolidated with the same totals. -/
def BatchConserved (std : Stdlib) (tenantId : Uuid) (decisions : List DecisionView) : Prop :=
  ∃ report, consolidateDecisions std tenantId decisions = .ok report ∧
    List.Forall₂ (fun decision result =>
      buildConsolidation std decision = .ok result ∧ result.Conserves decision) decisions report.results ∧
    report.totals = sumTotals report.results ∧
    ∀ others, decisions.Perm others → ∃ other, consolidateDecisions std tenantId others = .ok other ∧
      other.totals = report.totals

/-- **When a consolidation conserves.** A decision is consolidated and conserved exactly when it is pending
or its predictions are in range; so is a batch of one tenant, exactly when each of its decisions is. A batch
that mixes tenants is rejected, whichever tenant it is requested for. -/
theorem consolidation_conserves_iff (std : Stdlib) :
    (∀ decision, DecisionConserved std decision ↔ Consolidatable std decision) ∧
    (∀ tenantId decisions, (∀ decision ∈ decisions, decision.tenantId = tenantId) →
      (BatchConserved std tenantId decisions ↔
        ∀ decision ∈ decisions, Consolidatable std decision)) ∧
    ∀ tenantId decisions, ∀ first ∈ decisions, ∀ second ∈ decisions, first.tenantId ≠ second.tenantId →
      ∃ rejected ∈ decisions, rejected.tenantId ≠ tenantId ∧ consolidateDecisions std tenantId decisions =
        .error (.crossTenant rejected.id rejected.tenantId tenantId) := by
  refine ⟨fun decision => ?_, fun tenantId decisions own => ?_, ?_⟩
  · rw [← buildConsolidation_returned_iff]
    exact exists_congr fun result =>
      ⟨fun conserved => conserved.1, fun built => ⟨built, buildConsolidation_conserves built⟩⟩
  · constructor
    · rintro ⟨report, returned, -⟩ decision member
      obtain ⟨-, each, -⟩ := consolidateDecisions_cases returned
      exact buildConsolidation_returned_iff.mp (Result.mapM_returns (Result.mapM_eq_ok.mpr each) member)
    · intro consolidatable
      have each := fun decision member =>
        buildConsolidation_returned_iff.mpr (consolidatable decision member)
      obtain ⟨report, returned⟩ := consolidateDecisions_returns own each
      obtain ⟨-, built, summed⟩ := consolidateDecisions_cases returned
      refine ⟨report, returned, built.imp fun _ _ done => ⟨done, buildConsolidation_conserves done⟩,
        summed, fun others same => ?_⟩
      obtain ⟨other, returnedOther⟩ := @consolidateDecisions_returns std tenantId others
        (fun decision member => own decision (same.mem_iff.mpr member))
        fun decision member => each decision (same.mem_iff.mpr member)
      obtain ⟨-, builtOther, summedOther⟩ := consolidateDecisions_cases returnedOther
      refine ⟨other, returnedOther, ?_⟩
      rw [summed, summedOther]
      exact (sumTotals_perm (consolidations_perm same built builtOther)).symm
  · intro tenantId decisions first firstIn second secondIn apart
    by_cases foreign : first.tenantId = tenantId
    · exact consolidateDecisions_foreign secondIn fun same => apart (foreign.trans same.symm)
    · exact consolidateDecisions_foreign firstIn foreign

/-- A decision that predicts a success with a number whose square is no double, and its report. -/
def hugePrediction : DecisionView where
  id := 41
  tenantId := 1
  expectedOutcomes := [.obj [("prediction", .str "1e200"), ("verifiable_by", .str "cpu")]]
  actualOutcomes := some [.obj [("verifiable_by", .str "cpu"), ("value", .bool true)]]
  outcomeStatus := some "observed"

/-- **A prediction out of range.** Its squared distance from the outcome overflows, so nothing is
consolidated. -/
theorem huge_prediction_raises : ¬DecisionConserved countingStd hugePrediction := by
  have raised : (buildConsolidation countingStd hugePrediction).toOption.isSome = false := by
    decide +kernel
  rintro ⟨result, built, -⟩
  rw [built] at raised
  cases raised

end Conservation

end CosMonitor
