/-
**Learning feedback — the history that a calibration cycle is given.**

The history pairs the outcome of each decision with the score of its confidence. The confidences come
from the first page of an oldest-first listing, and a decision whose confidence is not there is left out.

* `completeHistory`: a pair for every decision with a determined outcome and a confidence of its own;
* `buildLearningHistory_pairs`: the pairs of a history that was built;
* `history_complete_iff`: the cycle is given the complete history exactly when fewer than two pairs
  belong to it, or nothing raises and every such confidence is among the first of its tenant;
* `history_incomplete`: two decisions, and five hundred older confidences before theirs.
-/

import CosMonitor.Confidence.Service

namespace CosMonitor

/-- The length of a page that is asked for without a limit. -/
def defaultLimit : Nat := 500

/-- The pair of a decision whose outcome is determined, with the score of a confidence. -/
def feedbackPair (std : Stdlib) (lookup : Uuid → Option Confidence) (decision : Decision) :
    Option OutcomePair :=
  match computeOutcomeSignal std decision, lookup decision.confidenceId with
  | .ok (some met), some confidence => some (.finite confidence.confidenceScore.val, met)
  | _, _ => none

theorem feedbackPair_eq_some {std : Stdlib} {lookup : Uuid → Option Confidence}
    {decision : Decision} {pair : OutcomePair} :
    feedbackPair std lookup decision = some pair ↔ ∃ met confidence,
      computeOutcomeSignal std decision = .ok (some met) ∧
      lookup decision.confidenceId = some confidence ∧
      pair = (.finite confidence.confidenceScore.val, met) := by
  unfold feedbackPair
  rcases computeOutcomeSignal std decision with failure | _ | met
  · simp
  · simp
  · rcases lookup decision.confidenceId with _ | confidence
    · simp
    · simp [eq_comm]

namespace TenantRows

variable (std : Stdlib) (tenant : TenantRows) (confidences : List Confidence)

/-- The tenant's confidence row of an id. -/
def ownConfidence (id : Uuid) : Option Confidence :=
  (confidences.filter fun row => decide (row.tenantId = tenant.tenantId)).find? fun row =>
    decide (row.id = id)

/-- One pair for every decision whose outcome is determined and whose own confidence row exists. -/
def completePairs : List OutcomePair :=
  (tenant.decisions.getD []).filterMap (feedbackPair std (tenant.ownConfidence confidences))

/-- The complete history; there is none with fewer than two pairs. -/
def completeHistory : Option (List OutcomePair) :=
  if 2 ≤ (tenant.completePairs std confidences).length then
    some (tenant.completePairs std confidences)
  else none

end TenantRows

/-! ### The history that is built -/

section Built

variable {std : Stdlib} {tenantId : Uuid} {decisions : List Decision} {scores : List Confidence}
  {history : LearningHistory}

theorem computeOutcomeSignal_absent {decision : Decision}
    (absent : decision.actualOutcomes.getD [] = []) :
    computeOutcomeSignal std decision = .ok none := by
  unfold computeOutcomeSignal
  rw [absent]
  simp

/-- What the loop over the decisions adds for one of them. -/
def learningSignal (std : Stdlib) (tenantId : Uuid) (scores : List Confidence)
    (decision : Decision) : Except PyError (Option LearningSignal) := do
  let outcome ← computeOutcomeSignal std decision
  let confidence := scores.reverse.find? fun score => score.id == decision.confidenceId
  return match outcome, confidence with
    | some met, some score => some {
        confidenceScore := score.confidenceScore.val
        outcome := met
        decisionId := decision.id
        tenantId : LearningSignal }
    | _, _ => none

theorem learningSignal_pair {decision : Decision} {signal : Option LearningSignal}
    (returned : learningSignal std tenantId scores decision = .ok signal) :
    signal.map (fun signal => (PyFloat.finite signal.confidenceScore, signal.outcome)) =
      feedbackPair std (fun id => scores.reverse.find? fun score => score.id == id)
        decision := by
  obtain ⟨outcome, computed, built⟩ := Result.bind_eq_ok.mp returned
  rw [← Result.pure_eq_ok.mp built]
  unfold feedbackPair
  rw [computed]
  dsimp only
  rcases outcome with _ | met
  · rfl
  · generalize scores.reverse.find? _ = found
    cases found with
    | none => rfl
    | some score => rfl

/-- **The pairs of a history**, and when it has a calibration. -/
theorem buildLearningHistory_pairs
    (built : buildLearningHistory std tenantId decisions scores = .ok history) :
    history.outcomePairs = decisions.filterMap (feedbackPair std fun id =>
        scores.reverse.find? fun score => score.id == id) ∧
      (history.historicalCalibration.isSome = true ↔ 2 ≤ history.outcomePairs.length) := by
  obtain ⟨signals, mapped, returned⟩ := Result.bind_eq_ok.mp built
  replace mapped : decisions.mapM (learningSignal std tenantId scores) = .ok signals := mapped
  have pairs : signals.reduceOption.map (fun signal =>
      (PyFloat.finite signal.confidenceScore, signal.outcome)) =
        decisions.filterMap (feedbackPair std fun id =>
          scores.reverse.find? fun score => score.id == id) := by
    clear built returned
    rw [Result.mapM_eq_ok] at mapped
    induction mapped with
    | nil => rfl
    | @cons decision signal rest others converted _ ih =>
        rw [List.filterMap_cons, ← learningSignal_pair converted]
        cases signal with
        | none => exact ih
        | some found => exact congrArg _ ih
  rw [← Result.pure_eq_ok.mp returned]
  refine ⟨pairs, ?_⟩
  unfold LearningHistory.outcomePairs
  dsimp only
  rw [List.length_map]
  split <;> simp [*]

theorem buildLearningHistory_raises :
    (∃ failure, buildLearningHistory std tenantId decisions scores = .error failure) ↔
      ∃ decision ∈ decisions, ∃ failure, computeOutcomeSignal std decision = .error failure := by
  have mapped : (∃ failure, buildLearningHistory std tenantId decisions scores = .error failure) ↔
      ∃ failure, decisions.mapM (learningSignal std tenantId scores) = .error failure := by
    show (∃ failure, (decisions.mapM (learningSignal std tenantId scores) >>= _) = .error failure) ↔ _
    simp only [Result.bind_eq_error]
    refine exists_congr fun failure => or_iff_left ?_
    rintro ⟨_, -, returned⟩
    cases returned
  rw [mapped, Result.mapM_raises]
  refine exists_congr fun decision => and_congr_right fun _ => exists_congr fun failure => ?_
  unfold learningSignal
  rw [Result.bind_eq_error]
  refine or_iff_left ?_
  rintro ⟨_, -, returned⟩
  cases returned

end Built

/-! ### The history of a cycle -/

section Cycle

variable {std : Stdlib} {tenant : TenantRows} {confidences : List Confidence}

/-- The confidence of an id on the first page of the tenant. -/
def TenantRows.listedConfidence (tenant : TenantRows) (confidences : List Confidence) (id : Uuid) :
    Option Confidence :=
  (listConfidence tenant.tenantId defaultLimit 0 confidences).reverse.find? fun score =>
    score.id == id

/-- **The first page** knows the tenant's rows with few enough rows before them. -/
theorem listedConfidence_eq_some (distinct : (confidences.map Confidence.id).Nodup) {id : Uuid}
    {row : Confidence} :
    tenant.listedConfidence confidences id = some row ↔
      tenant.ownConfidence confidences id = some row ∧ row.rank confidences < defaultLimit := by
  have distinctOwn : ((confidences.filter fun row => decide (row.tenantId = tenant.tenantId)).map
      Confidence.id).Nodup := distinct.sublist (List.filter_sublist.map _)
  have isListed : tenant.listedConfidence confidences id = some row ↔
      row ∈ listConfidence tenant.tenantId defaultLimit 0 confidences ∧ row.id = id := by
    have reversed : (((listConfidence tenant.tenantId defaultLimit 0 confidences).reverse).map
        Confidence.id).Nodup := by
      rw [List.map_reverse, List.nodup_reverse]
      exact listConfidence_ids distinct _ _ _
    rw [← List.mem_reverse, ← Paging.find_key_eq_some reversed]
    rfl
  unfold TenantRows.ownConfidence
  rw [isListed, mem_listConfidence distinct, Paging.find_key_eq_some distinctOwn, List.mem_filter,
    decide_eq_true_iff]
  tauto

/-- The pairs of the decisions whose confidence is on the first page. -/
def TenantRows.listedPairs (std : Stdlib) (tenant : TenantRows) (confidences : List Confidence) :
    List OutcomePair :=
  (tenant.decisions.getD []).filterMap (feedbackPair std (tenant.listedConfidence confidences))

/-- **What the cycle is given**: nothing when a decision raises, and else the pairs of the first page,
if there are two or more. -/
theorem historical_eq_some {pairs : List OutcomePair} :
    tenant.historical std confidences = some pairs ↔
      (∀ decision ∈ tenant.decisions.getD [], ∀ failure,
        computeOutcomeSignal std decision ≠ .error failure) ∧
      pairs = tenant.listedPairs std confidences ∧ 2 ≤ pairs.length := by
  let observed : List Decision :=
    (tenant.decisions.getD []).filter fun decision => decision.actualOutcomes.getD [] != []
  have absent : ∀ decision ∈ tenant.decisions.getD [], decision ∉ observed →
      computeOutcomeSignal std decision = .ok none := by
    intro decision member unobserved
    refine computeOutcomeSignal_absent ?_
    by_contra present
    exact unobserved (List.mem_filter.mpr ⟨member, by simpa using present⟩)
  have samePairs : observed.filterMap (feedbackPair std (tenant.listedConfidence confidences)) =
      tenant.listedPairs std confidences := by
    unfold TenantRows.listedPairs
    rw [List.filterMap_filter]
    refine List.filterMap_congr fun decision member => ?_
    split
    · rfl
    · rename_i unobserved
      unfold feedbackPair
      rw [absent decision member fun inside => unobserved (List.mem_filter.mp inside).2]
  have sameRaises : (∃ decision ∈ observed, ∃ failure,
      computeOutcomeSignal std decision = .error failure) ↔
        ∃ decision ∈ tenant.decisions.getD [], ∃ failure,
          computeOutcomeSignal std decision = .error failure := by
    constructor
    · rintro ⟨decision, member, raises⟩
      exact ⟨decision, List.mem_of_mem_filter member, raises⟩
    · rintro ⟨decision, member, failure, raises⟩
      refine ⟨decision, ?_, failure, raises⟩
      by_contra unobserved
      cases (absent decision member unobserved).symm.trans raises
  have returns : (∀ decision ∈ tenant.decisions.getD [], ∀ failure,
      computeOutcomeSignal std decision ≠ .error failure) ↔
        ¬∃ failure, buildLearningHistory std tenant.tenantId observed
          (listConfidence tenant.tenantId defaultLimit 0 confidences) = .error failure := by
    rw [buildLearningHistory_raises, sameRaises]
    push Not
    rfl
  have called : tenant.historical std confidences =
      if observed = [] then none
      else (buildLearningHistory std tenant.tenantId observed
        (listConfidence tenant.tenantId defaultLimit 0 confidences)).toOption.bind fun history =>
          history.historicalCalibration.map fun _ => history.outcomePairs := by
    unfold TenantRows.historical
    rcases stored : tenant.decisions with _ | decisions
    · simp [observed, stored]
    · have sameObserved : decisions.filter (fun decision => decision.actualOutcomes.getD [] != []) =
          observed := by simp [observed, stored]
      rw [Option.map_some, sameObserved]
      rcases observed with _ | ⟨first, rest⟩
      · rfl
      · rw [if_neg (List.cons_ne_nil _ _)]
        dsimp only
        rw [defaultLimit]
        generalize buildLearningHistory std tenant.tenantId (first :: rest) _ = built
        cases built <;> rfl
  rw [called, returns, ← samePairs]
  by_cases empty : observed = []
  · rw [if_pos empty, empty]
    simp +contextual
  · rw [if_neg empty]
    rcases built : buildLearningHistory std tenant.tenantId observed
      (listConfidence tenant.tenantId defaultLimit 0 confidences) with failure | history
    · simp [Except.toOption]
    · obtain ⟨isPairs, enough⟩ := buildLearningHistory_pairs built
      have pairsOf : history.outcomePairs = observed.filterMap
          (feedbackPair std (tenant.listedConfidence confidences)) := isPairs
      rw [← pairsOf]
      simp only [Except.toOption, Option.bind_some, Option.map_eq_some_iff, reduceCtorEq,
        exists_false, not_false_eq_true, true_and]
      rw [Option.isSome_iff_exists] at enough
      constructor
      · rintro ⟨calibration, isSome, rfl⟩
        exact ⟨rfl, enough.mp ⟨calibration, isSome⟩⟩
      · rintro ⟨rfl, several⟩
        obtain ⟨calibration, isSome⟩ := enough.mpr several
        exact ⟨calibration, isSome, rfl⟩

/-- **Whether the feedback is complete.** A calibration cycle is given one pair for every decision of the
tenant with a determined outcome and an own confidence row exactly when there are fewer than two such
decisions, or no decision raises and fewer rows of the tenant than a page holds are listed before each
of their confidences. -/
theorem history_complete_iff (std : Stdlib) (tenant : TenantRows) (confidences : List Confidence)
    (distinct : (confidences.map Confidence.id).Nodup) :
    tenant.historical std confidences = tenant.completeHistory std confidences ↔
      (tenant.completePairs std confidences).length < 2 ∨
      (∀ decision ∈ tenant.decisions.getD [], ∀ failure,
        computeOutcomeSignal std decision ≠ .error failure) ∧
      ∀ decision ∈ tenant.decisions.getD [], ∀ met,
        computeOutcomeSignal std decision = .ok (some met) →
        ∀ row ∈ tenant.ownConfidence confidences decision.confidenceId,
          row.rank confidences < defaultLimit := by
  have known : ∀ decision pair,
      feedbackPair std (tenant.listedConfidence confidences) decision = some pair →
      feedbackPair std (tenant.ownConfidence confidences) decision = some pair := by
    intro decision pair listed
    obtain ⟨met, row, computed, found, isPair⟩ := feedbackPair_eq_some.mp listed
    exact feedbackPair_eq_some.mpr
      ⟨met, row, computed, ((listedConfidence_eq_some distinct).mp found).1, isPair⟩
  have fewer : (tenant.listedPairs std confidences).length ≤
      (tenant.completePairs std confidences).length :=
    (Paging.filterMap_sublist _ known).length_le
  have allListed : tenant.listedPairs std confidences = tenant.completePairs std confidences ↔
      ∀ decision ∈ tenant.decisions.getD [], ∀ met,
        computeOutcomeSignal std decision = .ok (some met) →
        ∀ row ∈ tenant.ownConfidence confidences decision.confidenceId,
          row.rank confidences < defaultLimit := by
    unfold TenantRows.listedPairs TenantRows.completePairs
    rw [Paging.filterMap_eq_iff known]
    refine forall₂_congr fun decision _ => ⟨fun listed met computed row own => ?_, ?_⟩
    · obtain ⟨_, other, computedToo, found, same⟩ := feedbackPair_eq_some.mp
        (listed _ (feedbackPair_eq_some.mpr ⟨met, row, computed, own, rfl⟩))
      obtain ⟨ownToo, early⟩ := (listedConfidence_eq_some distinct).mp found
      cases (Option.mem_def.mp own).symm.trans ownToo
      exact early
    · intro early pair complete
      obtain ⟨met, row, computed, own, isPair⟩ := feedbackPair_eq_some.mp complete
      exact feedbackPair_eq_some.mpr ⟨met, row, computed,
        (listedConfidence_eq_some distinct).mpr ⟨own, early met computed row own⟩, isPair⟩
  by_cases few : (tenant.completePairs std confidences).length < 2
  · have nothing : tenant.historical std confidences = none := by
      refine Option.eq_none_iff_forall_ne_some.mpr fun pairs given => ?_
      obtain ⟨-, rfl, several⟩ := historical_eq_some.mp given
      omega
    rw [nothing, TenantRows.completeHistory, if_neg (by omega)]
    simp [few]
  · rw [TenantRows.completeHistory, if_pos (by omega), historical_eq_some, or_iff_right few,
      ← allListed]
    refine and_congr_right fun _ => ?_
    constructor
    · rintro ⟨same, -⟩
      exact same.symm
    · intro same
      exact ⟨same.symm, by omega⟩

end Cycle

/-! ### Two decisions -/

/-- A confidence of tenant 1 that was computed at an instant. -/
def agedConfidence (number : Nat) : Confidence where
  id := Fin.ofNat _ number
  tenantId := 1
  targetType := .hypothesis
  targetId := 5
  evidentialSupport := ⟨1, one_isUnit⟩
  explanatoryCoherence := ⟨1, one_isUnit⟩
  historicalCalibration := ⟨1, one_isUnit⟩
  confidenceScore := ⟨1 / 2, half_isUnit⟩
  alpha := ⟨1 / 2, half_isUnit⟩
  calibrationJustification := {
    judgment := ""
    alpha := 1 / 2
    M := 10
    L0 := 0
    evidentialSupport := 1
    logOdds := 0
    supporting := []
    opposing := []
    explanatoryCoherence := 1
    explains := []
    contradicts := []
    calibrationError := 0
    history := none
    historicalCalibration := 1
    finalConfidence := 1 / 2 }
  calibrationErrorEstimate := ⟨0, zero_isUnit⟩
  evidenceIds := []
  computedAt := number

/-- A decision that expected a success and had one. -/
def succeeded (number confidence : Nat) : Decision where
  id := Fin.ofNat _ number
  tenantId := 1
  recommendationId := 7
  confidenceId := Fin.ofNat _ confidence
  authorityId := 9
  commitment := ""
  expectedOutcomes := [.obj [("verifiable_by", .str "cpu"), ("prediction", .float 1)]]
  riskTolerance := "low"
  status := "committed"
  committedAt := 0
  executedAt := none
  actualOutcomes := some [.obj [("verifiable_by", .str "cpu"), ("value", .bool true)]]
  outcomeStatus := "observed"

/-- A tenant with two such decisions, on the confidences of two instants. -/
def twoSuccesses (first second : Nat) : TenantRows where
  tenantId := 1
  hypotheses := []
  anomalies := []
  contexts := []
  evidence := []
  decisions := some [succeeded 1 first, succeeded 2 second]
  evidenceUnique := List.nodup_nil

theorem agedConfidence_ids {count : Nat} (bound : count ≤ 2 ^ 128) :
    (((List.range count).map agedConfidence).map Confidence.id).Nodup := by
  rw [List.map_map]
  refine List.Nodup.map_on (fun first firstIn second secondIn same => ?_) List.nodup_range
  have values : first % 2 ^ 128 = second % 2 ^ 128 := congrArg Fin.val same
  have firstLess := List.mem_range.mp firstIn
  have secondLess := List.mem_range.mp secondIn
  rwa [Nat.mod_eq_of_lt (by omega), Nat.mod_eq_of_lt (by omega)] at values

/-- With their confidences on the first page, the history is complete. -/
theorem history_complete_short :
    (twoSuccesses 0 1).historical .constant ((List.range 2).map agedConfidence) =
      (twoSuccesses 0 1).completeHistory .constant ((List.range 2).map agedConfidence) := by
  have determined : ∀ decision ∈ (twoSuccesses 0 1).decisions.getD [],
      computeOutcomeSignal .constant decision = .ok (some true) := by
    decide +kernel
  have early : ∀ decision ∈ (twoSuccesses 0 1).decisions.getD [],
      ∀ row ∈ (twoSuccesses 0 1).ownConfidence ((List.range 2).map agedConfidence)
        decision.confidenceId, row.rank ((List.range 2).map agedConfidence) < defaultLimit := by
    decide +kernel
  refine (history_complete_iff .constant (twoSuccesses 0 1) ((List.range 2).map agedConfidence)
    (agedConfidence_ids (by norm_num))).mpr (.inr ⟨fun decision member failure raises => ?_,
      fun decision member _ _ => early decision member⟩)
  cases (determined decision member).symm.trans raises

/-- **After five hundred older confidences** the two decisions teach nothing. -/
theorem history_incomplete :
    (((List.range 502).map agedConfidence).map Confidence.id).Nodup ∧
    (twoSuccesses 500 501).historical .constant ((List.range 502).map agedConfidence) = none ∧
    (twoSuccesses 500 501).completeHistory .constant ((List.range 502).map agedConfidence) =
      some [(.finite (1 / 2), true), (.finite (1 / 2), true)] :=
  ⟨agedConfidence_ids (by norm_num), by decide +kernel, by decide +kernel⟩

end CosMonitor
