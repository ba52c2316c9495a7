/-
**The range of the scores that a consolidation reports.**

* `roundHalfEven_unit_iff`, `double_unit_iff`: what is rounded to the unit interval;
* `PyFloat.sum_unit`: a sum of numbers of the unit interval, rounded at every step, is at most their count;
* `brierScore_unit`: the Brier score of predictions of the unit interval is in it;
* `scores_unit_iff`: a consolidation reports scores of the unit interval, from predictions of it, exactly when
  every matched prediction is at most half a rounding step outside. The predictions are never clamped
  (`large_prediction_scored`).
-/

import CosMonitor.Memory.ConsolidationTotals

namespace CosMonitor

/-! ### Rounding to the unit interval -/

section Rounding

/-- **What rounds to the unit interval**, at four decimals. -/
theorem roundHalfEven_unit_iff {value : ℚ} :
    (0 ≤ roundHalfEven 4 value ∧ roundHalfEven 4 value ≤ 1) ↔
      -1 / 20000 ≤ value ∧ value ≤ 1 + 1 / 20000 := by
  have low := @le_nearestEven (value * 10 ^ 4) 0 rfl
  have high := @nearestEven_le (value * 10 ^ 4) 10000 rfl
  unfold roundHalfEven
  rw [le_div_iff₀ (by norm_num), div_le_iff₀ (by norm_num)]
  have first : (0 : ℚ) * 10 ^ 4 ≤ (nearestEven (value * 10 ^ 4) : ℚ) ↔ -1 / 20000 ≤ value := by
    rw [zero_mul]
    constructor
    · intro least
      have reached := low.mp (by exact_mod_cast least)
      push_cast at reached
      linarith
    · intro least
      have reached := low.mpr (by push_cast; linarith)
      exact_mod_cast reached
  have second : (nearestEven (value * 10 ^ 4) : ℚ) ≤ 1 * 10 ^ 4 ↔ value ≤ 1 + 1 / 20000 := by
    constructor
    · intro most
      have atMost : (nearestEven (value * 10 ^ 4) : ℚ) ≤ ((10000 : ℤ) : ℚ) := by
        push_cast
        linarith
      have reached := high.mp (by exact_mod_cast atMost)
      push_cast at reached
      linarith
    · intro most
      have reached := high.mpr (by push_cast; linarith)
      have atMost : (nearestEven (value * 10 ^ 4) : ℚ) ≤ ((10000 : ℤ) : ℚ) := by exact_mod_cast reached
      push_cast at atMost
      linarith
  exact and_congr first second

theorem double_unit_iff {value : ℚ} :
    (0 ≤ PyFloat.double (roundHalfEven 4 value) ∧ PyFloat.double (roundHalfEven 4 value) ≤ 1) ↔
      0 ≤ roundHalfEven 4 value ∧ roundHalfEven 4 value ≤ 1 := by
  constructor
  · rintro ⟨low, high⟩
    unfold roundHalfEven at low high ⊢
    refine ⟨le_of_not_gt fun negative => ?_, le_of_not_gt fun large => ?_⟩
    · -- The next decimal below zero has a negative double.
      have next : nearestEven (value * 10 ^ 4) ≤ -1 := by
        have less : (nearestEven (value * 10 ^ 4) : ℚ) < 0 := by
          rwa [div_lt_iff₀ (by norm_num), zero_mul] at negative
        have below : nearestEven (value * 10 ^ 4) < 0 := by exact_mod_cast less
        omega
      have atMost : (nearestEven (value * 10 ^ 4) : ℚ) / 10 ^ 4 ≤ -1 / 10 ^ 4 :=
        div_le_div_of_nonneg_right (by exact_mod_cast next) (by norm_num)
      have double : PyFloat.double (-1 / 10 ^ 4) < 0 := by decide +kernel
      exact absurd (low.trans (PyFloat.double_mono atMost)) (not_le.mpr double)
    · have next : 10001 ≤ nearestEven (value * 10 ^ 4) := by
        rw [one_lt_div (by norm_num)] at large
        have above : 10000 < nearestEven (value * 10 ^ 4) := by
          have atLeast : ((10000 : ℤ) : ℚ) < nearestEven (value * 10 ^ 4) := by
            push_cast
            linarith
          exact_mod_cast atLeast
        omega
      have atLeast : (10001 : ℚ) / 10 ^ 4 ≤ (nearestEven (value * 10 ^ 4) : ℚ) / 10 ^ 4 :=
        div_le_div_of_nonneg_right (by exact_mod_cast next) (by norm_num)
      have double : 1 < PyFloat.double (10001 / 10 ^ 4) := by decide +kernel
      exact absurd ((PyFloat.double_mono atLeast).trans high) (not_le.mpr double)
  · rintro ⟨low, high⟩
    exact PyFloat.double_unit low high

end Rounding

/-! ### The Brier score -/

section Brier

namespace PyFloat

/-- A number of the unit interval. -/
def InUnit (number : PyFloat) : Prop :=
  ∃ value, number = .finite value ∧ 0 ≤ value ∧ value ≤ 1

/-- **A sum of numbers of the unit interval** is at most their count: from 2 ^ 53 on it grows no more. -/
theorem sum_unit {values : List ℚ} (unit : ∀ value ∈ values, 0 ≤ value ∧ value ≤ 1) :
    ∃ total, sum (values.map .finite) = .finite total ∧ 0 ≤ total ∧ total ≤ values.length := by
  have full : double (2 ^ 53 + 1) = 2 ^ 53 := by decide +kernel
  have inRange : (2 : ℚ) ^ 53 + 1 < limit := by decide +kernel
  -- The accumulator of the fold is a number between zero and the count so far, and at most 2 ^ 53.
  have step : ∀ (values : List ℚ) (start : ℚ) (count : ℕ), 0 ≤ start → start ≤ count → start ≤ 2 ^ 53 →
      (∀ value ∈ values, 0 ≤ value ∧ value ≤ 1) →
      ∃ total, (values.map finite).foldl add (finite start) = .finite total ∧ 0 ≤ total ∧
        total ≤ count + values.length := by
    intro values
    induction values with
    | nil =>
        intro start count least most _ _
        exact ⟨start, rfl, least, by simpa using most⟩
    | cons value rest ih =>
        intro start count least most capped unit
        obtain ⟨⟨low, high⟩, others⟩ := List.forall_mem_cons.mp unit
        have nonneg : 0 ≤ start + value := add_nonneg least low
        have small : start + value ≤ 2 ^ 53 + 1 := add_le_add capped high
        have added : add (finite start) (finite value) = finite (double (start + value)) := by
          show ofRat (start + value) = _
          unfold ofRat
          rw [if_pos (by rw [abs_of_nonneg nonneg]; exact small.trans_lt inRange)]
        have roundedLow : 0 ≤ double (start + value) := by
          have rounded := double_mono nonneg
          rwa [double_zero] at rounded
        have roundedCap : double (start + value) ≤ 2 ^ 53 := by
          have rounded := double_mono small
          rwa [full] at rounded
        have roundedHigh : double (start + value) ≤ ((count + 1 : ℕ) : ℚ) := by
          rcases le_or_gt (count + 1) (2 ^ 53) with few | many
          · have rounded : double (start + value) ≤ double ((count + 1 : ℤ) : ℚ) :=
              double_mono (by push_cast; linarith)
            rw [double_intCast (by rw [abs_of_nonneg (by positivity)]; exact_mod_cast few)] at rounded
            exact_mod_cast rounded
          · refine roundedCap.trans ?_
            exact_mod_cast many.le
        obtain ⟨total, summed, nonnegTotal, atMost⟩ :=
          ih (double (start + value)) (count + 1) roundedLow roundedHigh roundedCap others
        refine ⟨total, ?_, nonnegTotal, ?_⟩
        · rw [List.map_cons, List.foldl_cons, added, summed]
        · rw [List.length_cons]
          push_cast at atMost ⊢
          linarith
  obtain ⟨total, summed, least, most⟩ := step values 0 0 le_rfl (by norm_num) (by norm_num) unit
  exact ⟨total, summed, least, by simpa using most⟩

end PyFloat

/-- The squared distance of a finite prediction from its outcome, as a double. -/
def OutcomePair.distance (pair : OutcomePair) : ℚ :=
  match pair.1 with
  | .finite value => PyFloat.double
      (PyFloat.double (value - outcomeValue pair.2) * PyFloat.double (value - outcomeValue pair.2))
  | .infinite _ | .nan => 0

theorem distance_unit {pair : OutcomePair} (unit : pair.1.InUnit) :
    (pair.1.subRat (outcomeValue pair.2)).square = .ok (.finite pair.distance) ∧
      0 ≤ pair.distance ∧ pair.distance ≤ 1 := by
  obtain ⟨prediction, outcome⟩ := pair
  obtain ⟨value, same, low, high⟩ := unit
  dsimp only at same
  subst same
  have bounds : (-1 : ℚ) ≤ value - outcomeValue outcome ∧ value - outcomeValue outcome ≤ 1 := by
    unfold outcomeValue
    split <;> constructor <;> linarith
  have near : |PyFloat.double (value - outcomeValue outcome)| ≤ 1 := by
    have least := PyFloat.double_mono bounds.1
    have most := PyFloat.double_mono bounds.2
    have minusOne : PyFloat.double ((-1 : ℤ) : ℚ) = ((-1 : ℤ) : ℚ) := PyFloat.double_intCast (by decide)
    rw [Int.cast_neg, Int.cast_one] at minusOne
    rw [minusOne] at least
    rw [PyFloat.double_one] at most
    exact abs_le.mpr ⟨least, most⟩
  have least : 0 ≤ PyFloat.double (value - outcomeValue outcome) *
      PyFloat.double (value - outcomeValue outcome) := mul_self_nonneg _
  have most : PyFloat.double (value - outcomeValue outcome) *
      PyFloat.double (value - outcomeValue outcome) ≤ 1 := by
    rw [← abs_mul_abs_self]
    exact mul_le_one₀ near (abs_nonneg _) near
  refine ⟨?_, PyFloat.double_unit least most⟩
  show (PyFloat.ofRat (value - outcomeValue outcome)).square = _
  rw [PyFloat.ofRat, if_pos ((abs_le.mpr bounds).trans_lt PyFloat.one_lt_limit), PyFloat.square,
    if_pos (most.trans_lt PyFloat.one_lt_limit)]
  rfl

/-- **The Brier score of predictions of the unit interval is in it.** -/
theorem brierScore_unit {pairs : List OutcomePair} (unit : ∀ pair ∈ pairs, pair.1.InUnit) :
    ∃ brier, brierScore pairs = .ok brier ∧ (brier.round 4).InUnit := by
  have squares : (pairs.mapM fun pair => (pair.1.subRat (outcomeValue pair.2)).square) =
      .ok ((pairs.map OutcomePair.distance).map .finite) := by
    rw [Result.mapM_eq_ok, List.map_map, List.forall₂_map_right_iff, List.forall₂_same]
    exact fun pair member => (distance_unit (unit pair member)).1
  have each : ∀ value ∈ pairs.map OutcomePair.distance, 0 ≤ value ∧ value ≤ 1 := by
    intro value member
    obtain ⟨pair, listed, rfl⟩ := List.mem_map.mp member
    exact (distance_unit (unit pair listed)).2
  obtain ⟨total, summed, least, most⟩ := PyFloat.sum_unit each
  rw [List.length_map] at most
  unfold brierScore
  rw [squares, Result.ok_bind, summed]
  rcases pairs with _ | ⟨pair, rest⟩
  · exact ⟨.finite 0, rfl, 0, by decide +kernel, le_rfl, zero_le_one⟩
  · refine ⟨_, rfl, ?_⟩
    have positive : (0 : ℚ) < ((pair :: rest).length : ℚ) := by exact_mod_cast Nat.succ_pos _
    have low : 0 ≤ total / ((pair :: rest).length : ℚ) := div_nonneg least positive.le
    have high : total / ((pair :: rest).length : ℚ) ≤ 1 := (div_le_one positive).mpr most
    have mean := PyFloat.double_unit low high
    have rounded := roundHalfEven_unit 4 mean.1 mean.2
    refine ⟨_, ?_, PyFloat.double_unit rounded.1 rounded.2⟩
    show (PyFloat.ofRat (total / ((pair :: rest).length : ℚ))).round 4 = _
    rw [PyFloat.ofRat_unit low high]
    rfl

end Brier

/-! ### The scores of a consolidation -/

section Scores

/-- The pairs that the scores are computed from. -/
def scoredPairs (std : Stdlib) (decision : DecisionView) : List OutcomePair :=
  decision.expectedOutcomes.filterMap fun expected =>
    (namedReading std (decision.actualOutcomes.getD []) expected).map fun reading =>
      ((classifiedPrediction expected).round 4, reading.actual)

/-- The consolidation returns, every prediction that is scored lies in the unit interval (an outcome is `0`
or `1`), and so do the scores that it reports. -/
def ScoresInUnit (std : Stdlib) (decision : DecisionView) : Prop :=
  ∃ result, buildConsolidation std decision = .ok result ∧
    (∀ pair ∈ result.details.filterMap ConsolidationDetail.outcomePair, pair.1.InUnit) ∧
    (∀ brier, result.brier = some brier → brier.InUnit) ∧
    ∀ ece, result.ece = some ece → 0 ≤ ece ∧ ece ≤ 1

/-- What a decision has to predict for that: numbers that `float` can convert, each matched one at most half
a rounding step outside the unit interval. -/
structure PredictsUnit (std : Stdlib) (decision : DecisionView) : Prop where
  classifiable : ∀ expected ∈ decision.expectedOutcomes, Classifiable expected
  unit : ∀ expected ∈ decision.expectedOutcomes, ∀ reading,
    namedReading std (decision.actualOutcomes.getD []) expected = some reading →
      ∃ value, classifiedPrediction expected = .finite value ∧ -1 / 20000 ≤ value ∧ value ≤ 1 + 1 / 20000

variable {std : Stdlib} {decision : DecisionView}

theorem round_inUnit {prediction : PyFloat} :
    (prediction.round 4).InUnit ↔
      ∃ value, prediction = .finite value ∧ -1 / 20000 ≤ value ∧ value ≤ 1 + 1 / 20000 := by
  rcases prediction with value | negative | _
  · constructor
    · rintro ⟨_, ⟨⟩, inside⟩
      exact ⟨value, rfl, roundHalfEven_unit_iff.mp (double_unit_iff.mp inside)⟩
    · rintro ⟨_, ⟨⟩, inside⟩
      exact ⟨_, rfl, double_unit_iff.mpr (roundHalfEven_unit_iff.mpr inside)⟩
  · exact ⟨fun ⟨_, impossible, _⟩ => (nomatch impossible), fun ⟨_, impossible, _⟩ => (nomatch impossible)⟩
  · exact ⟨fun ⟨_, impossible, _⟩ => (nomatch impossible), fun ⟨_, impossible, _⟩ => (nomatch impossible)⟩

theorem scoredPairs_inUnit :
    (∀ pair ∈ scoredPairs std decision, pair.1.InUnit) ↔
      ∀ expected ∈ decision.expectedOutcomes, ∀ reading,
        namedReading std (decision.actualOutcomes.getD []) expected = some reading →
          ∃ value, classifiedPrediction expected = .finite value ∧ -1 / 20000 ≤ value ∧
            value ≤ 1 + 1 / 20000 := by
  constructor
  · intro unit expected member reading isReading
    exact round_inUnit.mp (unit _ (List.mem_filterMap.mpr ⟨expected, member, by rw [isReading]; rfl⟩))
  · intro unit pair member
    obtain ⟨expected, listed, isPair⟩ := List.mem_filterMap.mp member
    obtain ⟨reading, isReading, rfl⟩ := Option.map_eq_some_iff.mp isPair
    exact round_inUnit.mpr (unit expected listed reading isReading)

/-- **The scores of an observed decision** are those of its pairs. -/
theorem buildConsolidation_scores (observed : decision.outcomeStatus ≠ some "pending")
    {result : ConsolidationResult} (built : buildConsolidation std decision = .ok result) :
    result.details.filterMap ConsolidationDetail.outcomePair = scoredPairs std decision ∧
      (∀ expected ∈ decision.expectedOutcomes, Classifiable expected) ∧
      ∃ brier, brierScore (scoredPairs std decision) = .ok brier ∧
        result.brier = (if (scoredPairs std decision).isEmpty then none else some (brier.round 4)) ∧
        result.ece = if (scoredPairs std decision).isEmpty then none
          else some (roundHalfEven 4
            (eceScore .exact (scoredPairs std decision) CalibrationParams.default.M.toNat)) := by
  obtain ⟨-, -, classifiable, -⟩ := buildConsolidation_readings observed built
  unfold buildConsolidation at built
  rw [if_neg observed] at built
  obtain ⟨details, mapped, built⟩ := Result.bind_eq_ok.mp built
  obtain ⟨brier, scored, built⟩ := Result.bind_eq_ok.mp built
  obtain rfl := Result.pure_eq_ok.mp built
  have pairs : details.filterMap ConsolidationDetail.outcomePair = scoredPairs std decision :=
    (classifiedDetails_spec mapped).2.2.2
  rw [← pairs]
  exact ⟨rfl, classifiable, brier, scored, rfl, rfl⟩

theorem scores_pending (pending : decision.outcomeStatus = some "pending") : ScoresInUnit std decision := by
  unfold ScoresInUnit buildConsolidation
  rw [if_pos pending]
  refine ⟨_, rfl, fun pair member => ?_, fun _ impossible => (nomatch impossible),
    fun _ impossible => (nomatch impossible)⟩
  obtain ⟨detail, listed, isPair⟩ := List.mem_filterMap.mp member
  obtain ⟨expected, -, rfl⟩ := List.mem_map.mp listed
  cases isPair

theorem roundedEce_unit (pairs : List OutcomePair) {ece : ℚ}
    (reported : (if pairs.isEmpty then none
      else some (roundHalfEven 4 (eceScore .exact pairs CalibrationParams.default.M.toNat))) = some ece) :
    0 ≤ ece ∧ ece ≤ 1 := by
  split at reported
  · cases reported
  · obtain rfl := Option.some.inj reported
    obtain ⟨low, high⟩ := eceScore_unit pairs CalibrationParams.default.M.toNat
    exact roundHalfEven_unit 4 low high

/-- **When the scores are in the unit interval.** A consolidation reports scores of the unit interval, from
predictions of it, exactly when the decision is pending or predicts numbers of it, up to rounding. -/
theorem scores_unit_iff (std : Stdlib) (decision : DecisionView) :
    ScoresInUnit std decision ↔
      decision.outcomeStatus = some "pending" ∨ PredictsUnit std decision := by
  by_cases pending : decision.outcomeStatus = some "pending"
  · exact ⟨fun _ => .inl pending, fun _ => scores_pending pending⟩
  constructor
  · rintro ⟨result, built, unit, brierUnit, -⟩
    obtain ⟨pairs, classifiable, -⟩ := buildConsolidation_scores pending built
    rw [pairs] at unit
    exact .inr ⟨classifiable, scoredPairs_inUnit.mp unit⟩
  · rintro (isPending | ⟨classifiable, matched⟩)
    · exact absurd isPending pending
    · obtain ⟨brier, scored, brierUnit⟩ := brierScore_unit (scoredPairs_inUnit.mpr matched)
      have bounded : ReadingsBounded std (decision.actualOutcomes.getD []) decision.expectedOutcomes :=
        readingsBounded_iff.mp ⟨brier, scored⟩
      obtain ⟨result, built⟩ := buildConsolidation_returns pending classifiable bounded
      obtain ⟨pairs, -, found, isFound, isBrier, isEce⟩ := buildConsolidation_scores pending built
      obtain rfl := Except.ok.inj (scored.symm.trans isFound)
      refine ⟨result, built, by rw [pairs]; exact scoredPairs_inUnit.mpr matched, fun reported isReported => ?_,
        fun ece isReported => ?_⟩
      · rw [isBrier] at isReported
        split at isReported
        · cases isReported
        · rwa [← Option.some.inj isReported]
      · rw [isEce] at isReported
        exact roundedEce_unit _ isReported

/-- A decision that predicts a success with the number 5, and its report. -/
def largePrediction : DecisionView where
  id := 41
  tenantId := 1
  expectedOutcomes := [.obj [("prediction", .str "5"), ("verifiable_by", .str "cpu")]]
  actualOutcomes := some [.obj [("verifiable_by", .str "cpu"), ("value", .bool true)]]
  outcomeStatus := some "observed"

/-- **A prediction outside the unit interval.** It is scored as it is: the reported Brier score is 16. -/
theorem large_prediction_scored : ¬ScoresInUnit countingStd largePrediction := by
  have scored : (buildConsolidation countingStd largePrediction).toOption.bind
      ConsolidationResult.brier = some (.finite 16) := by
    decide +kernel
  rintro ⟨result, built, -, brierUnit, -⟩
  rw [built] at scored
  obtain ⟨value, isValue, -, high⟩ := brierUnit _ scored
  cases isValue
  norm_num at high

end Scores

end CosMonitor
