/-
**The calibrated score and what it is made of lie in the unit interval.**

* `mixture_unit`: a mixture of two numbers of the unit interval, scaled by a third, lies in it;
* `historicalCalibrationFactor_pairs`: the historical reliability is `1 - ECE`, and never clamped;
* `calibration_unit`: the bins hold every prediction once, and the calibration error, the reliability, the
  coherence and the final score of predictions of the unit interval lie in it.
-/

import CosMonitor.Confidence.Calibrator
import CosMonitor.Learning.ScoreLists

namespace CosMonitor

section Unit

theorem mixture_unit {S C alpha reliability : ℚ} (support : 0 ≤ S ∧ S ≤ 1) (coherence : 0 ≤ C ∧ C ≤ 1)
    (mixing : 0 ≤ alpha ∧ alpha ≤ 1) (scale : 0 ≤ reliability ∧ reliability ≤ 1) :
    0 ≤ (alpha * S + (1 - alpha) * C) * reliability ∧
      (alpha * S + (1 - alpha) * C) * reliability ≤ 1 := by
  have rest : 0 ≤ 1 - alpha := sub_nonneg.mpr mixing.2
  have low : 0 ≤ alpha * S + (1 - alpha) * C :=
    add_nonneg (mul_nonneg mixing.1 support.1) (mul_nonneg rest coherence.1)
  have high : alpha * S + (1 - alpha) * C ≤ 1 := by
    calc alpha * S + (1 - alpha) * C ≤ alpha * 1 + (1 - alpha) * 1 :=
          add_le_add (mul_le_mul_of_nonneg_left support.2 mixing.1)
            (mul_le_mul_of_nonneg_left coherence.2 rest)
      _ = 1 := by ring
  exact ⟨mul_nonneg low scale.1, mul_le_one₀ high scale.1 scale.2⟩

theorem clamp_of_unit {value : ℚ} (unit : 0 ≤ value ∧ value ≤ 1) : clamp value = value := by
  unfold clamp
  rw [min_eq_right unit.2, max_eq_right unit.1]

theorem complement_unit {value : ℚ} (unit : 0 ≤ value ∧ value ≤ 1) : 0 ≤ 1 - value ∧ 1 - value ≤ 1 :=
  ⟨sub_nonneg.mpr unit.2, sub_le_self 1 unit.1⟩

/-- **The historical reliability is `1 - ECE`**, also where there is no history. -/
theorem historicalCalibrationFactor_pairs (pairs : List OutcomePair) (M : Nat) :
    historicalCalibrationFactor .exact (some pairs) M =
      (1 - eceScore .exact pairs M, eceScore .exact pairs M) := by
  cases pairs with
  | nil =>
      show ((1 : ℚ), (0 : ℚ)) = (1 - 0, 0)
      rw [sub_zero]
  | cons pair rest =>
      show (clamp (1 - eceScore .exact (pair :: rest) M), eceScore .exact (pair :: rest) M) = _
      rw [clamp_of_unit (complement_unit (eceScore_unit _ _))]

/-- **Predictions of the unit interval are calibrated within it.** Every one of them is counted in exactly
one bin; the calibration error, the historical reliability, the coherence of any judgment and its final
score lie in the unit interval, so no score is clamped. -/
theorem calibration_unit (predictions : List ℚ) (outcomes : List Bool) (M : Nat)
    (unit : ∀ prediction ∈ predictions, 0 ≤ prediction ∧ prediction ≤ 1)
    (same : predictions.length = outcomes.length) (bins : 1 ≤ M) :
    (∀ prediction ∈ predictions, ∃! index, index < M ∧ inBin .exact M index prediction = true) ∧
    (∑ index ∈ Finset.range M, predictions.countP (inBin .exact M index)) = predictions.length ∧
    ∃ ece, eceScoreOf .exact (predictions.map .finite) outcomes M = .ok ece ∧ (0 ≤ ece ∧ ece ≤ 1) ∧
      historicalCalibrationFactor .exact (some ((predictions.map .finite).zip outcomes)) M = (1 - ece, ece) ∧
      (0 ≤ 1 - ece ∧ 1 - ece ≤ 1) ∧
      ∀ scope inputs,
        (0 ≤ coherenceScore .exact scope inputs ∧ coherenceScore .exact scope inputs ≤ 1) ∧
        ∀ S alpha : ℚ, 0 ≤ S ∧ S ≤ 1 → 0 ≤ alpha ∧ alpha ≤ 1 →
          (0 ≤ (alpha * S + (1 - alpha) * coherenceScore .exact scope inputs) * (1 - ece) ∧
            (alpha * S + (1 - alpha) * coherenceScore .exact scope inputs) * (1 - ece) ≤ 1) ∧
          (finalConfidence .exact S (coherenceScore .exact scope inputs) ece alpha).map Subtype.val =
            .ok ((alpha * S + (1 - alpha) * coherenceScore .exact scope inputs) * (1 - ece)) := by
  refine ⟨fun prediction member => ?_, sum_countP_inBin bins unit, ?_⟩
  · obtain ⟨low, high⟩ := unit prediction member
    exact exists_unique_inBin bins low high
  have error := eceScore_unit ((predictions.map .finite).zip outcomes) M
  refine ⟨_, eceScoreOf_zip (by rwa [List.length_map]) .exact M, error, historicalCalibrationFactor_pairs _ M,
    complement_unit error, fun scope inputs => ?_⟩
  have coherence : 0 ≤ coherenceScore .exact scope inputs ∧ coherenceScore .exact scope inputs ≤ 1 :=
    explanatoryCoherence_unit _ _ _
  refine ⟨coherence, fun S alpha support mixing => ?_⟩
  have final := mixture_unit support coherence mixing (complement_unit error)
  refine ⟨final, ?_⟩
  rw [finalConfidence_unit .exact support coherence error mixing]
  exact congrArg Except.ok (clamp_of_unit final)

/-- Three predictions in two bins, the end of the interval among them. -/
theorem calibration_unit_ends :
    (∑ index ∈ Finset.range 2, [0, 1 / 2, (1 : ℚ)].countP (inBin .exact 2 index)) = 3 ∧
      eceScoreOf .exact ([0, 1 / 2, 1].map .finite) [false, true, false] 2 = .ok (1 / 6) := by
  have unit : ∀ prediction ∈ [0, 1 / 2, (1 : ℚ)], 0 ≤ prediction ∧ prediction ≤ 1 := by
    decide +kernel
  exact ⟨(calibration_unit [0, 1 / 2, 1] [false, true, false] 2 unit rfl (by decide)).2.1,
    by decide +kernel⟩

end Unit

end CosMonitor
