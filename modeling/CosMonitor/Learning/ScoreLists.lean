/-
**The scores as they take their two lists.**

`brier_score` and `ece_score` are given the predictions and the outcomes apart, and zip them strictly.

* `exists_unique_inBin`, `sum_countP_inBin`: the bins hold every prediction of the unit interval once, the
  end of the interval included;
* `brierScoreOf`, `eceScoreOf`: the two scores; lists of one length have the scores of their pairs
  (`brierScoreOf_zip`, `eceScoreOf_zip`), others have none (`brierScoreOf_lengths`).
-/

import CosMonitor.Foundation.Result
import CosMonitor.Learning.CalibrationModel

namespace CosMonitor

/-! ### The bins -/

section Cover

variable {bins : Nat} {prediction : ℚ}

theorem inBin_floor (positive : 0 < bins) (low : 0 ≤ prediction) (high : prediction < 1) :
    ⌊prediction * bins⌋₊ < bins ∧ inBin .exact bins ⌊prediction * bins⌋₊ prediction = true := by
  have many : (0 : ℚ) < bins := by exact_mod_cast positive
  have scaled : 0 ≤ prediction * bins := mul_nonneg low many.le
  have below : prediction * bins < bins := by
    calc prediction * bins < 1 * bins := mul_lt_mul_of_pos_right high many
      _ = bins := one_mul _
  refine ⟨(Nat.floor_lt scaled).mpr below, ?_⟩
  unfold inBin
  simp only [Bool.and_eq_true, Bool.or_eq_true, decide_eq_true_eq]
  simp only [Arithmetic.exact_round]
  refine ⟨?_, .inl ?_⟩
  · rw [div_le_iff₀ many]
    exact Nat.floor_le scaled
  · rw [lt_div_iff₀ many]
    exact Nat.lt_floor_add_one _

theorem inBin_last (positive : 0 < bins) : inBin .exact bins (bins - 1) 1 = true := by
  have last : bins - 1 + 1 = bins := Nat.sub_add_cancel positive
  have many : (0 : ℚ) < bins := by exact_mod_cast positive
  have upper : (((bins - 1 : ℕ) : ℚ) + 1) = bins := by exact_mod_cast last
  unfold inBin
  simp only [Bool.and_eq_true, Bool.or_eq_true, decide_eq_true_eq]
  simp only [Arithmetic.exact_round]
  refine ⟨?_, .inr ⟨last, ?_⟩⟩
  · rw [div_le_one many]
    exact_mod_cast Nat.sub_le bins 1
  · rw [upper, div_self many.ne']

/-- **Every prediction of the unit interval lies in exactly one bin.** -/
theorem exists_unique_inBin (positive : 0 < bins) (low : 0 ≤ prediction) (high : prediction ≤ 1) :
    ∃! index, index < bins ∧ inBin .exact bins index prediction = true := by
  obtain ⟨index, inside, binned⟩ : ∃ index < bins, inBin .exact bins index prediction = true := by
    rcases high.lt_or_eq with below | rfl
    · exact ⟨_, inBin_floor positive low below⟩
    · exact ⟨bins - 1, Nat.sub_lt positive Nat.one_pos, inBin_last positive⟩
  refine ⟨index, ⟨inside, binned⟩, ?_⟩
  rintro other ⟨otherInside, otherBinned⟩
  exact le_antisymm (inBin_le otherInside binned otherBinned) (inBin_le inside otherBinned binned)

/-- **The bins hold every prediction once.** -/
theorem sum_countP_inBin (positive : 0 < bins) {predictions : List ℚ}
    (unit : ∀ prediction ∈ predictions, 0 ≤ prediction ∧ prediction ≤ 1) :
    (∑ index ∈ Finset.range bins, predictions.countP (inBin .exact bins index)) = predictions.length := by
  refine Bins.sum_countP_eq_length ?_ fun prediction member => ?_
  · rintro prediction first firstIn second secondIn inFirst inSecond
    exact le_antisymm (inBin_le firstIn inSecond inFirst) (inBin_le secondIn inFirst inSecond)
  · obtain ⟨low, high⟩ := unit prediction member
    obtain ⟨index, ⟨inside, binned⟩, -⟩ := exists_unique_inBin positive low high
    exact ⟨index, inside, binned⟩

end Cover

/-! ### The scores -/

section Scores

/-- `zip(first, second, strict=True)`, when both are used up. -/
def zipStrict {First Second : Type} (first : List First) (second : List Second) :
    Except PyError (List (First × Second)) :=
  if first.length = second.length then .ok (first.zip second)
  else if first.length < second.length then
    .error (.valueError "zip() argument 2 is longer than argument 1")
  else .error (.valueError "zip() argument 2 is shorter than argument 1")

theorem zipStrict_eq_ok {First Second : Type} {first : List First} {second : List Second}
    {pairs : List (First × Second)} :
    zipStrict first second = .ok pairs ↔ first.length = second.length ∧ pairs = first.zip second := by
  unfold zipStrict
  split_ifs with same shorter
  · rw [Except.ok.injEq]
    exact ⟨fun zipped => ⟨same, zipped.symm⟩, fun both => both.2.symm⟩
  · exact ⟨fun impossible => (nomatch impossible), fun both => absurd both.1 same⟩
  · exact ⟨fun impossible => (nomatch impossible), fun both => absurd both.1 same⟩

/-- `brier_score(predictions, outcomes)`. A distance out of range is raised before the end of the zip. -/
def brierScoreOf (predictions : List PyFloat) (outcomes : List Bool) : Except PyError PyFloat :=
  if predictions.isEmpty then .ok (.finite 0)
  else do
    let squares ← (predictions.zip outcomes).mapM fun pair =>
      (pair.1.subRat (outcomeValue pair.2)).square
    let _ ← zipStrict predictions outcomes
    return (PyFloat.sum squares).divNat predictions.length

/-- A prediction lies in a bin. -/
def PyFloat.inBin (arithmetic : Arithmetic) (bins index : Nat) : PyFloat → Bool
  | .finite prediction => CosMonitor.inBin arithmetic bins index prediction
  | .infinite _ | .nan => false

/-- One round of the loop of `ece_score`. -/
def eceRound (arithmetic : Arithmetic) (predictions : List PyFloat) (outcomes : List Bool) (M : Nat)
    (ece : ℚ) (m : Nat) : Except PyError ℚ :=
  let binPreds := predictions.filter (PyFloat.inBin arithmetic M m)
  if binPreds.isEmpty then .ok ece
  else do
    let pairs ← zipStrict predictions outcomes
    let binOutcomes := (pairs.filter fun pair => pair.1.inBin arithmetic M m).map Prod.snd
    let acc := arithmetic.round (Bins.mean (binOutcomes.map outcomeValue))
    let conf := arithmetic.mean (binPreds.filterMap PyFloat.finite?)
    return arithmetic.round (ece + arithmetic.round
      (arithmetic.round (binPreds.length / predictions.length) * |arithmetic.round (acc - conf)|))

/-- `ece_score(predictions, outcomes, M)`. -/
def eceScoreOf (arithmetic : Arithmetic) (predictions : List PyFloat) (outcomes : List Bool) (M : Nat) :
    Except PyError ℚ :=
  if predictions.isEmpty then .ok 0
  else (List.range M).foldlM (eceRound arithmetic predictions outcomes M) 0

variable {predictions : List PyFloat} {outcomes : List Bool}

theorem brierScoreOf_lengths {brier : PyFloat} (present : predictions ≠ [])
    (scored : brierScoreOf predictions outcomes = .ok brier) : predictions.length = outcomes.length := by
  unfold brierScoreOf at scored
  rw [if_neg (by rwa [List.isEmpty_iff])] at scored
  obtain ⟨squares, -, scored⟩ := Result.bind_eq_ok.mp scored
  obtain ⟨pairs, zipped, -⟩ := Result.bind_eq_ok.mp scored
  exact (zipStrict_eq_ok.mp zipped).1

/-- **Lists of one length have the Brier score of their pairs.** -/
theorem brierScoreOf_zip (same : predictions.length = outcomes.length) :
    brierScoreOf predictions outcomes = brierScore (predictions.zip outcomes) := by
  have paired : (predictions.zip outcomes).length = predictions.length := by
    rw [List.length_zip, same, min_self]
  unfold brierScoreOf brierScore
  rw [zipStrict_eq_ok.mpr ⟨same, rfl⟩, paired]
  rcases predictions with _ | ⟨first, rest⟩
  · rfl
  · rcases outcomes with _ | ⟨outcome, others⟩
    · cases same
    · rfl

theorem filter_zip (same : predictions.length = outcomes.length) (arithmetic : Arithmetic) (M m : Nat) :
    predictions.filter (PyFloat.inBin arithmetic M m) =
      ((predictions.zip outcomes).filter (OutcomePair.inBin arithmetic M m)).map Prod.fst := by
  have firsts : (predictions.zip outcomes).map Prod.fst = predictions :=
    List.map_fst_zip same.le
  conv_lhs => rw [← firsts]
  rw [List.filter_map]
  rfl

theorem eceRound_zip (same : predictions.length = outcomes.length) (arithmetic : Arithmetic) (M m : Nat)
    (ece : ℚ) :
    eceRound arithmetic predictions outcomes M ece m =
      .ok (addBin arithmetic M (predictions.zip outcomes) ece m) := by
  have paired : (predictions.zip outcomes).length = predictions.length := by
    rw [List.length_zip, same, min_self]
  have inPair : (fun pair : PyFloat × Bool => pair.1.inBin arithmetic M m) =
      OutcomePair.inBin arithmetic M m := rfl
  unfold eceRound addBin
  dsimp only
  rw [filter_zip same, zipStrict_eq_ok.mpr ⟨same, rfl⟩, inPair, List.isEmpty_map, List.length_map,
    List.countP_eq_length_filter]
  by_cases empty : (predictions.zip outcomes).filter (OutcomePair.inBin arithmetic M m) = []
  · rw [if_pos (List.isEmpty_iff.mpr empty), if_pos (List.length_eq_zero_iff.mpr empty)]
  · rw [if_neg (by rwa [List.isEmpty_iff]), if_neg (by rwa [List.length_eq_zero_iff]), Result.ok_bind, paired]
    unfold binGap
    rw [List.map_map, List.filterMap_map]
    rfl

/-- **Lists of one length have the calibration error of their pairs.** -/
theorem eceScoreOf_zip (same : predictions.length = outcomes.length) (arithmetic : Arithmetic) (M : Nat) :
    eceScoreOf arithmetic predictions outcomes M =
      .ok (eceScore arithmetic (predictions.zip outcomes) M) := by
  have empty : (predictions.zip outcomes).isEmpty = predictions.isEmpty := by
    rcases predictions with _ | ⟨first, rest⟩
    · rfl
    · rcases outcomes with _ | ⟨outcome, others⟩
      · cases same
      · rfl
  have rounds : ∀ indices : List Nat, ∀ ece : ℚ,
      indices.foldlM (eceRound arithmetic predictions outcomes M) ece =
        .ok (indices.foldl (addBin arithmetic M (predictions.zip outcomes)) ece) := by
    intro indices
    induction indices with
    | nil => exact fun _ => rfl
    | cons index rest ih =>
        intro ece
        rw [List.foldlM_cons, eceRound_zip same, Result.ok_bind, ih]
        rfl
  unfold eceScoreOf eceScore
  rw [empty]
  split
  · rfl
  · exact rounds _ 0

end Scores

end CosMonitor
