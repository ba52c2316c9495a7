/-
**The calibration model — evidential support, explanatory coherence, ECE and final confidence.**

* `Arithmetic`: exact, or that of Python floats;
* `evidentialSupport_unit`: non-negative log-odds have a support in `[0, 1]`;
* `explanatoryCoherence_unit`: the coherence of a judgment is in `[0, 1]`;
* `eceScore_unit`: the bins are disjoint, so the exact calibration error is in `[0, 1]`;
* `finalConfidence_unit`: the ranges are checked before the score is computed, so on inputs of the
  unit interval it returns a score of the unit interval.
-/

import CosMonitor.Base.PyFloat
import CosMonitor.Foundation.Bins
import CosMonitor.Perception.Observation
import Mathlib.Data.Finset.Card

open Finset (range)

namespace CosMonitor

/-! ### Arithmetic -/

/-- What an operation gives whose exact result is a number, and what `sum` gives. -/
structure Arithmetic where
  round : ℚ → ℚ
  sum : List ℚ → ℚ
  round_mono : ∀ {value larger : ℚ}, value ≤ larger → round value ≤ round larger
  round_zero : round 0 = 0

namespace Arithmetic

def exact : Arithmetic where
  round := id
  sum := List.sum
  round_mono := id
  round_zero := rfl

/-- The arithmetic of floats, with one of the ways to sum them. -/
def float (sum : List ℚ → ℚ) : Arithmetic where
  round := PyFloat.double
  sum
  round_mono := PyFloat.double_mono
  round_zero := PyFloat.double_zero

@[simp] theorem exact_round (value : ℚ) : exact.round value = value := rfl

variable (arithmetic : Arithmetic)

/-- `sum(values) / len(values)`. -/
def mean (values : List ℚ) : ℚ :=
  arithmetic.round (arithmetic.sum values / values.length)

theorem round_nonneg {value : ℚ} (nonneg : 0 ≤ value) : 0 ≤ arithmetic.round value := by
  have rounded := arithmetic.round_mono nonneg
  rwa [arithmetic.round_zero] at rounded

end Arithmetic

/-- `math.exp`, with the two facts the services rely on for the arguments they give it, and `sum` on floats,
which compensates for its rounding from Python 3.12 on. -/
structure MathLib where
  exp : ℚ → Except PyError ℚ
  sum : List ℚ → ℚ
  /-- no overflow, and no negative value, on arguments up to zero -/
  exp_nonpos : ∀ argument ≤ 0, ∃ value, exp argument = .ok value ∧ 0 ≤ value

/-- The arithmetic of the floats. -/
def MathLib.arithmetic (math : MathLib) : Arithmetic :=
  .float math.sum

/-- A calibration input outside `[0, 1]`. -/
structure InvalidInputRangeError where
  name : String
  value : ℚ
  deriving DecidableEq

/-- The parameters fixed a priori: mixing coefficient, number of ECE bins, prior log-odds. -/
structure CalibrationParams where
  alpha : ℚ
  M : Int
  L0 : ℚ
  deriving DecidableEq

/-- `CalibrationParams()`. -/
def CalibrationParams.default : CalibrationParams where
  alpha := 1 / 2
  M := 10
  L0 := 0

/-- The score band of a quality class. -/
def qualityClassRange : QualityClass → ℚ × ℚ
  | .q1 => (3 / 4, 1)
  | .q2 => (1 / 2, 3 / 4)
  | .q3 => (1 / 4, 1 / 2)
  | .q4 => (0, 1 / 4)

/-- The midpoint of the band of a quality class. -/
def qualityClassToWeight (quality : QualityClass) : ℚ :=
  let (low, high) := qualityClassRange quality
  (low + high) / 2

theorem qualityClassToWeight_nonneg (quality : QualityClass) : 0 ≤ qualityClassToWeight quality := by
  cases quality <;> norm_num [qualityClassToWeight, qualityClassRange]

/-! ### Evidential support -/

/-- `S(H|E) = 1 / (1 + e^-L)` with `L = L0 + Σ w_i e_i`; the lists are zipped strictly. -/
def evidentialSupport (math : MathLib) (evidenceWeights : List ℚ) (signs : List Int) (L0 : ℚ) :
    Except PyError ℚ :=
  if evidenceWeights.length = signs.length then do
    -- The weights are eighths: their sum is exact.
    let L := PyFloat.double
      (L0 + ((evidenceWeights.zip signs).map fun (weight, sign) => weight * (sign : ℚ)).sum)
    let power ← math.exp (-L)
    return PyFloat.double (1 / PyFloat.double (1 + power))
  else .error (.valueError "zip() arguments differ in length")

/-- **Non-negative log-odds have a support, and it is in the unit interval.** -/
theorem evidentialSupport_unit (math : MathLib) {evidenceWeights : List ℚ} {signs : List Int}
    (aligned : evidenceWeights.length = signs.length)
    (supporting : 0 ≤ ((evidenceWeights.zip signs).map fun (weight, sign) => weight * (sign : ℚ)).sum) :
    ∃ support, evidentialSupport math evidenceWeights signs 0 = .ok support ∧
      0 ≤ support ∧ support ≤ 1 := by
  have odds := PyFloat.double_mono supporting
  rw [PyFloat.double_zero] at odds
  obtain ⟨power, returned, nonneg⟩ := math.exp_nonpos _ (neg_nonpos.mpr odds)
  have least : 1 ≤ PyFloat.double (1 + power) := by
    have more : 1 ≤ 1 + power := le_add_of_nonneg_right nonneg
    have rounded := PyFloat.double_mono more
    rwa [PyFloat.double_one] at rounded
  have positive : 0 < PyFloat.double (1 + power) := zero_lt_one.trans_le least
  refine ⟨PyFloat.double (1 / PyFloat.double (1 + power)), ?_,
    PyFloat.double_unit (one_div_nonneg.mpr positive.le) ((div_le_one positive).mpr least)⟩
  unfold evidentialSupport
  rw [if_pos aligned]
  dsimp only
  rw [zero_add, returned]
  rfl

/-! ### Explanatory coherence -/

/-- The constraints of a judgment. -/
structure CoherenceInputs where
  explains : List String
  contradicts : List String
  coherentWith : List String
  incoherentWith : List String
  deriving DecidableEq

/-- `max(0.0, min(1.0, value))`. -/
def clamp (value : ℚ) : ℚ :=
  max 0 (min 1 value)

theorem clamp_unit (value : ℚ) : 0 ≤ clamp value ∧ clamp value ≤ 1 := by
  unfold clamp
  exact ⟨le_max_left _ _, max_le zero_le_one (min_le_left _ _)⟩

/-- `C(H) = P / (P + N + U)`: the satisfied constraints among all constraints and the unexplained
evidence of the scope. -/
def explanatoryCoherence (arithmetic : Arithmetic) (evidence : List String)
    (constraints : CoherenceInputs) : ℚ :=
  let scope := evidence.toFinset
  if scope = ∅ then 1 / 2
  else
    let explains := constraints.explains.toFinset
    let contradicts := constraints.contradicts.toFinset
    let explained := (explains ∩ scope).card
    let contradicted := (contradicts ∩ scope).card
    let unexplained := (scope \ (explains ∪ contradicts)).card
    let positive := explained + constraints.coherentWith.toFinset.card
    let negative := contradicted + constraints.incoherentWith.toFinset.card
    let total := positive + negative + unexplained
    if total = 0 then 1 / 2 else clamp (arithmetic.round (positive / total))

theorem explanatoryCoherence_unit (arithmetic : Arithmetic) (evidence : List String)
    (constraints : CoherenceInputs) : 0 ≤ explanatoryCoherence arithmetic evidence constraints ∧
      explanatoryCoherence arithmetic evidence constraints ≤ 1 := by
  unfold explanatoryCoherence
  dsimp only
  split
  · norm_num
  · split
    · norm_num
    · exact clamp_unit _

/-! ### Calibration error -/

/-- A reported confidence with its binary outcome. -/
abbrev OutcomePair := PyFloat × Bool

/-- A prediction lies in bin `index` of `bins`; the last bin is closed. -/
def inBin (arithmetic : Arithmetic) (bins index : Nat) (prediction : ℚ) : Bool :=
  let lower := arithmetic.round (index / bins)
  let upper := arithmetic.round ((index + 1) / bins)
  let last := index + 1 = bins
  decide (lower ≤ prediction) && (decide (prediction < upper) || (last && decide (prediction ≤ upper)))

/-- The pair of a finite prediction of bin `index`. -/
def OutcomePair.inBin (arithmetic : Arithmetic) (bins index : Nat) (pair : OutcomePair) : Bool :=
  match pair.1 with
  | .finite prediction => CosMonitor.inBin arithmetic bins index prediction
  | .infinite _ | .nan => false

/-- `1` for a success, `0` for a failure. -/
def outcomeValue (outcome : Bool) : ℚ :=
  if outcome then 1 else 0

/-- The gap between accuracy and confidence in a bin. -/
def binGap (arithmetic : Arithmetic) (bins : Nat) (pairs : List OutcomePair) (index : Nat) : ℚ :=
  let chosen := pairs.filter (OutcomePair.inBin arithmetic bins index)
  let acc := arithmetic.round (Bins.mean (chosen.map fun pair => outcomeValue pair.2))
  let conf := arithmetic.mean (chosen.filterMap fun pair => pair.1.finite?)
  |arithmetic.round (acc - conf)|

/-- The calibration error with the weighted gap of one more bin. -/
def addBin (arithmetic : Arithmetic) (bins : Nat) (pairs : List OutcomePair) (ece : ℚ) (index : Nat) : ℚ :=
  let chosen := pairs.countP (OutcomePair.inBin arithmetic bins index)
  if chosen = 0 then ece
  else arithmetic.round (ece + arithmetic.round
    (arithmetic.round (chosen / pairs.length) * binGap arithmetic bins pairs index))

/-- ECE over `bins` bins; callers give a positive number of bins. -/
def eceScore (arithmetic : Arithmetic) (pairs : List OutcomePair) (bins : Nat) : ℚ :=
  if pairs.isEmpty then 0
  else (List.range bins).foldl (addBin arithmetic bins pairs) 0

theorem eceScore_nonneg (arithmetic : Arithmetic) (pairs : List OutcomePair) (bins : Nat) :
    0 ≤ eceScore arithmetic pairs bins := by
  have grows : ∀ indices : List Nat, ∀ ece : ℚ, 0 ≤ ece →
      0 ≤ indices.foldl (addBin arithmetic bins pairs) ece := by
    intro indices
    induction indices with
    | nil => exact fun _ nonneg => nonneg
    | cons index rest ih =>
        intro ece nonneg
        refine ih _ ?_
        unfold addBin
        dsimp only
        split
        · exact nonneg
        · refine arithmetic.round_nonneg (add_nonneg nonneg (arithmetic.round_nonneg ?_))
          refine mul_nonneg (arithmetic.round_nonneg ?_) (abs_nonneg _)
          exact div_nonneg (Nat.cast_nonneg _) (Nat.cast_nonneg _)
  unfold eceScore
  split
  · exact le_rfl
  · exact grows _ 0 le_rfl

/-- **The exact calibration error** is the sum of the gaps, each weighted by the share of its bin. -/
theorem eceScore_exact (pairs : List OutcomePair) (bins : Nat) :
    eceScore .exact pairs bins = if pairs.isEmpty then 0
      else Bins.weightedSum (OutcomePair.inBin .exact bins) bins (binGap .exact bins pairs) pairs := by
  have sums : ∀ count, (List.range count).foldl (addBin .exact bins pairs) 0 =
      ∑ index ∈ range count, (pairs.countP (OutcomePair.inBin .exact bins index) : ℚ) / pairs.length *
        binGap .exact bins pairs index := by
    intro count
    induction count with
    | zero => rfl
    | succ count ih =>
        rw [List.range_succ, List.foldl_append, ih, Finset.sum_range_succ, List.foldl_cons, List.foldl_nil]
        unfold addBin
        dsimp only
        split
        · rename_i none
          rw [none, Nat.cast_zero, zero_div, zero_mul, add_zero]
        · rfl
  unfold eceScore Bins.weightedSum
  rw [sums]

theorem inBin_bounds {bins index : Nat} {prediction : ℚ}
    (inside : inBin .exact bins index prediction = true) :
    (index : ℚ) / bins ≤ prediction ∧ prediction ≤ (index + 1) / bins ∧
      (prediction < (index + 1) / bins ∨ index + 1 = bins) := by
  unfold inBin at inside
  simp only [Bool.and_eq_true, Bool.or_eq_true, decide_eq_true_eq] at inside
  simp only [Arithmetic.exact_round] at inside
  obtain ⟨lower, below | ⟨last, upto⟩⟩ := inside
  · exact ⟨lower, below.le, .inl below⟩
  · exact ⟨lower, upto, .inr last⟩

theorem inBin_le {bins first second : Nat} {prediction : ℚ} (secondIn : second < bins)
    (inFirst : inBin .exact bins first prediction = true)
    (inSecond : inBin .exact bins second prediction = true) :
    second ≤ first := by
  by_contra later
  obtain ⟨-, -, below⟩ := inBin_bounds inFirst
  obtain ⟨above, -, -⟩ := inBin_bounds inSecond
  rcases below with below | last
  · have positive : (0 : ℚ) < bins := by
      exact_mod_cast Nat.zero_lt_of_lt secondIn
    have crossed : (second : ℚ) / bins < (first + 1) / bins := lt_of_le_of_lt above below
    rw [div_lt_div_iff_of_pos_right positive] at crossed
    have ordered : second < first + 1 := by exact_mod_cast crossed
    omega
  · omega

theorem disjoint_inBin (bins : Nat) : Bins.Disjoint (OutcomePair.inBin .exact bins) bins := by
  rintro ⟨prediction, outcome⟩ first firstIn second secondIn inFirst inSecond
  cases prediction with
  | finite value =>
      exact le_antisymm (inBin_le firstIn inSecond inFirst) (inBin_le secondIn inFirst inSecond)
  | infinite _ => cases inFirst
  | nan => cases inFirst

theorem binGap_unit {bins : Nat} (pairs : List OutcomePair) (index : Nat) (inside : index < bins) :
    0 ≤ binGap .exact bins pairs index ∧ binGap .exact bins pairs index ≤ 1 := by
  have positive : (0 : ℚ) < bins := by
    exact_mod_cast Nat.zero_lt_of_lt inside
  have closed : ((index : ℚ) + 1) / bins ≤ 1 := by
    rw [div_le_one positive]
    exact_mod_cast inside
  refine Bins.abs_sub_unit (Bins.mean_unit ?_) (Bins.mean_unit ?_)
  · intro value member
    obtain ⟨pair, -, rfl⟩ := List.mem_map.mp member
    unfold outcomeValue
    split <;> norm_num
  · intro value member
    obtain ⟨⟨prediction, outcome⟩, chosen, found⟩ := List.mem_filterMap.mp member
    have binned := (List.mem_filter.mp chosen).2
    cases prediction with
    | finite number =>
        obtain rfl : number = value := Option.some.inj found
        obtain ⟨lower, upper, -⟩ := inBin_bounds binned
        exact ⟨le_trans (by positivity) lower, le_trans upper closed⟩
    | infinite _ => cases found
    | nan => cases found

/-- **The exact calibration error is in the unit interval.** -/
theorem eceScore_unit (pairs : List OutcomePair) (bins : Nat) :
    0 ≤ eceScore .exact pairs bins ∧ eceScore .exact pairs bins ≤ 1 := by
  rw [eceScore_exact]
  split
  · norm_num
  · exact Bins.weightedSum_unit (disjoint_inBin bins) (binGap_unit pairs) pairs

/-- `brier_score`: the mean squared distance of the predictions from their outcomes. -/
def brierScore (pairs : List OutcomePair) : Except PyError PyFloat := do
  let squares ← pairs.mapM fun pair => (pair.1.subRat (outcomeValue pair.2)).square
  return if pairs.isEmpty then .finite 0 else (PyFloat.sum squares).divNat pairs.length

/-! ### Final confidence -/

/-- Reject a number outside the unit interval. -/
def checkUnit (name : String) (value : ℚ) : Except InvalidInputRangeError Unit :=
  if 0 ≤ value ∧ value ≤ 1 then .ok () else .error { name, value }

theorem checkUnit_unit {name : String} {value : ℚ} (unit : 0 ≤ value ∧ value ≤ 1) :
    checkUnit name value = .ok () := by
  unfold checkUnit
  rw [if_pos unit]

/-- `C_final = [alpha*S + (1-alpha)*C] * (1 - ECE)`, clamped. -/
def finalConfidence (arithmetic : Arithmetic) (S C ECE alpha : ℚ) :
    Except InvalidInputRangeError UnitScore := do
  checkUnit "S" S
  checkUnit "C" C
  checkUnit "ECE" ECE
  checkUnit "alpha" alpha
  let rest := arithmetic.round (arithmetic.round (1 - alpha) * C)
  let mixture := arithmetic.round (arithmetic.round (alpha * S) + rest)
  return ⟨clamp (arithmetic.round (mixture * arithmetic.round (1 - ECE))), clamp_unit _⟩

/-- **Inputs of the unit interval have a final confidence.** -/
theorem finalConfidence_unit (arithmetic : Arithmetic) {S C ECE alpha : ℚ} (support : 0 ≤ S ∧ S ≤ 1)
    (coherence : 0 ≤ C ∧ C ≤ 1) (error : 0 ≤ ECE ∧ ECE ≤ 1) (mixing : 0 ≤ alpha ∧ alpha ≤ 1) :
    finalConfidence arithmetic S C ECE alpha =
      .ok ⟨clamp (arithmetic.round (arithmetic.round (arithmetic.round (alpha * S) +
        arithmetic.round (arithmetic.round (1 - alpha) * C)) * arithmetic.round (1 - ECE))),
        clamp_unit _⟩ := by
  unfold finalConfidence
  rw [checkUnit_unit support, checkUnit_unit coherence, checkUnit_unit error, checkUnit_unit mixing]
  rfl

end CosMonitor
