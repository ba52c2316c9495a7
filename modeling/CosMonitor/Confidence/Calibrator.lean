/-
**The calibrator — scope, signs and the confidence of one hypothesis.**

* `resolveScopeEvidence`: the evidence of the contexts of the hypothesis' anomalies;
* `calibrate_checked`, `calibrate_own`: what a calibration that returned has checked, and that one on the
  evidence of its own scope returns.
-/

import CosMonitor.Foundation.Result
import CosMonitor.Learning.CalibrationModel
import CosMonitor.Learning.Confidence
import CosMonitor.Perception.ContextStore
import CosMonitor.Perception.Evidence
import CosMonitor.Reasoning.Hypothesis

namespace CosMonitor

/-- What the calibrator raises. -/
inductive CalibrateError where
  | emptyEvidence
  | emptyScope
  | alphaOutOfRange (alpha : ℚ)
  | binsNotPositive (M : Int)
  | outsideScope (error : EvidenceScopeError)
  | invalidInputRange (error : InvalidInputRangeError)
  | validation (field : String)
  | python (error : PyError)
  deriving DecidableEq

/-- Raise unless a condition holds. -/
def require (condition : Prop) [Decidable condition] (failure : CalibrateError) :
    Except CalibrateError Unit :=
  if condition then .ok () else .error failure

theorem require_holds {condition : Prop} [Decidable condition] {failure : CalibrateError}
    (holds : condition) : require condition failure = .ok () := by
  unfold require
  rw [if_pos holds]

theorem require_ok {condition : Prop} [Decidable condition] {failure : CalibrateError} {done : Unit} :
    require condition failure = .ok done ↔ condition := by
  unfold require
  split <;> simp_all

/-- A `Field(ge=0.0, le=1.0)` of a creation request. -/
def unitField (field : String) (value : ℚ) : Except CalibrateError UnitScore :=
  if unit : 0 ≤ value ∧ value ≤ 1 then .ok ⟨value, unit⟩ else .error (.validation field)

theorem unitField_unit {field : String} {value : ℚ} (unit : 0 ≤ value ∧ value ≤ 1) :
    unitField field value = .ok ⟨value, unit⟩ := by
  unfold unitField
  rw [dif_pos unit]

/-! ### Scope -/

/-- The evidence ids of the contexts of the anomalies of a hypothesis. -/
def scopeIds (hypothesis : Hypothesis) (anomalies : List Anomaly) (contexts : List Context) :
    List Uuid :=
  let ctxIds := (anomalies.filter fun anomaly => decide (anomaly.id ∈ hypothesis.anomalyIds)).map
    Anomaly.contextId
  (contexts.filter fun context => decide (context.id ∈ ctxIds)).flatMap Context.evidenceIds

/-- The evidence a hypothesis is accountable for. The source collects a set, whose order is
arbitrary: here it is the order of `evidenceById`. -/
def resolveScopeEvidence (hypothesis : Hypothesis) (anomalies : List Anomaly)
    (contexts : List Context) (evidenceById : List (Uuid × Evidence)) : List Evidence :=
  (evidenceById.filter fun entry => decide (entry.1 ∈ scopeIds hypothesis anomalies contexts)).map
    Prod.snd

/-! ### Scores -/

/-- The evidential sign of an organisation type for a judgment. -/
def sign (evidenceType : String) (explains contradicts : List String) : Int :=
  if evidenceType ∈ explains then 1 else if evidenceType ∈ contradicts then -1 else 0

/-- The evidence of a sign. -/
def withSign (wanted : Int) (evidence : List Evidence) (inputs : CoherenceInputs) : List Evidence :=
  evidence.filter fun item =>
    sign item.organizationType inputs.explains inputs.contradicts == wanted

/-- `S(H|E)` from the quality classes of the evidence that is not neutral. -/
def evidentialSupportScore (math : MathLib) (evidence : List Evidence) (inputs : CoherenceInputs)
    (L0 : ℚ) : Except PyError ℚ :=
  let contributing := evidence.filter fun item =>
    sign item.organizationType inputs.explains inputs.contradicts != 0
  evidentialSupport math (contributing.map fun item => qualityClassToWeight item.qualityClass)
    (contributing.map fun item => sign item.organizationType inputs.explains inputs.contradicts) L0

/-- `C(H)` over the scope. -/
def coherenceScore (arithmetic : Arithmetic) (scope : List Evidence) (inputs : CoherenceInputs) : ℚ :=
  explanatoryCoherence arithmetic (scope.map Evidence.organizationType) inputs

/-- `(1 - ECE, ECE)`; without a history nothing is penalised. -/
def historicalCalibrationFactor (arithmetic : Arithmetic) (historical : Option (List OutcomePair))
    (M : Int) : ℚ × ℚ :=
  match historical with
  | none | some [] => (1, 0)
  | some pairs =>
      let ece := eceScore arithmetic pairs M.toNat
      (clamp (arithmetic.round (1 - ece)), ece)

theorem historicalCalibrationFactor_unit (arithmetic : Arithmetic)
    (historical : Option (List OutcomePair)) (M : Int) :
    (0 ≤ (historicalCalibrationFactor arithmetic historical M).1 ∧
        (historicalCalibrationFactor arithmetic historical M).1 ≤ 1) ∧
      0 ≤ (historicalCalibrationFactor arithmetic historical M).2 := by
  match historical with
  | none => norm_num [historicalCalibrationFactor]
  | some [] => norm_num [historicalCalibrationFactor]
  | some (pair :: pairs) => exact ⟨clamp_unit _, eceScore_nonneg _ _ _⟩

theorem evidentialSupportScore_unit (math : MathLib) (evidence : List Evidence)
    {inputs : CoherenceInputs} (uncontradicted : inputs.contradicts = []) :
    ∃ support, evidentialSupportScore math evidence inputs 0 = .ok support ∧
      0 ≤ support ∧ support ≤ 1 := by
  unfold evidentialSupportScore
  refine evidentialSupport_unit math (by rw [List.length_map, List.length_map]) ?_
  rw [List.zip_map', List.map_map]
  refine List.sum_nonneg fun term member => ?_
  obtain ⟨item, -, rfl⟩ := List.mem_map.mp member
  refine mul_nonneg (qualityClassToWeight_nonneg _) ?_
  show (0 : ℚ) ≤ (sign item.organizationType inputs.explains inputs.contradicts : ℤ)
  rw [uncontradicted]
  unfold sign
  split <;> norm_num

/-! ### Calibration of one hypothesis -/

/-- The reasons for a score, as its text shows them. -/
def justification (judgment : String) (S C ece hist cFinal : ℚ) (params : CalibrationParams)
    (evidence : List Evidence) (inputs : CoherenceInputs) (historical : Option (List OutcomePair)) :
    Justification :=
  let supporting := withSign 1 evidence inputs
  let opposing := withSign (-1) evidence inputs
  let weights (items : List Evidence) :=
    (items.map fun item => qualityClassToWeight item.qualityClass).sum
  { judgment := String.ofList (judgment.toList.take 120)
    alpha := params.alpha
    M := params.M
    L0 := params.L0
    evidentialSupport := S
    logOdds := params.L0 + weights supporting - weights opposing
    supporting := supporting.map fun item =>
      (item.organizationType, item.qualityClass, qualityClassToWeight item.qualityClass)
    opposing := opposing.map Evidence.organizationType
    explanatoryCoherence := C
    explains := inputs.explains.insertionSort (· ≤ ·)
    contradicts := inputs.contradicts.insertionSort (· ≤ ·)
    calibrationError := ece
    history := historical.bind fun pairs => if pairs.isEmpty then none else some pairs.length
    historicalCalibration := hist
    finalConfidence := cFinal }

/-- Calibrate one hypothesis from an evidence sequence and its scope. -/
def calibrate (math : MathLib) (hypothesis : Hypothesis) (evidence scope : List Evidence)
    (inputs : CoherenceInputs) (params : CalibrationParams) (historical : Option (List OutcomePair)) :
    Except CalibrateError ConfidenceCreate := do
  require (evidence ≠ []) .emptyEvidence
  require (scope ≠ []) .emptyScope
  require (0 ≤ params.alpha ∧ params.alpha ≤ 1) (.alphaOutOfRange params.alpha)
  require (0 < params.M) (.binsNotPositive params.M)
  (validateConfidenceEvidenceScope (evidence.map Evidence.id) (scope.map Evidence.id)).mapError
    .outsideScope
  let S ← (evidentialSupportScore math evidence inputs params.L0).mapError .python
  let C := coherenceScore math.arithmetic scope inputs
  let (hist, ece) := historicalCalibrationFactor math.arithmetic historical params.M
  let cFinal ← (finalConfidence math.arithmetic S C ece params.alpha).mapError .invalidInputRange
  return {
    tenantId := hypothesis.tenantId
    targetType := .hypothesis
    targetId := hypothesis.id
    evidentialSupport := ← unitField "evidential_support" S
    explanatoryCoherence := ← unitField "explanatory_coherence" C
    historicalCalibration := ← unitField "historical_calibration" hist
    confidenceScore := cFinal
    alpha := ← unitField "alpha" params.alpha
    calibrationJustification :=
      justification hypothesis.description S C ece hist cFinal params evidence inputs historical
    calibrationErrorEstimate := ← unitField "calibration_error_estimate" ece
    evidenceIds := [] }

/-- The parameters are in the range that the calibrator accepts. -/
def CalibrationParams.InRange (params : CalibrationParams) : Prop :=
  (0 ≤ params.alpha ∧ params.alpha ≤ 1) ∧ 0 < params.M

instance (params : CalibrationParams) : Decidable params.InRange :=
  inferInstanceAs (Decidable (_ ∧ _))

/-- The calibration error of the history is a number that the calibrator accepts. In exact arithmetic it
always is (`eceScore_unit`). -/
def ErrorInRange (math : MathLib) (historical : Option (List OutcomePair)) (M : Int) : Prop :=
  (historicalCalibrationFactor math.arithmetic historical M).2 ≤ 1

instance (math : MathLib) (historical : Option (List OutcomePair)) (M : Int) :
    Decidable (ErrorInRange math historical M) :=
  inferInstanceAs (Decidable (_ ≤ _))

theorem finalConfidence_error {arithmetic : Arithmetic} {S C ECE alpha : ℚ} {score : UnitScore}
    (returned : finalConfidence arithmetic S C ECE alpha = .ok score) : ECE ≤ 1 := by
  unfold finalConfidence at returned
  obtain ⟨_, -, rest⟩ := Result.bind_eq_ok.mp returned
  obtain ⟨_, -, rest⟩ := Result.bind_eq_ok.mp rest
  obtain ⟨_, checked, -⟩ := Result.bind_eq_ok.mp rest
  unfold checkUnit at checked
  split at checked
  · rename_i unit
    exact unit.2
  · cases checked

theorem calibrate_checked {math : MathLib} {hypothesis : Hypothesis} {evidence scope : List Evidence}
    {inputs : CoherenceInputs} {params : CalibrationParams} {historical : Option (List OutcomePair)}
    {create : ConfidenceCreate}
    (returned : calibrate math hypothesis evidence scope inputs params historical = .ok create) :
    scope ≠ [] ∧ params.InRange ∧ ErrorInRange math historical params.M ∧
      ∀ item ∈ evidence, item.id ∈ scope.map Evidence.id := by
  unfold calibrate at returned
  obtain ⟨_, -, rest⟩ := Result.bind_eq_ok.mp returned
  obtain ⟨_, present, rest⟩ := Result.bind_eq_ok.mp rest
  obtain ⟨_, mixing, rest⟩ := Result.bind_eq_ok.mp rest
  obtain ⟨_, bins, rest⟩ := Result.bind_eq_ok.mp rest
  obtain ⟨_, inside, rest⟩ := Result.bind_eq_ok.mp rest
  obtain ⟨_, -, rest⟩ := Result.bind_eq_ok.mp rest
  obtain ⟨_, final, -⟩ := Result.bind_eq_ok.mp rest
  refine ⟨require_ok.mp present, ⟨require_ok.mp mixing, require_ok.mp bins⟩,
    finalConfidence_error (Result.mapError_eq_ok.mp final), fun item member => ?_⟩
  have accepted := validateConfidenceEvidenceScope_ok.mp (Result.mapError_eq_ok.mp inside)
  exact accepted item.id (List.mem_map_of_mem member)

/-- **On its own scope a hypothesis is calibrated**: no evidence lies outside, every score is in the
unit interval. -/
theorem calibrate_own (math : MathLib) (hypothesis : Hypothesis) {scope : List Evidence}
    {inputs : CoherenceInputs} {params : CalibrationParams} (historical : Option (List OutcomePair))
    (present : scope ≠ []) (inRange : params.InRange) (error : ErrorInRange math historical params.M)
    (noPrior : params.L0 = 0) (uncontradicted : inputs.contradicts = []) :
    ∃ create, calibrate math hypothesis scope scope inputs params historical = .ok create ∧
      create.targetId = hypothesis.id ∧ create.tenantId = hypothesis.tenantId := by
  obtain ⟨support, supported, supportUnit⟩ := evidentialSupportScore_unit math scope uncontradicted
  have coherenceUnit : 0 ≤ coherenceScore math.arithmetic scope inputs ∧
      coherenceScore math.arithmetic scope inputs ≤ 1 := explanatoryCoherence_unit _ _ _
  obtain ⟨histUnit, nonneg⟩ := historicalCalibrationFactor_unit math.arithmetic historical params.M
  have errorUnit := And.intro nonneg error
  have inside : validateConfidenceEvidenceScope (scope.map Evidence.id) (scope.map Evidence.id) =
      .ok () := validateConfidenceEvidenceScope_ok.mpr fun _ member => member
  unfold calibrate
  rw [noPrior, supported, inside, require_holds present, require_holds present,
    require_holds inRange.1, require_holds inRange.2]
  dsimp only [bind, Except.bind, Except.mapError]
  rw [finalConfidence_unit math.arithmetic supportUnit coherenceUnit errorUnit inRange.1]
  dsimp only
  rw [unitField_unit supportUnit, unitField_unit coherenceUnit, unitField_unit histUnit,
    unitField_unit inRange.1, unitField_unit errorUnit]
  refine ⟨_, rfl, ?_, ?_⟩
  · rfl
  · rfl

end CosMonitor
