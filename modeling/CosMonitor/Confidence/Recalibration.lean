/-
**Recalibrations of one hypothesis.**

`calibrate` leaves the evidence ids out of the creation request, so the id of the confidence hashes an empty
scope: it distinguishes two calibrations by their numbers only.

* `logOdds`, `evidentialSupportScore_eq`: the support is the sigmoid of one sum over the evidence;
* `calibrate_content`: what the request of a calibration has for its id to hash;
* `recalibration_distinct_iff`: two calibrations of a hypothesis have different ids exactly when their evidence,
  scopes, histories or parameters give different numbers, and only then is the second one inserted;
* `interchanged_evidence_swallowed`: one evidence in the place of another, and the second confidence is lost.
-/

import CosMonitor.Confidence.Service
import CosMonitor.Learning.ConfidenceIds

namespace CosMonitor

/-! ### Support -/

section Support

/-- The log-odds of a judgment: the prior, and the weight of each evidence with its sign. -/
def logOdds (evidence : List Evidence) (inputs : CoherenceInputs) (L0 : ℚ) : ℚ :=
  L0 + (evidence.map fun item => qualityClassToWeight item.qualityClass *
    (sign item.organizationType inputs.explains inputs.contradicts : ℚ)).sum

/-- `1 / (1 + e^-L)` in floats. -/
def sigmoid (math : MathLib) (L : ℚ) : Except PyError ℚ := do
  let power ← math.exp (-PyFloat.double L)
  return PyFloat.double (1 / PyFloat.double (1 + power))

/-- **The support is the sigmoid of the log-odds**: neutral evidence adds nothing to them. -/
theorem evidentialSupportScore_eq (math : MathLib) (evidence : List Evidence) (inputs : CoherenceInputs)
    (L0 : ℚ) : evidentialSupportScore math evidence inputs L0 = sigmoid math (logOdds evidence inputs L0) := by
  have neutral : ∀ evidence : List Evidence,
      ((evidence.filter fun item =>
          sign item.organizationType inputs.explains inputs.contradicts != 0).map fun item =>
        qualityClassToWeight item.qualityClass *
          (sign item.organizationType inputs.explains inputs.contradicts : ℚ)).sum =
      (evidence.map fun item => qualityClassToWeight item.qualityClass *
        (sign item.organizationType inputs.explains inputs.contradicts : ℚ)).sum := by
    intro evidence
    induction evidence with
    | nil => rfl
    | cons item rest ih =>
        by_cases zero : sign item.organizationType inputs.explains inputs.contradicts = 0
        · rw [List.filter_cons_of_neg (by simp [zero]), ih, List.map_cons, List.sum_cons, zero]
          simp
        · rw [List.filter_cons_of_pos (by simp [zero]), List.map_cons, List.map_cons, List.sum_cons,
            List.sum_cons, ih]
  unfold evidentialSupportScore evidentialSupport sigmoid logOdds
  rw [if_pos (by rw [List.length_map, List.length_map]), List.zip_map', List.map_map, ← neutral]
  rfl

end Support

/-! ### Calibrations -/

/-- What one calibration of a hypothesis is given. -/
structure CalibrationRun where
  evidence : List Evidence
  scope : List Evidence
  inputs : CoherenceInputs
  params : CalibrationParams
  historical : Option (List OutcomePair)

/-- The calibration of a hypothesis. -/
def CalibrationRun.calibrate (math : MathLib) (hypothesis : Hypothesis) (run : CalibrationRun) :
    Except CalibrateError ConfidenceCreate :=
  CosMonitor.calibrate math hypothesis run.evidence run.scope run.inputs run.params run.historical

/-- Two calibrations are given evidence with one support, scopes of one coherence, histories of one factor and
one mixing coefficient, all as floats: from forty-two supporting items of the best quality on, the support is
`1.0`. -/
structure CalibrationRun.SameReading (math : MathLib) (run other : CalibrationRun) : Prop where
  support : sigmoid math (logOdds run.evidence run.inputs run.params.L0) =
    sigmoid math (logOdds other.evidence other.inputs other.params.L0)
  coherence : coherenceScore math.arithmetic run.scope run.inputs =
    coherenceScore math.arithmetic other.scope other.inputs
  history : (historicalCalibrationFactor math.arithmetic run.historical run.params.M).1 =
    (historicalCalibrationFactor math.arithmetic other.historical other.params.M).1
  mixing : run.params.alpha = other.params.alpha

theorem unitField_ok {field : String} {value : ℚ} {score : UnitScore}
    (checked : unitField field value = .ok score) : score.val = value := by
  unfold unitField at checked
  split at checked
  · obtain rfl := Except.ok.inj checked
    rfl
  · cases checked

section Runs

variable {std : Stdlib} {math : MathLib} {hypothesis : Hypothesis} {run other : CalibrationRun}
  {create created : ConfidenceCreate}

/-- **What the id of a calibration hashes**: the hypothesis, four numbers, and no evidence. -/
theorem calibrate_content (returned : run.calibrate math hypothesis = .ok create) :
    (create.tenantId = hypothesis.tenantId ∧ create.targetType = .hypothesis ∧
      create.targetId = hypothesis.id) ∧
      sigmoid math (logOdds run.evidence run.inputs run.params.L0) = .ok create.content.evidentialSupport ∧
      create.content.explanatoryCoherence = coherenceScore math.arithmetic run.scope run.inputs ∧
      create.content.historicalCalibration =
        (historicalCalibrationFactor math.arithmetic run.historical run.params.M).1 ∧
      create.content.alpha = run.params.alpha ∧ create.content.evidenceIds = [] := by
  unfold CalibrationRun.calibrate CosMonitor.calibrate at returned
  obtain ⟨_, -, rest⟩ := Result.bind_eq_ok.mp returned
  obtain ⟨_, -, rest⟩ := Result.bind_eq_ok.mp rest
  obtain ⟨_, -, rest⟩ := Result.bind_eq_ok.mp rest
  obtain ⟨_, -, rest⟩ := Result.bind_eq_ok.mp rest
  obtain ⟨_, -, rest⟩ := Result.bind_eq_ok.mp rest
  obtain ⟨S, supported, rest⟩ := Result.bind_eq_ok.mp rest
  obtain ⟨cFinal, -, rest⟩ := Result.bind_eq_ok.mp rest
  obtain ⟨support, supportField, rest⟩ := Result.bind_eq_ok.mp rest
  obtain ⟨coherence, coherenceField, rest⟩ := Result.bind_eq_ok.mp rest
  obtain ⟨history, historyField, rest⟩ := Result.bind_eq_ok.mp rest
  obtain ⟨alpha, alphaField, rest⟩ := Result.bind_eq_ok.mp rest
  obtain ⟨error, -, rest⟩ := Result.bind_eq_ok.mp rest
  obtain rfl := Except.ok.inj rest
  refine ⟨⟨rfl, rfl, rfl⟩, ?_, unitField_ok coherenceField, unitField_ok historyField,
    unitField_ok alphaField, rfl⟩
  rw [← evidentialSupportScore_eq, Result.mapError_eq_ok.mp supported]
  exact congrArg Except.ok (unitField_ok supportField).symm

theorem preimage_of_reading (returned : run.calibrate math hypothesis = .ok create)
    (otherReturned : other.calibrate math hypothesis = .ok created) (reading : run.SameReading math other) :
    create.preimage std = created.preimage std := by
  obtain ⟨⟨tenant, type, target⟩, support, coherence, history, mixing, ids⟩ := calibrate_content returned
  obtain ⟨⟨otherTenant, otherType, otherTarget⟩, otherSupport, otherCoherence, otherHistory, otherMixing,
    otherIds⟩ := calibrate_content otherReturned
  have supports : create.content.evidentialSupport = created.content.evidentialSupport := by
    rw [reading.support, otherSupport] at support
    exact (Except.ok.inj support).symm
  unfold ConfidenceCreate.preimage confidencePreimage
  rw [tenant, otherTenant, type, otherType, target, otherTarget, supports, coherence, otherCoherence,
    reading.coherence, history, otherHistory, reading.history, mixing, otherMixing, reading.mixing, ids,
    otherIds]

theorem reading_of_preimage {doubles : Set ℚ} (packs : std.PacksDoubles doubles)
    (returned : run.calibrate math hypothesis = .ok create)
    (otherReturned : other.calibrate math hypothesis = .ok created)
    (within : ∀ number ∈ create.content.numbers, number ∈ doubles)
    (otherWithin : ∀ number ∈ created.content.numbers, number ∈ doubles)
    (same : create.preimage std = created.preimage std) : run.SameReading math other := by
  obtain ⟨-, support, coherence, history, mixing, -⟩ := calibrate_content returned
  obtain ⟨-, otherSupport, otherCoherence, otherHistory, otherMixing, -⟩ := calibrate_content otherReturned
  obtain ⟨-, -, -, numbers, -⟩ := confidencePreimage_unique packs within otherWithin same
  simp only [CalibrationContent.numbers, List.cons.injEq, and_true] at numbers
  obtain ⟨supports, coherences, histories, alphas⟩ := numbers
  constructor
  · rw [support, otherSupport, supports]
  · rw [← coherence, ← otherCoherence, coherences]
  · rw [← history, ← otherHistory, histories]
  · rw [← mixing, ← otherMixing, alphas]

theorem saveConfidence_none {now : Timestamp} {confidence : Confidence} {rows : List Confidence} :
    (saveConfidence now confidence rows).1 = none ↔ ∃ row ∈ rows, row.id = confidence.id := by
  unfold saveConfidence
  rcases Table.insertAbsent_cases Confidence.id (confidence.toRow now) rows with
    ⟨stored, inserted⟩ | ⟨fresh, inserted⟩
  · rw [inserted]
    exact ⟨fun _ => stored, fun _ => rfl⟩
  · rw [inserted]
    constructor
    · intro absent
      cases absent
    · rintro ⟨row, member, same⟩
      exact absurd same (fresh row member)

/-- **A recalibration is told apart exactly by its numbers.** Both calibrations have a confidence, with an id of
its own, exactly when Python gives bytes an id and the evidence, the scope, the history or the mixing coefficient
gives another number; different evidence alone does not. With such a Python the second confidence is inserted
after the first one exactly then. -/
theorem recalibration_distinct_iff {doubles : Set ℚ} (packs : std.PacksDoubles doubles)
    (returned : run.calibrate math hypothesis = .ok create)
    (otherReturned : other.calibrate math hypothesis = .ok created)
    (within : ∀ number ∈ create.content.numbers, number ∈ doubles)
    (otherWithin : ∀ number ∈ created.content.numbers, number ∈ doubles)
    (noCollision : ∀ hash ∈ std.uuid5Bytes, hash confidenceNamespace (create.preimage std) =
        hash confidenceNamespace (created.preimage std) →
      create.preimage std = created.preimage std) (now later : Timestamp) :
    ((∃ first second, buildConfidence std now create = .ok first ∧
        buildConfidence std later created = .ok second ∧ first.id ≠ second.id) ↔
      std.uuid5Bytes.isSome = true ∧ ¬run.SameReading math other) ∧
    ∀ first second, buildConfidence std now create = .ok first →
      buildConfidence std later created = .ok second →
      ∀ rows : List Confidence, (∀ row ∈ rows, row.id ≠ second.id) →
        ((saveConfidence later second (saveConfidence now first rows).2).1 ≠ none ↔
          ¬run.SameReading math other) := by
  have ids : ∀ first second, buildConfidence std now create = .ok first →
      buildConfidence std later created = .ok second →
        (first.id = second.id ↔ run.SameReading math other) := by
    intro first second built otherBuilt
    obtain ⟨hash, supported, rfl⟩ := buildConfidence_eq_ok.mp built
    obtain ⟨again, supportedToo, rfl⟩ := buildConfidence_eq_ok.mp otherBuilt
    obtain rfl : hash = again := Option.some.inj (supported.symm.trans supportedToo)
    constructor
    · intro same
      exact reading_of_preimage packs returned otherReturned within otherWithin
        (noCollision hash supported same)
    · intro reading
      exact congrArg (hash confidenceNamespace) (preimage_of_reading returned otherReturned reading)
  refine ⟨⟨?_, ?_⟩, fun first second built otherBuilt rows fresh => ?_⟩
  · rintro ⟨first, second, built, otherBuilt, differ⟩
    obtain ⟨hash, supported, -⟩ := buildConfidence_eq_ok.mp built
    exact ⟨by rw [supported]; rfl, fun reading => differ ((ids first second built otherBuilt).mpr reading)⟩
  · rintro ⟨some, differ⟩
    obtain ⟨hash, supported⟩ := Option.isSome_iff_exists.mp some
    obtain ⟨first, built⟩ := buildConfidence_returns now create supported
    obtain ⟨second, otherBuilt⟩ := buildConfidence_returns later created supported
    exact ⟨first, second, built, otherBuilt, fun same => differ ((ids first second built otherBuilt).mp same)⟩
  · refine not_congr (Iff.trans ?_ (ids first second built otherBuilt))
    rw [saveConfidence_none, saveConfidence_ids]
    constructor
    · rintro (⟨row, member, stored⟩ | same)
      · exact absurd stored (fresh row member)
      · exact same
    · exact .inr

end Runs

/-! ### One evidence in the place of another -/

/-- The third evidence of tenant 1, on a fact that the hypothesis does not explain. -/
def unrelatedEvidence : Evidence :=
  { measuredEvidence 7 with organizationType := "network_anomaly_evidence" }

/-- A calibration of a hypothesis on the exhausted resources from one evidence of its scope. -/
def calibrationFrom (item : Evidence) : CalibrationRun where
  evidence := [item]
  scope := [measuredEvidence 2, measuredEvidence 6, unrelatedEvidence]
  inputs := ⟨["resource_exhaustion_evidence"], [], [], []⟩
  params := { alpha := 1 / 2, M := 10, L0 := 0 }
  historical := none

/-- The support of the first evidence, `0.7057850278370112`. -/
def measuredSupport : ℚ :=
  6357146376740878 / 2 ^ 53

/-- The hash that `uuid.uuid5` gives the preimages of the two calibrations below. -/
def packingHash (_ : Uuid) (bytes : List UInt8) : Uuid :=
  if 0xca ∈ bytes then 0xe9bf70f8eb10551190ec831652d9c1fd
  else 0x1d47c831212b5202b8da5e83d157d0c3

/-- `struct.pack` and `uuid.uuid5` as the two calibrations below call them. -/
def packingStd : Stdlib :=
  { Stdlib.constant with
    packDouble := fun value =>
      if value = measuredSupport then [0x3f, 0xe6, 0x95, 0xca, 0x7b, 0x92, 0x20, 0x0e]
      else if value = 1 / 2 then [0x3f, 0xe0, 0, 0, 0, 0, 0, 0]
      else [0x3f, 0xf0, 0, 0, 0, 0, 0, 0]
    uuid5Bytes := some packingHash }

theorem packingStd_packs : packingStd.PacksDoubles {measuredSupport, 1 / 2, 1} := by
  have listed : ∀ value ∈ ({measuredSupport, 1 / 2, 1} : Set ℚ), value ∈ [measuredSupport, 1 / 2, 1] := by
    simp
  exact packsDoubles_of_listed listed (List.forall_iff_forall_mem.mp (by decide +kernel))
    (by decide +kernel)

/-- A calibration from an evidence that the hypothesis explains, and one from an evidence that says nothing. -/
theorem recalibration_distinct_unrelated :
    ∃ create created first second,
      (calibrationFrom (measuredEvidence 2)).calibrate tabulatedMath (explanationOf 5 4) = .ok create ∧
      (calibrationFrom unrelatedEvidence).calibrate tabulatedMath (explanationOf 5 4) = .ok created ∧
      buildConfidence packingStd 0 create = .ok first ∧ buildConfidence packingStd 1 created = .ok second ∧
      first.id ≠ second.id := by
  let first := (calibrationFrom (measuredEvidence 2)).calibrate tabulatedMath (explanationOf 5 4)
  let second := (calibrationFrom unrelatedEvidence).calibrate tabulatedMath (explanationOf 5 4)
  have numbers : first.toOption.map (fun create => create.content.numbers) =
      some [measuredSupport, 1 / 2, 1, 1 / 2] := by decide +kernel
  have otherNumbers : second.toOption.map (fun create => create.content.numbers) =
      some [1 / 2, 1 / 2, 1, 1 / 2] := by decide +kernel
  have hashed : first.toOption.map (fun create => decide (0xca ∈ create.preimage packingStd)) = some true := by
    decide +kernel
  have otherHashed : second.toOption.map (fun create => decide (0xca ∈ create.preimage packingStd)) =
      some false := by decide +kernel
  obtain ⟨create, found, listed⟩ := Option.map_eq_some_iff.mp numbers
  obtain ⟨created, otherFound, otherListed⟩ := Option.map_eq_some_iff.mp otherNumbers
  have returned := Result.toOption_eq_some found
  have otherReturned := Result.toOption_eq_some otherFound
  rw [found, Option.map_some, Option.some.injEq, decide_eq_true_eq] at hashed
  rw [otherFound, Option.map_some, Option.some.injEq, decide_eq_false_iff_not] at otherHashed
  have distinct : ∃ first second, buildConfidence packingStd 0 create = .ok first ∧
      buildConfidence packingStd 1 created = .ok second ∧ first.id ≠ second.id := by
    refine (recalibration_distinct_iff packingStd_packs returned otherReturned ?_ ?_ ?_ 0 1).1.mpr ⟨rfl, ?_⟩
    · rw [listed]
      simp
    · rw [otherListed]
      simp
    · intro hash isHash same
      obtain rfl : packingHash = hash := Option.some.inj isHash
      have differ : (0xe9bf70f8eb10551190ec831652d9c1fd : Uuid) ≠ 0x1d47c831212b5202b8da5e83d157d0c3 := by
        decide
      refine absurd ?_ differ
      calc (0xe9bf70f8eb10551190ec831652d9c1fd : Uuid)
          = packingHash confidenceNamespace (create.preimage packingStd) := (if_pos hashed).symm
        _ = packingHash confidenceNamespace (created.preimage packingStd) := same
        _ = 0x1d47c831212b5202b8da5e83d157d0c3 := if_neg otherHashed
    · rintro ⟨support, -, -, -⟩
      revert support
      decide +kernel
  obtain ⟨first, second, built, otherBuilt, differ⟩ := distinct
  exact ⟨create, created, first, second, returned, otherReturned, built, otherBuilt, differ⟩

/-- **One evidence in the place of another of its type and quality class**: the two sets have no evidence in
common, the confidences have one id, and the second one is not inserted. -/
theorem interchanged_evidence_swallowed :
    ∃ create,
      (calibrationFrom (measuredEvidence 2)).calibrate tabulatedMath (explanationOf 5 4) = .ok create ∧
      (calibrationFrom (measuredEvidence 6)).calibrate tabulatedMath (explanationOf 5 4) = .ok create ∧
      (∀ id ∈ (calibrationFrom (measuredEvidence 2)).evidence.map Evidence.id,
        id ∉ (calibrationFrom (measuredEvidence 6)).evidence.map Evidence.id) ∧
      ∀ (std : Stdlib) (now later : Timestamp), std.uuid5Bytes.isSome = true →
        ∃ first second, buildConfidence std now create = .ok first ∧
          buildConfidence std later create = .ok second ∧ first.id = second.id ∧
          (saveConfidence later second (saveConfidence now first []).2).1 = none := by
  have returns : ((calibrationFrom (measuredEvidence 2)).calibrate tabulatedMath
      (explanationOf 5 4)).toOption.isSome = true := by decide +kernel
  have same : (calibrationFrom (measuredEvidence 2)).calibrate tabulatedMath (explanationOf 5 4) =
      (calibrationFrom (measuredEvidence 6)).calibrate tabulatedMath (explanationOf 5 4) := by
    decide +kernel
  obtain ⟨create, found⟩ := Option.isSome_iff_exists.mp returns
  have returned := Result.toOption_eq_some found
  refine ⟨create, returned, same.symm.trans returned, ?_, fun std now later some => ?_⟩
  · exact List.forall_iff_forall_mem.mp (by decide)
  · obtain ⟨hash, supported⟩ := Option.isSome_iff_exists.mp some
    obtain ⟨first, built⟩ := buildConfidence_returns now create supported
    obtain ⟨second, again⟩ := buildConfidence_returns later create supported
    have ids : first.id = second.id :=
      Except.ok.inj ((buildConfidence_id built).symm.trans (buildConfidence_id again))
    refine ⟨first, second, built, again, ids, ?_⟩
    rw [saveConfidence_none, saveConfidence_ids]
    exact .inr ids

end CosMonitor
