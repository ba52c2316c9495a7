/-
**The anomaly detector — active contexts against the expected pattern of their scope.**

* `ToleranceDefinition`, `toleranceLibrary`: the thresholds, with what `__post_init__` checks as fields;
* `deviationDaysOffSchedule`: how far the gap since the detection time of the pattern is from its cadence,
  in intervals of the cadence;
* `detect`: a candidate for each active context whose deviation exceeds its tolerance.
-/

import CosMonitor.Reasoning.PatternDetector

namespace CosMonitor

/-! ### Tolerances -/

/-- `ANOMALY_CLASSES`. -/
inductive AnomalyClass where
  | point
  | contextual
  | collective
  deriving DecidableEq, Repr

/-- `DEVIATION_SPECS`. -/
inductive DeviationSpec where
  | daysOffSchedule
  | countExceedingWindow
  deriving DecidableEq, Repr

/-- `FREQUENCY_INTERVAL_DAYS`. -/
def frequencyIntervalDays : List (String × ℚ) :=
  [("hourly", PyFloat.double (1 / 24)), ("daily", 1), ("weekly", 7)]

@[simp] theorem interval_daily :
    frequencyIntervalDays.lookup Frequency.daily.label = some 1 := by decide

@[simp] theorem interval_weekly :
    frequencyIntervalDays.lookup Frequency.weekly.label = some 7 := by decide

@[simp] theorem interval_eventDriven :
    frequencyIntervalDays.lookup Frequency.eventDriven.label = none := by decide

/-- A deviation tolerance for a known pattern. An empty `scopePurposes` stands for every purpose. -/
structure ToleranceDefinition where
  toleranceId : String
  patternType : PatternType
  scopeMentalModels : List String
  scopePurposes : List String
  anomalyClass : AnomalyClass
  deviationSpec : DeviationSpec
  threshold : ℚ
  expectedMaxActivations : Int
  windowDays : ℚ
  thresholdNonneg : 0 ≤ threshold
  countable : deviationSpec = .countExceedingWindow → 1 ≤ expectedMaxActivations ∧ 0 < windowDays

/-- How far a context may be off the schedule of its pattern. -/
def scheduleDeviation (mentalModel : String) : ToleranceDefinition where
  toleranceId := "schedule_deviation_" ++ mentalModel ++ "_v1"
  patternType := .temporal
  scopeMentalModels := [mentalModel]
  scopePurposes := []
  anomalyClass := .point
  deviationSpec := .daysOffSchedule
  threshold := 1 / 2
  expectedMaxActivations := 1
  windowDays := 1
  thresholdNonneg := half_isUnit.1
  countable := nofun

/-- How many activations may cluster within a day. -/
def clusteringDeviation (mentalModel : String) (expectedMaxActivations : Int)
    (positive : 1 ≤ expectedMaxActivations) : ToleranceDefinition where
  toleranceId := "clustering_deviation_" ++ mentalModel ++ "_v1"
  patternType := .temporal
  scopeMentalModels := [mentalModel]
  scopePurposes := []
  anomalyClass := .point
  deviationSpec := .countExceedingWindow
  threshold := 1
  expectedMaxActivations
  windowDays := 1
  thresholdNonneg := zero_le_one
  countable := fun _ => ⟨positive, zero_lt_one⟩

def scheduleDeviationCapacityRisk : ToleranceDefinition :=
  scheduleDeviation "capacity_risk"

def clusteringDeviationServiceFailure : ToleranceDefinition :=
  clusteringDeviation "service_failure" 1 (le_refl 1)

def scheduleDeviationResourcePressure : ToleranceDefinition :=
  scheduleDeviation "resource_pressure"

def clusteringDeviationAuthCompromise : ToleranceDefinition :=
  clusteringDeviation "auth_compromise" 2 one_le_two

def scheduleDeviationConnectivityDegradation : ToleranceDefinition :=
  scheduleDeviation "connectivity_degradation"

/-- `TOLERANCE_LIBRARY`. -/
def toleranceLibrary : List ToleranceDefinition :=
  [scheduleDeviationCapacityRisk, clusteringDeviationServiceFailure,
    scheduleDeviationResourcePressure, clusteringDeviationAuthCompromise,
    scheduleDeviationConnectivityDegradation]

namespace AnomalyDetector

/-! ### The detector -/

/-- A measured deviation that exceeded its tolerance threshold. -/
structure CandidateAnomaly where
  contextId : Uuid
  patternId : Uuid
  mentalModelId : String
  purpose : String
  deviationScore : ℚ
  toleranceThreshold : ℚ
  anomalyClass : AnomalyClass
  toleranceId : String
  deviationSpec : DeviationSpec
  rationale : String
  deriving DecidableEq

/-- Auditable outcome of one detection run over one tenant. -/
structure DetectionResult where
  candidates : List CandidateAnomaly
  activeContexts : Nat
  contextsWithoutPattern : Nat
  contextsWithoutTolerance : Nat
  deriving DecidableEq

/-- `anchors.get(id)`: the last context that was put under an identifier. -/
def anchor (contexts active : List Context) (id : Uuid) : Option Context :=
  (contexts ++ active).reverse.find? fun context => decide (context.id = id)

/-- The active patterns by the scope of their anchor, the latest first. -/
def resolvePatternScopes (contexts active : List Context) (patterns : List PatternRecord) :
    List ((String × String) × List PatternRecord) :=
  let anchored := patterns.filterMap fun pattern =>
    if pattern.isActive then (anchor contexts active pattern.contextId).map fun found =>
      (found.scope, pattern)
    else none
  (Grouping.groupBy Prod.fst anchored).map fun group =>
    (group.1, Sorting.sortByDesc (fun pattern => pattern.detectedAt) (group.2.map Prod.snd))

/-- The first tolerance for the scope of a context and the type of a pattern. -/
def findTolerance (tolerances : List ToleranceDefinition) (context : Context)
    (patternType : String) : Option ToleranceDefinition :=
  tolerances.find? fun tolerance =>
    tolerance.scopeMentalModels.contains context.mentalModelId &&
      (tolerance.scopePurposes.isEmpty || tolerance.scopePurposes.contains context.purpose) &&
      decide (tolerance.patternType.name = patternType)

/-- `gap_days`: the time from the detection of the pattern to the activation. -/
def gapDays (context : Context) (pattern : PatternRecord) : ℚ :=
  totalDays (context.activatedAt - pattern.detectedAt)

/-- How far the gap is from the cadence, in intervals; `none` without a cadence. -/
def deviationDaysOffSchedule (context : Context) (pattern : PatternRecord) : Option ℚ :=
  (frequencyIntervalDays.lookup pattern.frequency).map fun interval =>
    PyFloat.double (|PyFloat.double (gapDays context pattern - interval)| / interval)

/-- The activations of the same scope in the window that ends with the context. -/
def countActivationsInWindow (context : Context) (stream : List Context)
    (tolerance : ToleranceDefinition) : Nat :=
  stream.countP fun other => decide (other.tenantId = context.tenantId ∧
    other.mentalModelId = context.mentalModelId ∧ other.purpose = context.purpose ∧
    context.activatedAt - daysSpan tolerance.windowDays ≤ other.activatedAt ∧
    other.activatedAt ≤ context.activatedAt)

/-- The activations in the window against the expected maximum. -/
def deviationCountExceedingWindow (context : Context) (stream : List Context)
    (tolerance : ToleranceDefinition) : ℚ :=
  PyFloat.double
    (countActivationsInWindow context stream tolerance / (max tolerance.expectedMaxActivations 1 : Int))

/-- The text of a deviation from the schedule. -/
def rationaleDaysOffSchedule (formats : DetectorFormats) (context : Context)
    (pattern : PatternRecord) (interval score : ℚ) : String :=
  "El contexto " ++ context.mentalModelId ++ " para " ++ context.purpose ++ " se activó el " ++
    formats.minute context.activatedAt ++ "; el patrón esperado " ++ uuidText pattern.id ++
    " (frecuencia " ++ pattern.frequency ++ ", intervalo esperado de " ++ formats.general interval ++
    " días desde " ++ formats.minute pattern.detectedAt ++ ") presenta una desviación de " ++
    formats.signed1 (gapDays context pattern) ++ " días respecto al intervalo esperado (score " ++
    formats.general score ++ ")."

/-- The text of a cluster of activations. -/
def rationaleCountExceedingWindow (formats : DetectorFormats) (std : Stdlib) (context : Context)
    (count : Nat) (tolerance : ToleranceDefinition) (score : ℚ) : String :=
  "El contexto " ++ context.mentalModelId ++ " para " ++ context.purpose ++ " se activó " ++
    toString count ++ " veces en la ventana de " ++ std.str (daysLabel tolerance.windowDays) ++
    " día(s); el patrón esperado tolera como máximo " ++ toString tolerance.expectedMaxActivations ++
    " activación(es) en esa ventana (score " ++ formats.general score ++ ")."

/-- What the detector says of an active context. -/
inductive Verdict where
  | withoutPattern
  | withoutTolerance
  | within
  | candidate (anomaly : CandidateAnomaly)
  deriving DecidableEq

/-- The candidate of a score that exceeds the tolerance. -/
def exceeding (context : Context) (pattern : PatternRecord) (tolerance : ToleranceDefinition)
    (score : ℚ) (rationale : String) : Verdict :=
  if tolerance.threshold < score then
    .candidate
      { contextId := context.id
        patternId := pattern.id
        mentalModelId := context.mentalModelId
        purpose := context.purpose
        deviationScore := PyFloat.double (roundHalfEven 4 score)
        toleranceThreshold := PyFloat.double (roundHalfEven 4 tolerance.threshold)
        anomalyClass := tolerance.anomalyClass
        toleranceId := tolerance.toleranceId
        deviationSpec := tolerance.deviationSpec
        rationale }
  else .within

/-- One round of the loop over the active contexts. -/
def inspect (formats : DetectorFormats) (std : Stdlib) (contexts : List Context)
    (byScope : List ((String × String) × List PatternRecord)) (tolerances : List ToleranceDefinition)
    (context : Context) : Verdict :=
  match (byScope.lookup context.scope).bind List.head? with
  | none => .withoutPattern
  | some pattern =>
      match findTolerance tolerances context pattern.patternType with
      | none => .withoutTolerance
      | some tolerance =>
          match tolerance.deviationSpec with
          | .countExceedingWindow =>
              let score := deviationCountExceedingWindow context contexts tolerance
              exceeding context pattern tolerance score (rationaleCountExceedingWindow formats std
                context (countActivationsInWindow context contexts tolerance) tolerance score)
          | .daysOffSchedule =>
              match deviationDaysOffSchedule context pattern with
              | none => .withoutTolerance
              | some score =>
                  exceeding context pattern tolerance score (rationaleDaysOffSchedule formats context
                    pattern ((frequencyIntervalDays.lookup pattern.frequency).getD 0) score)

/-- The candidate of a verdict. -/
def Verdict.anomaly : Verdict → Option CandidateAnomaly
  | candidate anomaly => some anomaly
  | withoutPattern | withoutTolerance | within => none

/-- **When a context is reported as off its schedule**, given the expected pattern of its scope. -/
theorem inspect_schedule {formats : DetectorFormats} {std : Stdlib} {contexts : List Context}
    {byScope : List ((String × String) × List PatternRecord)} {tolerances : List ToleranceDefinition}
    {context : Context} {pattern : PatternRecord}
    (expected : (byScope.lookup context.scope).bind List.head? = some pattern) :
    (∃ anomaly, (inspect formats std contexts byScope tolerances context).anomaly = some anomaly ∧
        anomaly.deviationSpec = .daysOffSchedule) ↔
      ∃ tolerance, findTolerance tolerances context pattern.patternType = some tolerance ∧
        tolerance.deviationSpec = .daysOffSchedule ∧
        ∃ score, deviationDaysOffSchedule context pattern = some score ∧
          tolerance.threshold < score := by
  unfold inspect
  rw [expected]
  dsimp only
  rcases findTolerance tolerances context pattern.patternType with _ | tolerance
  · simp [Verdict.anomaly]
  · rcases spec : tolerance.deviationSpec with _ | _
    · rcases deviationDaysOffSchedule context pattern with _ | score
      · simp [Verdict.anomaly, spec]
      · by_cases exceeds : tolerance.threshold < score
        · simp [exceeding, exceeds, Verdict.anomaly, spec]
        · simp [exceeding, exceeds, Verdict.anomaly, spec]
    · simp only [exceeding, Option.some.injEq, exists_eq_left', spec, reduceCtorEq, false_and,
        iff_false, not_exists, not_and]
      intro anomaly found
      split at found
      · rw [← Option.some.inj found]
        simp
      · cases found

/-- Detect deviations of active contexts against expected patterns. -/
def detect (formats : DetectorFormats) (std : Stdlib) (contexts : List Context)
    (patterns : List PatternRecord) (tolerances : List ToleranceDefinition)
    (activeContexts : Option (List Context)) (tenantId : Option Uuid) : DetectionResult :=
  let stream := contexts.filter fun context =>
    tenantId.all fun id => decide (context.tenantId = id)
  let known := patterns.filter fun pattern =>
    tenantId.all fun id => decide (pattern.tenantId = id)
  let subjects : List Context := match activeContexts with
    | none => stream.filter (·.isActive)
    | some active => active.filter fun context => decide (some context.tenantId = tenantId)
  let byScope := resolvePatternScopes stream (activeContexts.getD []) known
  let verdicts := subjects.map (inspect formats std stream byScope tolerances)
  { candidates := verdicts.filterMap Verdict.anomaly
    activeContexts := subjects.length
    contextsWithoutPattern := verdicts.countP fun verdict => decide (verdict = .withoutPattern)
    contextsWithoutTolerance := verdicts.countP fun verdict => decide (verdict = .withoutTolerance) }

end AnomalyDetector

end CosMonitor
