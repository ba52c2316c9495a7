/-
**Patterns: what the pattern store keeps, and the library of known patterns.**

* `Pattern`, `PatternRecord`: a row without and with the two columns that only the detectors read;
* `buildPattern`: the row of a creation request, under an identifier of its content;
* `PatternDefinition`: a known pattern, with what `__post_init__` checks as fields;
* `patternLibrary`: the definitions that the pattern service is started with.
-/

import CosMonitor.Base.Stdlib

namespace CosMonitor

/-! ### Rows -/

/-- A detected regularity of a context. -/
structure Pattern where
  id : Uuid
  tenantId : Uuid
  contextId : Uuid
  patternType : String
  strengthMeasure : ℚ
  detectedAt : Timestamp
  isActive : Bool
  deriving DecidableEq

/-- A row of `patterns` with the measured frequency and the text of the regularity. -/
structure PatternRecord extends Pattern where
  description : String
  frequency : String
  deriving DecidableEq

/-- A creation request for a detected pattern. -/
structure PatternCreate where
  tenantId : Uuid
  contextId : Uuid
  patternType : String
  description : String
  strengthMeasure : ℚ
  frequency : String
  detectedAt : Timestamp
  isActive : Bool
  libraryPatternId : String
  deriving DecidableEq

/-- `PATTERN_NAMESPACE`. -/
def patternNamespace : Uuid := 0x7d

/-- `pattern_id`. -/
def patternId (std : Stdlib) (tenantId contextId : Uuid) (libraryPatternId : String) : Uuid :=
  std.uuid5 patternNamespace
    (uuidText tenantId ++ ":" ++ uuidText contextId ++ ":" ++ libraryPatternId)

/-- Materialize a pattern from a creation request. -/
def buildPattern (std : Stdlib) (create : PatternCreate) : PatternRecord where
  id := patternId std create.tenantId create.contextId create.libraryPatternId
  tenantId := create.tenantId
  contextId := create.contextId
  patternType := create.patternType
  description := create.description
  strengthMeasure := create.strengthMeasure
  frequency := create.frequency
  detectedAt := create.detectedAt
  isActive := create.isActive

/-! ### The library -/

/-- `PATTERN_TYPES`. -/
inductive PatternType where
  | temporal
  | correlation
  | sequential
  | threshold
  deriving DecidableEq, Repr

/-- The text of a pattern type. -/
def PatternType.name : PatternType → String
  | temporal => "temporal"
  | correlation => "correlation"
  | sequential => "sequential"
  | threshold => "threshold"

/-- `FREQUENCY_LABELS`. -/
inductive Frequency where
  | hourly
  | daily
  | weekly
  | eventDriven
  deriving DecidableEq, Repr

/-- The label of a frequency. -/
def Frequency.label : Frequency → String
  | hourly => "hourly"
  | daily => "daily"
  | weekly => "weekly"
  | eventDriven => "event-driven"

/-- A known pattern. An empty `scopePurposes` stands for every purpose. -/
structure PatternDefinition where
  patternId : String
  patternType : PatternType
  scopeMentalModels : List String
  scopePurposes : List String
  minOccurrences : Nat
  strengthThreshold : UnitScore
  frequencyLabel : Frequency
  descriptionTemplate : String
  occurrencesPositive : 1 ≤ minOccurrences

/-- The template of every definition of the library. -/
def recurrenceTemplate : String :=
  "El contexto {scope} se activó {occurrences} veces en la ventana " ++
    "de {window_days} días (intervalo mediano ~{median_interval} días). " ++
    "Regularidad detectada."

/-- The recurrence of the contexts of one mental model. -/
def contextRecurrence (mentalModel : String) (frequencyLabel : Frequency) (minOccurrences : Nat)
    (occurrencesPositive : 1 ≤ minOccurrences) : PatternDefinition where
  patternId := "context_recurrence_" ++ mentalModel ++ "_v1"
  patternType := .temporal
  scopeMentalModels := [mentalModel]
  scopePurposes := []
  minOccurrences
  strengthThreshold := ⟨3 / 5, threeFifths_isUnit⟩
  frequencyLabel
  descriptionTemplate := recurrenceTemplate
  occurrencesPositive

def contextRecurrenceCapacityRisk : PatternDefinition :=
  contextRecurrence "capacity_risk" .weekly 3 (Nat.succ_pos 2)

def contextRecurrenceServiceFailure : PatternDefinition :=
  contextRecurrence "service_failure" .eventDriven 3 (Nat.succ_pos 2)

def contextRecurrenceResourcePressure : PatternDefinition :=
  contextRecurrence "resource_pressure" .daily 3 (Nat.succ_pos 2)

def contextRecurrenceAuthCompromise : PatternDefinition :=
  contextRecurrence "auth_compromise" .eventDriven 2 (Nat.succ_pos 1)

def contextRecurrenceConnectivityDegradation : PatternDefinition :=
  contextRecurrence "connectivity_degradation" .daily 3 (Nat.succ_pos 2)

/-- `PATTERN_LIBRARY`. -/
def patternLibrary : List PatternDefinition :=
  [contextRecurrenceCapacityRisk, contextRecurrenceServiceFailure,
    contextRecurrenceResourcePressure, contextRecurrenceAuthCompromise,
    contextRecurrenceConnectivityDegradation]

end CosMonitor
