/-
**The data of a report — the bundle that is read, the views of the artifacts and their traces.**

* `ReportSource`: the artifacts of a tenant that the renderers format;
* `buildDecisionTraces`: the artifacts behind each decision, as JSON objects.
-/

import CosMonitor.Action.Decision
import CosMonitor.Action.Formulator
import CosMonitor.Base.Dates
import CosMonitor.Learning.Confidence
import CosMonitor.Memory.Listings
import CosMonitor.Perception.ContextStore
import CosMonitor.Perception.Evidence
import CosMonitor.Reasoning.Hypothesis
import CosMonitor.Reasoning.Pattern

namespace CosMonitor

/-! ### The bundle -/

/-- The row of `tenants` that a report shows. -/
structure TenantHeader where
  id : Uuid
  name : String
  slug : String
  deriving DecidableEq

/-- The artifacts of a tenant that a renderer formats, the period and the instant of the report. -/
structure ReportSource where
  tenant : TenantHeader
  decisions : List Decision
  recommendations : List Recommendation
  contexts : List Context
  confidences : List Confidence
  hypotheses : List Hypothesis
  anomalies : List Anomaly
  patterns : List PatternRecord
  evidence : List Evidence
  observations : List Observation
  periodStart : PyDate
  periodEnd : PyDate
  generatedAt : Timestamp

/-- The calibration of a target that was computed last, the first listed of several. -/
def latestConfidenceFor (confidences : List Confidence) (targetType : TargetType) (targetId : Uuid) :
    Option Confidence :=
  (confidences.filter fun row => row.targetType == targetType && row.targetId == targetId).foldl
    (fun latest row =>
      match latest with
      | none => some row
      | some best => if best.computedAt < row.computedAt then some row else some best) none

/-! ### Views -/

section Views

/-- What the views take from outside: the standard library, and the text of a justification. -/
structure ViewFormats where
  std : Stdlib
  justification : Justification → String

variable (formats : ViewFormats)

/-- `str(id)` as a JSON value. -/
def idValue (id : Uuid) : Json :=
  .str (uuidText id)

/-- `instant.isoformat()` as a JSON value. -/
def ViewFormats.instant (instant : Timestamp) : Json :=
  .str (formats.std.isoformat (.utc instant))

/-- `decision_view`. -/
def decisionView (decision : Decision) : Json :=
  .obj
    [("id", idValue decision.id),
      ("commitment", .str decision.commitment),
      ("risk_tolerance", .str decision.riskTolerance),
      ("status", .str decision.status),
      ("committed_at", formats.instant decision.committedAt),
      ("authority_id", idValue decision.authorityId),
      ("expected_outcomes", .arr decision.expectedOutcomes),
      ("actual_outcomes", (decision.actualOutcomes.map Json.arr).getD .null)]

/-- `confidence_view`. -/
def confidenceView (confidence : Confidence) : Json :=
  .obj
    [("id", idValue confidence.id),
      ("target_type", .str confidence.targetType.name),
      ("target_id", idValue confidence.targetId),
      ("evidential_support", .float confidence.evidentialSupport.val),
      ("explanatory_coherence", .float confidence.explanatoryCoherence.val),
      ("historical_calibration", .float confidence.historicalCalibration.val),
      ("confidence_score", .float confidence.confidenceScore.val),
      ("alpha", .float confidence.alpha.val),
      ("calibration_justification", .str (formats.justification confidence.calibrationJustification)),
      ("calibration_error_estimate", .float confidence.calibrationErrorEstimate.val),
      ("computed_at", formats.instant confidence.computedAt)]

/-- An alternative as the formulator writes it. -/
def alternativeValue (alternative : AlternativeRecord) : Json :=
  .obj
    [("action", .str alternative.action),
      ("rationale", .str alternative.rationale),
      ("rejected_reason", .str alternative.rejectedReason),
      ("confidence", .float alternative.confidence)]

/-- `recommendation_view`. -/
def recommendationView (recommendation : Recommendation) : Json :=
  .obj
    [("id", idValue recommendation.id),
      ("hypothesis_id", idValue recommendation.hypothesisId),
      ("action_description", .str recommendation.actionDescription),
      ("rationale", .str recommendation.rationale),
      ("expected_consequences", .arr (recommendation.expectedConsequences.map Json.str)),
      ("alternatives_considered", .arr (recommendation.alternativesConsidered.map alternativeValue)),
      ("confidence_score", .float recommendation.confidenceScore.val),
      ("status", .str recommendation.status),
      ("proposed_at", formats.instant recommendation.proposedAt)]

/-- `hypothesis_view`. -/
def hypothesisView (hypothesis : Hypothesis) : Json :=
  .obj
    [("id", idValue hypothesis.id),
      ("anomaly_ids", .arr (hypothesis.anomalyIds.map idValue)),
      ("pattern_ids", .arr (hypothesis.patternIds.map idValue)),
      ("description", .str hypothesis.description),
      ("predicted_consequences", .arr (hypothesis.predictedConsequences.map Json.str)),
      ("falsification_criterion", .str hypothesis.falsificationCriterion),
      ("coherence_score", .float hypothesis.coherenceScore.val),
      ("status", .str hypothesis.status),
      ("generated_at", formats.instant hypothesis.generatedAt)]

/-- `anomaly_view`. -/
def anomalyView (anomaly : Anomaly) : Json :=
  .obj
    [("id", idValue anomaly.id),
      ("context_id", idValue anomaly.contextId),
      ("pattern_id", idValue anomaly.patternId),
      ("deviation_score", .float anomaly.deviationScore),
      ("tolerance_threshold", .float anomaly.toleranceThreshold),
      ("anomaly_class", .str anomaly.anomalyClass),
      ("detected_at", formats.instant anomaly.detectedAt)]

/-- `pattern_view`. -/
def patternView (pattern : PatternRecord) : Json :=
  .obj
    [("id", idValue pattern.id),
      ("context_id", idValue pattern.contextId),
      ("pattern_type", .str pattern.patternType),
      ("description", .str pattern.description),
      ("strength_measure", .float pattern.strengthMeasure),
      ("frequency", .str pattern.frequency),
      ("is_active", .bool pattern.isActive),
      ("detected_at", formats.instant pattern.detectedAt)]

/-- `context_view`. -/
def contextView (context : Context) : Json :=
  .obj
    [("id", idValue context.id),
      ("evidence_ids", .arr (context.evidenceIds.map idValue)),
      ("mental_model_id", .str context.mentalModelId),
      ("purpose", .str context.purpose),
      ("coherence_score", .float context.coherenceScore.val),
      ("competing_models", .arr context.competingModels),
      ("is_active", .bool context.isActive),
      ("activated_at", formats.instant context.activatedAt)]

/-- `evidence_view`. -/
def evidenceView (evidence : Evidence) : Json :=
  .obj
    [("id", idValue evidence.id),
      ("observation_ids", .arr (evidence.observationIds.map idValue)),
      ("organization_type", .str evidence.organizationType),
      ("description", .str evidence.description),
      ("quality_class", .str evidence.qualityClass.name),
      ("weight", .float evidence.weight.val),
      ("organized_at", formats.instant evidence.organizedAt)]

/-- `observation_view`. -/
def observationView (observation : Observation) : Json :=
  .obj
    [("id", idValue observation.id),
      ("fact_type", .str observation.factType),
      ("fact_value", .obj observation.factValue),
      ("unit", .str observation.unit),
      ("captured_at", .str (formats.std.isoformat observation.capturedAt)),
      ("quality_class", .str observation.qualityClass.name)]

end Views

/-! ### Traces -/

section Traces

/-- The artifacts behind a decision, as far as they are in the bundle. -/
structure DecisionTrace where
  decision : Decision
  confidence : Option Confidence
  recommendation : Option Recommendation
  hypothesis : Option Hypothesis
  anomalies : List Anomaly
  patterns : List PatternRecord
  contexts : List Context
  evidence : List Evidence
  observations : List Observation

namespace ReportSource

variable (source : ReportSource)

/-- The recommendation of a decision. -/
def recommendationOf (decision : Decision) : Option Recommendation :=
  byId Recommendation.id decision.recommendationId source.recommendations

/-- The hypothesis of its recommendation. -/
def hypothesisOf (decision : Decision) : Option Hypothesis :=
  (source.recommendationOf decision).bind fun recommendation =>
    byId Hypothesis.id recommendation.hypothesisId source.hypotheses

/-- The anomalies of its hypothesis, in the order in which it names them. -/
def anomaliesOf (decision : Decision) : List Anomaly :=
  ((source.hypothesisOf decision).map Hypothesis.anomalyIds).getD [] |>.filterMap fun id =>
    byId Anomaly.id id source.anomalies

/-- The pattern of each of its anomalies. -/
def patternsOf (decision : Decision) : List PatternRecord :=
  (source.anomaliesOf decision).filterMap fun anomaly =>
    byId (fun pattern => pattern.id) anomaly.patternId source.patterns

/-- The context of each of its anomalies. -/
def contextsOf (decision : Decision) : List Context :=
  (source.anomaliesOf decision).filterMap fun anomaly =>
    byId Context.id anomaly.contextId source.contexts

/-- The evidence of its contexts. -/
def evidenceOf (decision : Decision) : List Evidence :=
  (source.contextsOf decision).flatMap fun context =>
    context.evidenceIds.filterMap fun id => byId Evidence.id id source.evidence

/-- The observations of its evidence. -/
def observationsOf (decision : Decision) : List Observation :=
  (source.evidenceOf decision).flatMap fun evidence =>
    evidence.observationIds.filterMap fun id => byId Observation.id id source.observations

/-- The trace of one decision. -/
def traceOf (decision : Decision) : DecisionTrace where
  decision := decision
  confidence := byId (fun confidence => confidence.id) decision.confidenceId source.confidences
  recommendation := source.recommendationOf decision
  hypothesis := source.hypothesisOf decision
  anomalies := source.anomaliesOf decision
  patterns := source.patternsOf decision
  contexts := source.contextsOf decision
  evidence := source.evidenceOf decision
  observations := source.observationsOf decision

/-- `build_decision_traces`, before the artifacts are turned into views. -/
def traces : List DecisionTrace :=
  source.decisions.map source.traceOf

end ReportSource

/-- The JSON object of a trace. -/
def DecisionTrace.view (formats : ViewFormats) (trace : DecisionTrace) : Json :=
  .obj
    [("decision", decisionView formats trace.decision),
      ("confidence", (trace.confidence.map (confidenceView formats)).getD .null),
      ("recommendation", (trace.recommendation.map (recommendationView formats)).getD .null),
      ("hypothesis", (trace.hypothesis.map (hypothesisView formats)).getD .null),
      ("anomalies", .arr (trace.anomalies.map (anomalyView formats))),
      ("patterns", .arr (trace.patterns.map (patternView formats))),
      ("contexts", .arr (trace.contexts.map (contextView formats))),
      ("evidence", .arr (trace.evidence.map (evidenceView formats))),
      ("observations", .arr (trace.observations.map (observationView formats)))]

/-- `build_decision_traces`. -/
def buildDecisionTraces (formats : ViewFormats) (source : ReportSource) : List Json :=
  source.traces.map (DecisionTrace.view formats)

end Traces

end CosMonitor
