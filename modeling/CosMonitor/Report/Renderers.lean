/-
**The renderers — executive, technical and JSON documents of one bundle.**

* `renderJson`: one trace for each decision, and the artifacts;
* `renderExecutive`: the three decisions, the three risks and the high commitments that are shown;
* `renderTechnical`: seven sections over the traces, the last one compares outcomes and may raise;
* `toJson`: the bytes of a JSON report, indented by two spaces;
* `lookup_renderJson`, `lookup_renderExecutive`, `lookup_renderTechnical`: the JSON document alone has a
  field `decision_traces`.
-/

import CosMonitor.Base.JsonTexts
import CosMonitor.Learning.Outcomes
import CosMonitor.Report.Documents

namespace CosMonitor

/-! ### The comparison of outcomes -/

section Comparison

/-- A value is a key of a `dict`. -/
def hashable : Json → Bool
  | .arr _ | .obj _ => false
  | _ => true

/-- The number of a key, where it is one: `True`, `1` and `1.0` are one key. -/
def numberKey : Json → Option ℚ
  | .bool value => some (if value then 1 else 0)
  | .int value => some value
  | .float value => some value
  | _ => none

/-- Two keys of a `dict` are the same. -/
def sameKey (first second : Json) : Bool :=
  match numberKey first, numberKey second with
  | some left, some right => decide (left = right)
  | none, none => decide (first = second)
  | _, _ => false

/-- The actual outcomes that name what verifies them; the last of several of one name is found. -/
def namedOutcomes : List Json → Except PyError (List (Json × Json))
  | [] => .ok []
  | actual :: rest =>
      if !actual.isDict then .error (.attributeError "get")
      else if !(actual.get "verifiable_by").truthy then namedOutcomes rest
      else if hashable (actual.get "verifiable_by") then do
        return (← namedOutcomes rest) ++ [(actual.get "verifiable_by", actual)]
      else .error .typeError

/-- `_outcome_prediction_and_metric`: the probability, `0` where it is no number. -/
def outcomePrediction (expected : Json) : Except PyError PyFloat :=
  if !expected.isDict then .error (.attributeError "get")
  else
    match ((expected.lookup "prediction").getD (.str "")).pyFloat with
    | .error (.valueError _) | .error .typeError => .ok (.finite 0)
    | .error other => .error other
    | .ok prediction => .ok prediction

/-- An actual value counts as a success: a true boolean, or a number other than zero. -/
def outcomeInt : Json → Bool
  | .bool value => value
  | .int value => decide (value ≠ 0)
  | .float value => decide (value ≠ 0)
  | _ => false

/-- What the comparison says about one expected outcome. -/
inductive OutcomeDetail where
  | matched (metric : Json) (prediction : PyFloat) (actual success : Bool)
  | unavailable (metric : Json) (prediction : PyFloat)

/-- The details of the expected outcomes that name what verifies them. -/
def outcomeDetails (named : List (Json × Json)) : List Json → Except PyError (List OutcomeDetail)
  | [] => .ok []
  | expected :: rest => do
      let prediction ← outcomePrediction expected
      let metric := expected.get "verifiable_by"
      if metric = .null then outcomeDetails named rest
      else if !hashable metric then .error .typeError
      else
        let detail := match named.find? fun entry => sameKey entry.1 metric with
          | some (_, actual) =>
              let outcome := outcomeInt (actual.get "value")
              .matched metric prediction outcome
                (prediction.atLeast predictionThreshold && outcome)
          | none => .unavailable metric prediction
        return detail :: (← outcomeDetails named rest)

/-- What `compare_expected_actual_outcomes` returns. -/
structure OutcomeComparison where
  brierScore : PyFloat
  ece : ℚ
  historicalCalibration : ℚ
  confidenceAdjustment : ℚ
  outcomeCount : Nat
  details : List OutcomeDetail

/-- The pair of a detail that was matched. -/
def OutcomeDetail.pair : OutcomeDetail → Option OutcomePair
  | .matched _ prediction actual _ => some (prediction, actual)
  | .unavailable _ _ => none

/-- The comparison where nothing was expected. -/
def OutcomeComparison.empty : OutcomeComparison where
  brierScore := .finite 0
  ece := 0
  historicalCalibration := 1
  confidenceAdjustment := 0
  outcomeCount := 0
  details := []

/-- `compare_expected_actual_outcomes`. An outcome that is not available has an entry among the
outcomes and none among the predictions, and the scores zip the two strictly. -/
def compareExpectedActualOutcomes (expected : List Json) (actuals : Option (List Json)) :
    Except PyError OutcomeComparison :=
  if expected.isEmpty then .ok .empty
  else do
    let named ← namedOutcomes (actuals.getD [])
    let details ← outcomeDetails named expected
    let pairs := details.filterMap OutcomeDetail.pair
    if !pairs.isEmpty && pairs.length ≠ details.length then
      .error (.valueError "zip() argument 2 is longer than argument 1")
    else
      let brier ← brierScore pairs
      let ece := eceScore .exact pairs CalibrationParams.default.M.toNat
      let calibration := clamp (1 - ece)
      return {
        brierScore := brier.round 4
        ece := roundHalfEven 4 ece
        historicalCalibration := roundHalfEven 4 calibration
        confidenceAdjustment := roundHalfEven 4 (calibration - 1)
        outcomeCount := expected.length
        details }

/-- A number of a document; JSON has no text for the others. -/
def PyFloat.value : PyFloat → Option Json
  | .finite number => some (.float number)
  | .infinite _ | .nan => none

/-- The JSON object of a detail. -/
def OutcomeDetail.value : OutcomeDetail → Option Json
  | .matched metric prediction actual success => do
      return .obj
        [("metric", metric),
          ("prediction", ← prediction.value),
          ("actual", .int (if actual then 1 else 0)),
          ("matches", .bool success)]
  | .unavailable metric prediction => do
      return .obj
        [("metric", metric),
          ("prediction", ← prediction.value),
          ("actual", .null),
          ("available", .bool false)]

/-- The JSON object of a comparison. -/
def OutcomeComparison.value (comparison : OutcomeComparison) : Option Json := do
  return .obj
    [("brier_score", ← comparison.brierScore.value),
      ("ece", .float comparison.ece),
      ("historical_calibration", .float comparison.historicalCalibration),
      ("confidence_adjustment", .float comparison.confidenceAdjustment),
      ("original_confidence", .float 0),
      ("adjusted_confidence", .float 0),
      ("outcome_count", .int comparison.outcomeCount),
      ("details", .arr (← comparison.details.mapM OutcomeDetail.value))]

end Comparison

/-! ### Documents -/

section Documents

/-- What a renderer returns: the fields of an object, and the comparisons of the last section of a
technical report, whose numbers need not be finite. -/
structure Document where
  fields : List (String × Json)
  learningLoop : Option (List OutcomeComparison)

/-- The document as a JSON value; `none` when a number is not finite. -/
def Document.content (document : Document) : Option Json :=
  match document.learningLoop with
  | none => some (.obj document.fields)
  | some comparisons => do
      let section7 ← comparisons.mapM OutcomeComparison.value
      return .obj (document.fields ++ [("section_7_learning_loop", .arr section7)])

variable (formats : ViewFormats) (source : ReportSource)

/-- The fields that every document begins with. -/
def headerFields (reportType title : String) : List (String × Json) :=
  [("report_type", .str reportType),
    ("title", .str title),
    ("generated_at", formats.instant source.generatedAt),
    ("tenant", .obj
      [("id", idValue source.tenant.id),
        ("name", .str source.tenant.name),
        ("slug", .str source.tenant.slug)]),
    ("period", .obj
      [("start", .str source.periodStart.isoformat),
        ("end", .str source.periodEnd.isoformat)]),
    ("decision_count", .int source.decisions.length)]

/-- The title of a JSON report. -/
def jsonTitle : String := "COS-Monitor Data Report (JSON)"

/-- `render_json`. -/
def renderJson : Document where
  fields := headerFields formats source "json" jsonTitle ++
    [("decision_traces", .arr (buildDecisionTraces formats source)),
      ("recommendations", .arr (source.recommendations.map (recommendationView formats))),
      ("contexts", .arr (source.contexts.map (contextView formats))),
      ("confidence_scores", .arr (source.confidences.map (confidenceView formats))),
      ("hypotheses", .arr (source.hypotheses.map (hypothesisView formats))),
      ("anomalies", .arr (source.anomalies.map (anomalyView formats))),
      ("patterns", .arr (source.patterns.map (patternView formats))),
      ("evidence", .arr (source.evidence.map (evidenceView formats)))]
  learningLoop := none

/-- The confidence of a decision, as the bundle has it. -/
def ReportSource.confidenceOf (decision : Decision) : Option Confidence :=
  byId (fun confidence => confidence.id) decision.confidenceId source.confidences

/-- What an executive report ranks a decision by. -/
def ReportSource.rankOf (decision : Decision) : ℚ ×ₗ Timestamp :=
  toLex (((source.confidenceOf decision).map fun confidence => confidence.confidenceScore.val).getD 0,
    decision.committedAt)

/-- An entry of `top_decisions`. -/
def topDecision (decision : Decision) : Json :=
  .obj
    [("decision_id", idValue decision.id),
      ("commitment", .str decision.commitment),
      ("risk_tolerance", .str decision.riskTolerance),
      ("confidence", ((source.confidenceOf decision).map fun confidence =>
        Json.float confidence.confidenceScore.val).getD .null),
      ("expected_outcome_count", .int decision.expectedOutcomes.length),
      ("action", ((source.recommendationOf decision).map fun recommendation =>
        Json.str recommendation.actionDescription).getD .null)]

/-- The hypotheses whose latest confidence is above the threshold, with its score. -/
def futureRisks (threshold : ℚ) : List (Hypothesis × ℚ) :=
  source.hypotheses.filterMap fun hypothesis =>
    match latestConfidenceFor source.confidences .hypothesis hypothesis.id with
    | some confidence =>
        if threshold < confidence.confidenceScore.val then
          some (hypothesis, confidence.confidenceScore.val)
        else none
    | none => none

/-- An entry of `future_risks`. -/
def futureRisk (risk : Hypothesis × ℚ) : Json :=
  .obj
    [("hypothesis_id", idValue risk.1.id),
      ("description", .str risk.1.description),
      ("confidence", .float risk.2),
      ("status", .str risk.1.status)]

/-- An entry of `pending_authority`. -/
def pendingAuthority (decision : Decision) : Json :=
  .obj
    [("decision_id", idValue decision.id),
      ("commitment", .str decision.commitment),
      ("risk_tolerance", .str decision.riskTolerance)]

/-- `render_executive` with `top_n = 3` and `risk_threshold = 0.6`. -/
def renderExecutive : Document where
  fields := headerFields formats source "executive" "COS-Monitor Executive Summary" ++
    [("top_decisions", .arr
        (((Sorting.sortByDesc source.rankOf source.decisions).take 3).map (topDecision source))),
      ("future_risks", .arr
        (((Sorting.sortByDesc Prod.snd (futureRisks source (3 / 5))).take 3).map futureRisk)),
      ("pending_authority", .arr
        ((source.decisions.filter fun decision => decision.riskTolerance == "high").map
          pendingAuthority)),
      ("confidence_scores", .arr (source.confidences.map (confidenceView formats)))]
  learningLoop := none

/-- A section of a technical report: one object for each trace, with the id of its decision. -/
def traceSection (entry : DecisionTrace → List (String × Json)) : Json :=
  .arr (source.traces.map fun trace => .obj (("decision_id", idValue trace.decision.id) :: entry trace))

/-- `render_technical`. -/
def renderTechnical : Except PyError Document := do
  let learningLoop ← source.traces.mapM fun trace =>
    compareExpectedActualOutcomes trace.decision.expectedOutcomes trace.decision.actualOutcomes
  return {
    fields := headerFields formats source "technical" "COS-Monitor Technical Report - Cognitive Trace" ++
      [("section_1_cognitive_trace", traceSection source fun trace =>
          [("commitment", .str trace.decision.commitment),
            ("authority_id", idValue trace.decision.authorityId),
            ("risk_tolerance", .str trace.decision.riskTolerance),
            ("status", .str trace.decision.status),
            ("committed_at", formats.instant trace.decision.committedAt),
            ("confidence", (trace.confidence.map fun confidence =>
              Json.float confidence.confidenceScore.val).getD .null)]),
        ("section_2_evidence_chain", traceSection source fun trace =>
          [("observations", .arr (trace.observations.map (observationView formats))),
            ("evidence", .arr (trace.evidence.map (evidenceView formats))),
            ("contexts", .arr (trace.contexts.map (contextView formats)))]),
        ("section_3_reasoning_chain", traceSection source fun trace =>
          [("hypothesis", (trace.hypothesis.map (hypothesisView formats)).getD .null),
            ("anomalies", .arr (trace.anomalies.map (anomalyView formats))),
            ("patterns", .arr (trace.patterns.map (patternView formats)))]),
        ("section_4_confidence_calibration", traceSection source fun trace =>
          [("confidence", (trace.confidence.map (confidenceView formats)).getD .null)]),
        ("section_5_recommendation_and_alternatives", traceSection source fun trace =>
          [("recommendation", (trace.recommendation.map (recommendationView formats)).getD .null)]),
        ("section_6_decision_and_expected_outcomes", traceSection source fun trace =>
          [("commitment", .str trace.decision.commitment),
            ("expected_outcomes", .arr trace.decision.expectedOutcomes),
            ("actual_outcomes", (trace.decision.actualOutcomes.map Json.arr).getD .null)])]
    learningLoop := some learningLoop }

end Documents

/-! ### The text of a document -/

section Dumps

variable (std : Stdlib)

/-- A line break and the indentation of the next line. -/
def lineBreak (level : Nat) : List Char :=
  '\n' :: List.replicate (2 * level) ' '

/-- Items on lines of their own. -/
def enclosed (opening closing : Char) (level : Nat) (items : List (List Char)) : List Char :=
  if items.isEmpty then [opening, closing]
  else opening :: (lineBreak (level + 1) ++ List.intercalate (',' :: lineBreak (level + 1)) items ++
    lineBreak level ++ [closing])

mutual

/-- `json.dumps(value, indent=2, ensure_ascii=False)` at a depth. -/
def dumpsIndented (level : Nat) : Json → List Char
  | .null => ['n', 'u', 'l', 'l']
  | .bool value => if value then ['t', 'r', 'u', 'e'] else ['f', 'a', 'l', 's', 'e']
  | .int value => (toString value).toList
  | .float value => (std.floatRepr value).toList
  | .str text => dumpsText false text
  | .arr items => enclosed '[' ']' level (indentedItems (level + 1) items)
  | .obj fields => enclosed '\x7b' '\x7d' level (indentedFields (level + 1) fields)

def indentedItems (level : Nat) : List Json → List (List Char)
  | [] => []
  | item :: rest => dumpsIndented level item :: indentedItems level rest

def indentedFields (level : Nat) : List (String × Json) → List (List Char)
  | [] => []
  | (key, value) :: rest =>
      (dumpsText false key ++ ':' :: ' ' :: dumpsIndented level value) :: indentedFields level rest

end

/-- The bytes of a file. -/
abbrev Bytes := List UInt8

/-- `to_json(document).encode("utf-8")`; the values of a document are JSON values already. -/
def toJson (content : Json) : Bytes :=
  (dumpsIndented std 0 content).flatMap String.utf8EncodeChar

end Dumps

/-! ### The field of the traces -/

section TracesField

variable {formats : ViewFormats} {source : ReportSource} {content : Json}

theorem lookup_renderJson (stored : (renderJson formats source).content = some content) :
    content.lookup "decision_traces" = some (.arr (buildDecisionTraces formats source)) := by
  rw [← Option.some.inj stored]
  rfl

theorem lookup_renderExecutive (stored : (renderExecutive formats source).content = some content) :
    content.lookup "decision_traces" = none := by
  rw [← Option.some.inj stored]
  rfl

theorem lookup_renderTechnical {document : Document}
    (rendered : renderTechnical formats source = .ok document)
    (stored : document.content = some content) : content.lookup "decision_traces" = none := by
  obtain ⟨comparisons, -, same⟩ := Result.bind_eq_ok.mp rendered
  rw [← Result.pure_eq_ok.mp same] at stored
  obtain ⟨values, -, built⟩ := Option.bind_eq_some_iff.mp stored
  rw [← Option.some.inj built]
  rfl

end TracesField

end CosMonitor
