/-
**The jsonb columns — what the read stores of the gateway give back of them.**

The driver delivers a `jsonb` column decoded or as its text. The store of the contexts decodes a text;
the stores of the hypotheses and of the insights take the column as it comes.

* `Json.jsonbText`: the text of a `jsonb` value;
* `hypothesisPayload`, `insightPayload`, `contextPayload`: the payload of a row;
* `predictions_exact_iff`, `update_exact_iff`, `competitors_exact`: the columns, one by one;
* `transformation_returned_iff`: the journal of some insight payloads;
* **`jsonb_roundTrip_iff`** — all the columns of some rows come back, and their insights are journaled,
  exactly when the driver decodes, or there is no hypothesis and no update to decode.
-/

import CosMonitor.Base.JsonTexts
import CosMonitor.Foundation.Result
import CosMonitor.Memory.Refinement

namespace CosMonitor

/-! ### The text of a value -/

namespace Json

/-- The texts of `jsonb` values, given how the database writes its decimals. -/
def jsonbStyle (numeral : ℚ → String) : JsonStyle where
  floatText := numeral
  ascii := false
  keyAscii := false
  gap := [' ']
  sortKeys := false

/-- The text of a `jsonb` value. -/
def jsonbText (numeral : ℚ → String) (value : Json) : String :=
  String.ofList ((jsonbStyle numeral).chars value)

theorem length_lt_jsonbText (numeral : ℚ → String) (texts : List String) :
    texts.length < (jsonbText numeral (.arr (texts.map .str))).length := by
  rw [jsonbText, String.length_ofList, JsonStyle.chars_arr, List.length_cons, Nat.lt_succ_iff]
  refine (Readable.length_le_spaced _ fun item member => ?_).trans' (List.length_map _).ge
  obtain ⟨text, -, rfl⟩ := List.mem_map.mp member
  rw [JsonStyle.chars, dumpsText, List.length_cons]
  exact Nat.succ_pos _

end Json

/-! ### The driver -/

/-- How the driver delivers a `jsonb` column. -/
inductive Delivery where
  | decoded
  | text
  deriving DecidableEq

/-- The driver of the database, and the `json.loads` of the process. -/
structure JsonbDriver where
  delivery : Delivery
  /-- how the database writes a decimal -/
  numeral : ℚ → String
  /-- `json.loads(text)`; `none` is its `JSONDecodeError` -/
  loads : String → Option Json

namespace JsonbDriver

variable (driver : JsonbDriver)

/-- What a column with a value, or NULL, is delivered as. -/
def deliver : Option Json → Json
  | none => .null
  | some value =>
      match driver.delivery with
      | .decoded => value
      | .text => .str (value.jsonbText driver.numeral)

/-- `json.loads` reads the text of the value back. -/
def Reads (value : Json) : Prop :=
  driver.loads (value.jsonbText driver.numeral) = some value

/-- `_as_json`. -/
def asJson : Json → Json
  | .str text => (driver.loads text).getD (.str text)
  | value => value

variable {driver}

theorem deliver_decoded (decodes : driver.delivery = .decoded) (column : Option Json) :
    driver.deliver column = column.getD .null := by
  rcases column with _ | value
  · rfl
  · simp [deliver, decodes]

theorem deliver_text (textual : driver.delivery = .text) (value : Json) :
    driver.deliver (some value) = .str (value.jsonbText driver.numeral) := by
  simp [deliver, textual]

end JsonbDriver

/-! ### Rows and payloads -/

/-- A row of `insights` as `InsightStore.save` writes it. -/
structure InsightRow where
  id : Uuid
  tenantId : Uuid
  contextId : Uuid
  hypothesisIds : List Uuid
  description : String
  priorUnderstanding : Option String
  mentalModelUpdate : Option (List (String × Json))
  generatedAt : Timestamp

/-- The payload of a hypothesis, with the values of its ids and its time in place of their texts. -/
structure HypothesisPayload where
  id : Uuid
  tenantId : Uuid
  anomalyIds : List Uuid
  patternIds : List Uuid
  description : String
  predictedConsequences : List Json
  falsificationCriterion : String
  coherenceScore : ℚ
  status : String
  generatedAt : Timestamp

/-- The payload of an insight. -/
structure InsightPayload extends Insight where
  hypothesisIds : List Uuid

/-- The payload of a context. -/
structure ContextPayload where
  id : Uuid
  tenantId : Uuid
  evidenceIds : List Uuid
  mentalModelId : String
  purpose : String
  coherenceScore : ℚ
  competingModels : Json
  activatedAt : Timestamp
  isActive : Bool

/-- The column `predicted_consequences`. -/
def Hypothesis.predictedColumn (row : Hypothesis) : Json :=
  .arr (row.predictedConsequences.map .str)

/-- The column `mental_model_update`: NULL without one. -/
def InsightRow.updateColumn (row : InsightRow) : Option Json :=
  row.mentalModelUpdate.map .obj

/-- The column `competing_models`. -/
def Context.competingColumn (row : Context) : Json :=
  .arr row.competingModels

/-- `list(value)`. A text is the list of its characters, and an object that of its keys. -/
def Json.toList : Json → Except PyError (List Json)
  | .str text => .ok (text.toList.map fun character => .str (String.singleton character))
  | .arr items => .ok items
  | .obj fields => .ok (fields.map fun field => .str field.1)
  | .null | .bool _ | .int _ | .float _ => .error .typeError

section Payloads

variable (driver : JsonbDriver)

/-- `HypothesisReadStore._hypothesis_payload`. -/
def hypothesisPayload (row : Hypothesis) : Except PyError HypothesisPayload := do
  let predictedConsequences ←
    ((driver.deliver (some row.predictedColumn)).or (.arr [])).toList
  return {
    id := row.id
    tenantId := row.tenantId
    anomalyIds := row.anomalyIds
    patternIds := row.patternIds
    description := row.description
    predictedConsequences
    falsificationCriterion := row.falsificationCriterion
    coherenceScore := row.coherenceScore.val
    status := row.status
    generatedAt := row.generatedAt }

/-- `InsightReadStore._insight_payload`. -/
def insightPayload (row : InsightRow) : InsightPayload where
  id := row.id
  tenantId := row.tenantId
  contextId := row.contextId
  hypothesisIds := row.hypothesisIds
  description := row.description
  priorUnderstanding := row.priorUnderstanding
  mentalModelUpdate := driver.deliver row.updateColumn
  generatedAt := row.generatedAt

/-- `ContextReadStore._context_payload`. -/
def contextPayload (row : Context) : ContextPayload where
  id := row.id
  tenantId := row.tenantId
  evidenceIds := row.evidenceIds
  mentalModelId := row.mentalModelId
  purpose := row.purpose
  coherenceScore := row.coherenceScore.val
  competingModels := driver.asJson (driver.deliver (some row.competingColumn))
  activatedAt := row.activatedAt
  isActive := row.isActive

end Payloads

/-! ### The columns, one by one -/

section Columns

variable (driver : JsonbDriver)

/-- The payload of a hypothesis has the predictions that were saved. -/
def PredictionsExact (row : Hypothesis) : Prop :=
  ∃ payload, hypothesisPayload driver row = .ok payload ∧
    payload.predictedConsequences = row.predictedConsequences.map .str

/-- The payload of an insight has the update that was saved. -/
def UpdateExact (row : InsightRow) : Prop :=
  (insightPayload driver row).mentalModelUpdate = row.updateColumn.getD .null

/-- The payload of a context has the models that were saved. -/
def CompetitorsExact (row : Context) : Prop :=
  (contextPayload driver row).competingModels = .arr row.competingModels

variable {driver}

theorem predictions_exact {row : Hypothesis} :
    PredictionsExact driver row ↔
      ((driver.deliver (some row.predictedColumn)).or (.arr [])).toList =
        .ok (row.predictedConsequences.map .str) := by
  unfold PredictionsExact hypothesisPayload
  constructor
  · rintro ⟨payload, built, same⟩
    obtain ⟨predictions, listed, returned⟩ := Result.bind_eq_ok.mp built
    rw [← Result.pure_eq_ok.mp returned] at same
    rw [listed, ← same]
  · intro listed
    rw [listed]
    exact ⟨_, rfl, rfl⟩

/-- **The predictions of a hypothesis come back exactly when the driver decodes.** Of a text, `list`
makes its characters. -/
theorem predictions_exact_iff (row : Hypothesis) :
    PredictionsExact driver row ↔ driver.delivery = .decoded := by
  rw [predictions_exact]
  rcases form : driver.delivery with _ | _
  · rw [JsonbDriver.deliver_decoded form, Option.getD_some]
    refine iff_of_true ?_ rfl
    cases saved : row.predictedConsequences with
    | nil => simp [Hypothesis.predictedColumn, saved, Json.or, Json.truthy, Json.toList]
    | cons first rest =>
        simp [Hypothesis.predictedColumn, saved, Json.or, Json.truthy, Json.toList]
  · rw [JsonbDriver.deliver_text form]
    refine iff_of_false ?_ (by simp)
    have longer := Json.length_lt_jsonbText driver.numeral row.predictedConsequences
    have isText : row.predictedColumn.jsonbText driver.numeral ≠ "" := by
      intro isEmpty
      rw [Hypothesis.predictedColumn] at isEmpty
      rw [isEmpty, String.length_empty] at longer
      omega
    have truthy : (Json.str (row.predictedColumn.jsonbText driver.numeral)).truthy = true := by
      simpa [Json.truthy] using isText
    rw [Json.or, if_pos truthy, Json.toList]
    intro same
    have lengths := congrArg List.length (Except.ok.inj same)
    rw [List.length_map, List.length_map, String.length_toList] at lengths
    exact absurd lengths (Nat.ne_of_gt longer)

/-- **The update of an insight comes back exactly when the driver decodes, or there is none.** -/
theorem update_exact_iff (row : InsightRow) :
    UpdateExact driver row ↔ driver.delivery = .decoded ∨ row.mentalModelUpdate = none := by
  show driver.deliver row.updateColumn = row.updateColumn.getD .null ↔ _
  rcases update : row.mentalModelUpdate with _ | fields
  · have column : row.updateColumn = none := by rw [InsightRow.updateColumn, update, Option.map_none]
    rw [column]
    exact iff_of_true rfl (.inr rfl)
  · have column : row.updateColumn = some (.obj fields) := by
      rw [InsightRow.updateColumn, update, Option.map_some]
    rw [column]
    rcases form : driver.delivery with _ | _
    · exact iff_of_true (JsonbDriver.deliver_decoded form _) (.inl rfl)
    · rw [JsonbDriver.deliver_text form]
      exact iff_of_false (by simp) (by simp)

/-- **The models of a context always come back.** -/
theorem competitors_exact {row : Context} (reads : driver.Reads row.competingColumn) :
    CompetitorsExact driver row := by
  show driver.asJson (driver.deliver (some row.competingColumn)) = row.competingColumn
  rcases form : driver.delivery with _ | _
  · rw [JsonbDriver.deliver_decoded form, Option.getD_some]
    rfl
  · rw [JsonbDriver.deliver_text form, JsonbDriver.asJson, reads, Option.getD_some]

end Columns

/-! ### The journal of the payloads -/

section Journal

variable {std : Stdlib} {driver : JsonbDriver}

/-- The insights that the reader of the journal lists. -/
def insightPayloads (driver : JsonbDriver) (rows : List InsightRow) : List Insight :=
  rows.map fun row => (insightPayload driver row).toInsight

theorem journalInsight_returned_iff (row : InsightRow) (linked : Nat) (counts : Option OutcomeCounts) :
    (∃ result, journalInsight std (insightPayload driver row).toInsight linked counts = .ok result) ↔
      driver.delivery = .decoded ∨ row.mentalModelUpdate = none := by
  have valid : ((insightPayload driver row).mentalModelUpdate.isDict ∨
      (insightPayload driver row).mentalModelUpdate = .null) ↔
      driver.delivery = .decoded ∨ row.mentalModelUpdate = none := by
    show (driver.deliver row.updateColumn).isDict ∨ driver.deliver row.updateColumn = .null ↔ _
    rcases update : row.mentalModelUpdate with _ | fields
    · simp [InsightRow.updateColumn, update, JsonbDriver.deliver]
    · rcases form : driver.delivery with _ | _
      · simp [InsightRow.updateColumn, update, JsonbDriver.deliver_decoded form, Json.isDict]
      · simp [InsightRow.updateColumn, update, JsonbDriver.deliver_text form, Json.isDict]
  rw [← valid]
  unfold journalInsight
  split
  · rename_i holds
    exact iff_of_true ⟨_, rfl⟩ holds
  · rename_i fails
    exact iff_of_false (by rintro ⟨result, returned⟩; cases returned) fails

/-- A report with one result for each insight. -/
def TransformationReturned (std : Stdlib) (listings : Listings) : Prop :=
  ∃ results, buildInsightTransformation std listings = .ok results ∧
    results.map InsightTransformationResult.insightId = listings.insights.map Insight.id

/-- **The journal is built exactly when every update came back**, once the outcomes are attributed. -/
theorem transformation_returned_iff {listings : Listings} {rows : List InsightRow}
    (listed : listings.insights = insightPayloads driver rows)
    (attributed : ∃ attribution, attributeOutcomesToInsights std listings = .ok attribution) :
    TransformationReturned std listings ↔
      ∀ row ∈ rows, driver.delivery = .decoded ∨ row.mentalModelUpdate = none := by
  obtain ⟨attribution, tallied⟩ := attributed
  unfold TransformationReturned buildInsightTransformation
  rw [tallied, listed]
  show (∃ results, (insightPayloads driver rows).mapM _ = Except.ok results ∧ _) ↔ _
  have each : ∀ row ∈ rows, (∃ result, journalInsight std (insightPayload driver row).toInsight
      (recommendationsOf listings.recommendations row.id) (attribution row.id) = .ok result) ↔
      driver.delivery = .decoded ∨ row.mentalModelUpdate = none :=
    fun row member => journalInsight_returned_iff row _ _
  rw [← forall₂_congr each]
  constructor
  · rintro ⟨results, built, -⟩ row member
    exact Result.mapM_returns built (List.mem_map_of_mem member)
  · intro returns
    have journaled : ∀ insight ∈ insightPayloads driver rows, ∃ result,
        journalInsight std insight (recommendationsOf listings.recommendations insight.id)
          (attribution insight.id) = .ok result := by
      intro insight member
      obtain ⟨row, rowIn, rfl⟩ := List.mem_map.mp member
      exact returns row rowIn
    obtain ⟨results, built⟩ := Result.mapM_returned_iff.mpr journaled
    refine ⟨results, built, ?_⟩
    have ids := (Result.mapM_eq_ok.mp built).imp fun insight result returned =>
      journalInsight_id returned
    rw [← List.forall₂_eq_eq_eq, List.forall₂_map_left_iff, List.forall₂_map_right_iff]
    exact ids.flip

end Journal

/-! ### All columns -/

/-- The rows that the read stores list, with those that the outcomes of the journal come from. -/
structure JsonbRows where
  decisions : List Decision
  recommendations : List Recommendation
  hypotheses : List Hypothesis
  insights : List InsightRow
  contexts : List Context

/-- What the journal reads of the rows. -/
def JsonbRows.journaled (driver : JsonbDriver) (rows : JsonbRows) : Listings where
  decisions := rows.decisions
  recommendations := rows.recommendations
  hypotheses := rows.hypotheses
  patterns := []
  contexts := rows.contexts
  insights := insightPayloads driver rows.insights

/-- Every payload has the value that was saved, and the insights are journaled. -/
structure JsonbRoundTrip (std : Stdlib) (driver : JsonbDriver) (rows : JsonbRows) : Prop where
  hypotheses : ∀ row ∈ rows.hypotheses, PredictionsExact driver row
  insights : ∀ row ∈ rows.insights, UpdateExact driver row
  contexts : ∀ row ∈ rows.contexts, CompetitorsExact driver row
  journal : TransformationReturned std (rows.journaled driver)

/-- What the rows need for the journal and the contexts: the outcomes of the decisions are attributed, as
they are when there are none, and the texts of the models are JSON. -/
structure JsonbRows.Readable (std : Stdlib) (driver : JsonbDriver) (rows : JsonbRows) : Prop where
  attributed : ∃ attribution,
    attributeOutcomesToInsights std (rows.journaled driver) = .ok attribution
  reads : ∀ row ∈ rows.contexts, driver.Reads row.competingColumn

/-- **The columns come back exactly when the driver decodes them, or there is nothing to decode**: no
hypothesis, and no insight with an update. -/
theorem jsonb_roundTrip_iff (std : Stdlib) (driver : JsonbDriver) (rows : JsonbRows)
    (readable : rows.Readable std driver) :
    JsonbRoundTrip std driver rows ↔
      driver.delivery = .decoded ∨
        rows.hypotheses = [] ∧ ∀ row ∈ rows.insights, row.mentalModelUpdate = none := by
  have journal : TransformationReturned std (rows.journaled driver) ↔
      ∀ row ∈ rows.insights, driver.delivery = .decoded ∨ row.mentalModelUpdate = none :=
    transformation_returned_iff rfl readable.attributed
  constructor
  · intro trip
    rcases form : driver.delivery with _ | _
    · exact .inl rfl
    · have textual : driver.delivery ≠ .decoded := by simp [form]
      refine .inr ⟨?_, fun row member => ?_⟩
      · rw [List.eq_nil_iff_forall_not_mem]
        intro row member
        exact textual ((predictions_exact_iff row).mp (trip.hypotheses row member))
      · exact ((update_exact_iff row).mp (trip.insights row member)).resolve_left textual
  · intro condition
    have updates : ∀ row ∈ rows.insights,
        driver.delivery = .decoded ∨ row.mentalModelUpdate = none := fun row member =>
      condition.imp_right fun none => none.2 row member
    refine ⟨fun row member => ?_, fun row member => (update_exact_iff row).mpr (updates row member),
      fun row member => competitors_exact (readable.reads row member), journal.mpr updates⟩
    rcases condition with decodes | ⟨none, -⟩
    · exact (predictions_exact_iff row).mpr decodes
    · rw [none] at member
      cases member

/-! ### Rows of a service -/

/-- A hypothesis with one prediction. -/
def errorRateHypothesis : Hypothesis where
  id := 1
  tenantId := 9
  anomalyIds := [2]
  patternIds := [3]
  description := "the release raised the error rate"
  predictedConsequences := ["error rate stays high"]
  falsificationCriterion := "the error rate recovers"
  coherenceScore := ⟨4 / 5, by norm_num⟩
  status := "candidate"
  generatedAt := 5

/-- An insight with an update. -/
def releaseInsight : InsightRow where
  id := 4
  tenantId := 9
  contextId := 6
  hypothesisIds := [1]
  description := "releases drive the errors"
  priorUnderstanding := some "load drives the errors"
  mentalModelUpdate := some [("cause", .str "release")]
  generatedAt := 7

/-- A context with one competing model. -/
def degradedContext : Context where
  id := 6
  tenantId := 9
  evidenceIds := [8]
  mentalModelId := "degraded"
  purpose := "operate"
  coherenceScore := ⟨4 / 5, by norm_num⟩
  competingModels := [.obj [("model_id", .str "healthy")]]
  activatedAt := 4
  isActive := true

/-- They are all there is. -/
def releaseRows : JsonbRows where
  decisions := []
  recommendations := []
  hypotheses := [errorRateHypothesis]
  insights := [releaseInsight]
  contexts := [degradedContext]

/-- A driver that delivers texts, and a `json.loads` that reads the text of the context. -/
def textDriver : JsonbDriver where
  delivery := .text
  numeral := fun _ => "0.0"
  loads := fun text =>
    if text = "[\x7b\"model_id\": \"healthy\"\x7d]" then some degradedContext.competingColumn else none

/-- The same rows, delivered as values. -/
def decodingDriver : JsonbDriver :=
  { textDriver with delivery := .decoded }

theorem degradedContext_text :
    degradedContext.competingColumn.jsonbText (fun _ => "0.0") = "[\x7b\"model_id\": \"healthy\"\x7d]" := by
  decide +kernel

theorem releaseRows_readable (delivery : Delivery) :
    releaseRows.Readable .constant { textDriver with delivery } where
  attributed := ⟨_, rfl⟩
  reads := by
    intro row member
    obtain rfl := List.mem_singleton.mp member
    unfold JsonbDriver.Reads textDriver
    dsimp only
    rw [degradedContext_text, if_pos rfl]

/-- Delivered as values, they come back. -/
theorem decoded_rows_roundTrip : JsonbRoundTrip .constant decodingDriver releaseRows :=
  (jsonb_roundTrip_iff .constant decodingDriver releaseRows (releaseRows_readable .decoded)).mpr
    (.inl rfl)

/-- **Delivered as texts, they do not**: the payload of the hypothesis lists the characters of the text. -/
theorem text_rows_changed :
    ¬ ∀ (std : Stdlib) (driver : JsonbDriver) (rows : JsonbRows), rows.Readable std driver →
      JsonbRoundTrip std driver rows := by
  intro every
  have trip := every .constant textDriver releaseRows (releaseRows_readable .text)
  have listed : errorRateHypothesis ∈ releaseRows.hypotheses := List.mem_singleton_self _
  have decoded := (predictions_exact_iff errorRateHypothesis).mp (trip.hypotheses _ listed)
  cases decoded

end CosMonitor
