/-
**The tables that the cognitive services write.**

Each service reads the tables of the layers below and inserts rows that refer to them: `INSERT … ON CONFLICT
(id) DO NOTHING`, then the references are checked. Two columns change afterwards: the flag of a context and
the status of a hypothesis.

* `AnomalyCreate`, `buildAnomaly`, `InsightRecord`, `materializeInsight`: the rows that the claims of the
  detectors and of the generator did not need;
* `insertReferring`: the insert of a row that refers to others;
* `Knowledge`, with a listing and a save for each table;
* `Knowledge.Grown`: the order of the tables — rows are added, and only the flag and the status change.
-/

import CosMonitor.Collector.Consumer
import CosMonitor.Evaluation.Cycle
import CosMonitor.Memory.Listings
import CosMonitor.Reasoning.HypothesisGenerator
import CosMonitor.Reasoning.Insights
import Mathlib.Data.List.Infix

namespace CosMonitor

open Table Result Sorting

/-! ### Anomalies and insights -/

/-- A creation request for an anomaly. -/
structure AnomalyCreate where
  tenantId : Uuid
  contextId : Uuid
  patternId : Uuid
  deviationScore : ℚ
  toleranceThreshold : ℚ
  anomalyClass : String
  detectedAt : Timestamp
  deriving DecidableEq

/-- `ANOMALY_NAMESPACE`. -/
def anomalyNamespace : Uuid := 0x7e

/-- `anomaly_id`. -/
def anomalyId (std : Stdlib) (tenantId contextId patternId : Uuid) : Uuid :=
  std.uuid5 anomalyNamespace (uuidText tenantId ++ ":" ++ uuidText contextId ++ ":" ++ uuidText patternId)

/-- `build_anomaly`. -/
def buildAnomaly (std : Stdlib) (create : AnomalyCreate) : Anomaly where
  id := anomalyId std create.tenantId create.contextId create.patternId
  tenantId := create.tenantId
  contextId := create.contextId
  patternId := create.patternId
  deviationScore := create.deviationScore
  toleranceThreshold := create.toleranceThreshold
  anomalyClass := create.anomalyClass
  detectedAt := create.detectedAt

/-- What `AnomalyService._persist` asks the store to create for a candidate. -/
def AnomalyDetector.CandidateAnomaly.toCreate (tenantId : Uuid) (detectedAt : Timestamp)
    (candidate : AnomalyDetector.CandidateAnomaly) : AnomalyCreate where
  tenantId
  contextId := candidate.contextId
  patternId := candidate.patternId
  deviationScore := candidate.deviationScore
  toleranceThreshold := candidate.toleranceThreshold
  anomalyClass := candidate.anomalyClass.name
  detectedAt

/-- A row of `insights` with the hypotheses that it restructures. -/
structure InsightRecord extends Insight where
  hypothesisIds : List Uuid
  deriving DecidableEq

/-- `INSIGHT_NAMESPACE`. -/
def insightNamespace : Uuid := 0x83

/-- `insight_id`: the order of the hypotheses does not matter. -/
def insightId (std : Stdlib) (tenantId contextId : Uuid) (hypothesisIds : List Uuid)
    (description : String) : Uuid :=
  let ordered := ",".intercalate ((hypothesisIds.insertionSort (· ≤ ·)).map uuidText)
  std.uuid5 insightNamespace
    (uuidText tenantId ++ ":" ++ uuidText contextId ++ ":" ++ ordered ++ ":" ++ description)

/-- `build_insight` of the insight model. -/
def materializeInsight (std : Stdlib) (create : InsightCreate) : InsightRecord where
  id := insightId std create.tenantId create.contextId create.hypothesisIds create.description
  tenantId := create.tenantId
  contextId := create.contextId
  description := create.description
  priorUnderstanding := create.priorUnderstanding
  mentalModelUpdate := (create.mentalModelUpdate.map Json.obj).getD .null
  generatedAt := create.generatedAt
  hypothesisIds := create.hypothesisIds

/-! ### Columns -/

/-- What a service catches, or lets through. -/
inductive ServiceError where
  | python (failure : PyError)
  | generation (failure : GenerationError)
  | database (failure : DbError)
  | numericOverflow
  /-- a statement that was not executed -/
  | connection
  deriving DecidableEq, Repr

namespace Column

/-- Assign a text to a `TEXT` column. -/
def text (value : String) : Except ServiceError String :=
  if hasNul (.str value) then .error (.database .nulCharacter) else .ok value

/-- Assign a text to a `VARCHAR(limit)` column. -/
def varchar (limit : Nat) (value : String) : Except ServiceError String :=
  (CosMonitor.varchar limit value).mapError .database

/-- Assign a number to a `NUMERIC(precision, digits)` column. -/
def numeric (precision digits : Nat) (value : ℚ) : Except ServiceError ℚ :=
  if |CosMonitor.numeric digits value| < 10 ^ (precision - digits) then
    .ok (CosMonitor.numeric digits value)
  else .error .numericOverflow

/-- Assign a value to a `JSONB` column. -/
def jsonb (value : Json) : Except ServiceError Json :=
  (CosMonitor.jsonb value).mapError .database

end Column

/-- The row that `INSERT INTO patterns` stores. -/
def PatternRecord.toRow (pattern : PatternRecord) : Except ServiceError PatternRecord := do
  let patternType ← Column.varchar 100 pattern.patternType
  let description ← Column.text pattern.description
  let strengthMeasure ← Column.numeric 5 4 pattern.strengthMeasure
  let frequency ← Column.varchar 50 pattern.frequency
  return { pattern with patternType, description, strengthMeasure, frequency }

/-- The row that `INSERT INTO anomalies` stores. -/
def Anomaly.toRow (anomaly : Anomaly) : Except ServiceError Anomaly := do
  let deviationScore ← Column.numeric 8 4 anomaly.deviationScore
  let toleranceThreshold ← Column.numeric 8 4 anomaly.toleranceThreshold
  let anomalyClass ← Column.varchar 50 anomaly.anomalyClass
  return { anomaly with deviationScore, toleranceThreshold, anomalyClass }

/-- The row that `INSERT INTO hypotheses` stores. -/
def Hypothesis.toRow (hypothesis : Hypothesis) : Except ServiceError Hypothesis := do
  let description ← Column.text hypothesis.description
  let _ ← Column.jsonb (.arr (hypothesis.predictedConsequences.map .str))
  let falsificationCriterion ← Column.text hypothesis.falsificationCriterion
  let status ← Column.varchar 20 hypothesis.status
  return { hypothesis with
    description
    falsificationCriterion
    coherenceScore := hypothesis.coherenceScore.numeric 2
    status }

/-- The row that `INSERT INTO insights` stores. -/
def InsightRecord.toRow (insight : InsightRecord) : Except ServiceError InsightRecord := do
  let description ← Column.text insight.description
  let _ ← Column.text (insight.priorUnderstanding.getD "")
  let mentalModelUpdate ← Column.jsonb insight.mentalModelUpdate
  return { insight with description, mentalModelUpdate }

theorem Context.toRow_evidenceIds {context row : Context} (stored : context.toRow = .ok row) :
    row.evidenceIds = context.evidenceIds := by
  obtain ⟨mentalModelId, -, stored⟩ := Result.bind_eq_ok.mp stored
  obtain ⟨purpose, -, stored⟩ := Result.bind_eq_ok.mp stored
  cases Result.pure_eq_ok.mp stored
  rfl

theorem PatternRecord.toRow_spec {pattern row : PatternRecord} (assigned : pattern.toRow = .ok row) :
    row.id = pattern.id ∧ row.tenantId = pattern.tenantId ∧ row.contextId = pattern.contextId := by
  obtain ⟨patternType, -, assigned⟩ := Result.bind_eq_ok.mp assigned
  obtain ⟨description, -, assigned⟩ := Result.bind_eq_ok.mp assigned
  obtain ⟨strengthMeasure, -, assigned⟩ := Result.bind_eq_ok.mp assigned
  obtain ⟨frequency, -, assigned⟩ := Result.bind_eq_ok.mp assigned
  cases Result.pure_eq_ok.mp assigned
  exact ⟨rfl, rfl, rfl⟩

theorem Anomaly.toRow_spec {anomaly row : Anomaly} (assigned : anomaly.toRow = .ok row) :
    row.id = anomaly.id ∧ row.tenantId = anomaly.tenantId ∧ row.contextId = anomaly.contextId ∧
      row.patternId = anomaly.patternId := by
  obtain ⟨deviationScore, -, assigned⟩ := Result.bind_eq_ok.mp assigned
  obtain ⟨toleranceThreshold, -, assigned⟩ := Result.bind_eq_ok.mp assigned
  obtain ⟨anomalyClass, -, assigned⟩ := Result.bind_eq_ok.mp assigned
  cases Result.pure_eq_ok.mp assigned
  exact ⟨rfl, rfl, rfl, rfl⟩

theorem Hypothesis.toRow_spec {hypothesis row : Hypothesis} (assigned : hypothesis.toRow = .ok row) :
    row.id = hypothesis.id ∧ row.tenantId = hypothesis.tenantId ∧
      row.anomalyIds = hypothesis.anomalyIds ∧ row.patternIds = hypothesis.patternIds ∧
      row.predictedConsequences = hypothesis.predictedConsequences := by
  obtain ⟨description, -, assigned⟩ := Result.bind_eq_ok.mp assigned
  obtain ⟨consequences, -, assigned⟩ := Result.bind_eq_ok.mp assigned
  obtain ⟨falsification, -, assigned⟩ := Result.bind_eq_ok.mp assigned
  obtain ⟨status, -, assigned⟩ := Result.bind_eq_ok.mp assigned
  cases Result.pure_eq_ok.mp assigned
  exact ⟨rfl, rfl, rfl, rfl, rfl⟩

theorem InsightRecord.toRow_spec {insight row : InsightRecord} (assigned : insight.toRow = .ok row) :
    row.id = insight.id ∧ row.tenantId = insight.tenantId ∧ row.contextId = insight.contextId ∧
      row.hypothesisIds = insight.hypothesisIds := by
  obtain ⟨description, -, assigned⟩ := Result.bind_eq_ok.mp assigned
  obtain ⟨understanding, -, assigned⟩ := Result.bind_eq_ok.mp assigned
  obtain ⟨update, -, assigned⟩ := Result.bind_eq_ok.mp assigned
  cases Result.pure_eq_ok.mp assigned
  exact ⟨rfl, rfl, rfl, rfl⟩

/-! ### Inserts -/

section Inserts

variable {Row : Type}

/-- `INSERT … ON CONFLICT (id) DO NOTHING` of a row that refers to others: whether it was inserted. -/
def insertReferring (id : Row → Uuid) (assigned : Except ServiceError Row)
    (refers : Row → Except ServiceError Unit) (rows : List Row) :
    Except ServiceError (Bool × List Row) := do
  let row ← assigned
  match insertAbsent id row rows with
  | (none, _) => return (false, rows)
  | (some _, saved) =>
      refers row
      return (true, saved)

/-- A reference to a row that is there. -/
def references (column : String) (present : Prop) [Decidable present] : Except ServiceError Unit :=
  if present then .ok () else .error (.database (.foreignKeyViolation column))

variable {id : Row → Uuid} {assigned : Except ServiceError Row} {refers : Row → Except ServiceError Unit}
  {rows after : List Row} {stored : Bool}

/-- **What an insert has done**: nothing, as the id is stored, or one more row, whose references are there. -/
theorem insertReferring_eq_ok
    (inserted : insertReferring id assigned refers rows = .ok (stored, after)) :
    (stored = false ∧ after = rows ∧ ∃ row, assigned = .ok row ∧ id row ∈ rows.map id) ∨
      (stored = true ∧ ∃ row, assigned = .ok row ∧ refers row = .ok () ∧ id row ∉ rows.map id ∧
        after = rows ++ [row]) := by
  obtain ⟨row, isRow, inserted⟩ := Result.bind_eq_ok.mp inserted
  rcases insertAbsent_cases id row rows with ⟨present, skipped⟩ | ⟨absent, added⟩
  · rw [skipped] at inserted
    cases inserted
    obtain ⟨other, member, same⟩ := present
    exact .inl ⟨rfl, rfl, row, isRow, List.mem_map.mpr ⟨other, member, same⟩⟩
  · rw [added] at inserted
    obtain ⟨⟨⟩, referred, returned⟩ := Result.bind_eq_ok.mp inserted
    cases returned
    refine .inr ⟨rfl, row, isRow, referred, fun member => ?_, rfl⟩
    obtain ⟨other, otherIn, same⟩ := List.mem_map.mp member
    exact absent other otherIn same

theorem nodup_append_key {row : Row} (distinct : (rows.map id).Nodup) (fresh : id row ∉ rows.map id) :
    ((rows ++ [row]).map id).Nodup := by
  rw [List.map_append, List.nodup_append]
  refine ⟨distinct, List.nodup_singleton _, fun key member other isOther same => fresh ?_⟩
  rw [← List.mem_singleton.mp isOther, ← same]
  exact member

theorem insertReferring_keyed (inserted : insertReferring id assigned refers rows = .ok (stored, after))
    (distinct : (rows.map id).Nodup) : (after.map id).Nodup := by
  rcases insertReferring_eq_ok inserted with ⟨-, rfl, -⟩ | ⟨-, row, -, -, fresh, rfl⟩
  · exact distinct
  · exact nodup_append_key distinct fresh

end Inserts

theorem insertEvidence_eq_ok {tenants : List Uuid} {evidence : Evidence} {rows after : List Evidence}
    (inserted : insertEvidence tenants evidence rows = .ok after) :
    after = rows ∨ evidence.id ∉ rows.map Evidence.id ∧ after = rows ++ [evidence] := by
  unfold insertEvidence at inserted
  split at inserted
  · cases inserted
  · unfold saveEvidence at inserted
    rcases insertAbsent_cases Evidence.id evidence rows with ⟨-, skipped⟩ | ⟨fresh, added⟩
    · rw [skipped] at inserted
      exact .inl (Except.ok.inj inserted).symm
    · rw [added] at inserted
      dsimp only at inserted
      split at inserted
      · refine .inr ⟨fun member => ?_, (Except.ok.inj inserted).symm⟩
        obtain ⟨other, otherIn, same⟩ := List.mem_map.mp member
        exact fresh other otherIn same
      · cases inserted

theorem insertEvidence_keyed {tenants : List Uuid} {evidence : Evidence} {rows after : List Evidence}
    (inserted : insertEvidence tenants evidence rows = .ok after)
    (distinct : (rows.map Evidence.id).Nodup) : (after.map Evidence.id).Nodup := by
  rcases insertEvidence_eq_ok inserted with rfl | ⟨fresh, rfl⟩
  · exact distinct
  · exact nodup_append_key distinct fresh

/-! ### The tables -/

/-- The tables of perception and reasoning, with their primary keys. -/
structure Knowledge where
  observations : List Observation
  evidence : List Evidence
  contexts : ContextTable
  patterns : List PatternRecord
  anomalies : List Anomaly
  hypotheses : List Hypothesis
  insights : List InsightRecord
  evidenceKeyed : (evidence.map Evidence.id).Nodup
  patternsKeyed : (patterns.map fun pattern => pattern.id).Nodup
  anomaliesKeyed : (anomalies.map Anomaly.id).Nodup
  hypothesesKeyed : (hypotheses.map Hypothesis.id).Nodup
  insightsKeyed : (insights.map fun insight => insight.id).Nodup

namespace Knowledge

section Stores

variable (tenants : List Uuid) (knowledge : Knowledge) (tenantId : Uuid)

/-- `list_evidence`. -/
def listEvidence : List Evidence :=
  sortByDesc Evidence.organizedAt (knowledge.evidence.filter fun row => decide (row.tenantId = tenantId))

/-- `list_contexts`. -/
def listContexts : List Context :=
  sortBy Context.activatedAt (knowledge.contexts.rows.filter fun row => decide (row.tenantId = tenantId))

/-- `list_active_contexts`. -/
def listActiveContexts : List Context :=
  sortBy Context.activatedAt (knowledge.contexts.rows.filter fun row =>
    decide (row.tenantId = tenantId) && row.isActive)

/-- `list_patterns`. -/
def listPatterns : List PatternRecord :=
  sortBy (fun row => row.detectedAt) (knowledge.patterns.filter fun row => decide (row.tenantId = tenantId))

/-- `list_anomalies`. -/
def listAnomalies : List Anomaly :=
  sortBy Anomaly.detectedAt (knowledge.anomalies.filter fun row => decide (row.tenantId = tenantId))

/-- `list_hypotheses`, with the key of the table. -/
def keyedHypotheses : { rows : List Hypothesis // (rows.map Hypothesis.id).Nodup } where
  val := listHypotheses tenantId 500 0 knowledge.hypotheses
  property := by
    refine (((List.take_sublist _ _).trans (List.drop_sublist _ _)).map _).nodup ?_
    refine ((sortBy_perm _ _).map _).nodup_iff.mpr ?_
    exact (List.filter_sublist.map _).nodup knowledge.hypothesesKeyed

/-- `list_anomalies`, with the key of the table. -/
def keyedAnomalies : { rows : List Anomaly // (rows.map Anomaly.id).Nodup } where
  val := knowledge.listAnomalies tenantId
  property := by
    refine ((sortBy_perm _ _).map _).nodup_iff.mpr ?_
    exact (List.filter_sublist.map _).nodup knowledge.anomaliesKeyed

/-- `list_contexts`, with the key of the table. -/
def keyedContexts : { rows : List Context // (rows.map Context.id).Nodup } where
  val := knowledge.listContexts tenantId
  property := by
    have keyed := knowledge.contexts.idUnique
    rw [UniqueOn, List.filter_true] at keyed
    refine ((sortBy_perm _ _).map _).nodup_iff.mpr ?_
    exact (List.filter_sublist.map _).nodup keyed

/-- `save_observation`. -/
def saveObservation (observation : Observation) : Effect Knowledge ServiceError Bool := fun knowledge =>
  match CosMonitor.saveObservation tenants observation knowledge.observations with
  | .error failure => (.error (.database failure), knowledge)
  | .ok observations => (.ok true, { knowledge with observations })

/-- `save_evidence`. -/
def saveEvidence (evidence : Evidence) : Effect Knowledge ServiceError Bool := fun knowledge =>
  match inserted : insertEvidence tenants evidence knowledge.evidence with
  | .error failure => (.error (.database failure), knowledge)
  | .ok rows => (.ok (CosMonitor.saveEvidence evidence knowledge.evidence).1.isSome,
      { knowledge with
        evidence := rows
        evidenceKeyed := insertEvidence_keyed inserted knowledge.evidenceKeyed })

/-- `save_context`. -/
def saveContext (context : Context) : Effect Knowledge ServiceError Bool := fun knowledge =>
  match CosMonitor.saveContext tenants context knowledge.contexts with
  | .error failure => (.error (.database failure), knowledge)
  | .ok (row, contexts) => (.ok row.isSome, { knowledge with contexts })

/-- `save_pattern`. -/
def savePattern (pattern : PatternRecord) : Effect Knowledge ServiceError Bool := fun knowledge =>
  let refers (row : PatternRecord) : Except ServiceError Unit := do
    references "tenant_id" (row.tenantId ∈ tenants)
    references "context_id" (row.contextId ∈ knowledge.contexts.rows.map Context.id)
  match inserted : insertReferring (fun row => row.id) pattern.toRow refers knowledge.patterns with
  | .error failure => (.error failure, knowledge)
  | .ok (stored, patterns) => (.ok stored, { knowledge with
      patterns
      patternsKeyed := insertReferring_keyed inserted knowledge.patternsKeyed })

/-- `save_anomaly`. -/
def saveAnomaly (anomaly : Anomaly) : Effect Knowledge ServiceError Bool := fun knowledge =>
  let refers (row : Anomaly) : Except ServiceError Unit := do
    references "tenant_id" (row.tenantId ∈ tenants)
    references "context_id" (row.contextId ∈ knowledge.contexts.rows.map Context.id)
    references "pattern_id" (row.patternId ∈ knowledge.patterns.map fun pattern => pattern.id)
  match inserted : insertReferring Anomaly.id anomaly.toRow refers knowledge.anomalies with
  | .error failure => (.error failure, knowledge)
  | .ok (stored, anomalies) => (.ok stored, { knowledge with
      anomalies
      anomaliesKeyed := insertReferring_keyed inserted knowledge.anomaliesKeyed })

/-- `save_hypothesis`. -/
def saveHypothesis (hypothesis : Hypothesis) : Effect Knowledge ServiceError Bool := fun knowledge =>
  let refers (row : Hypothesis) : Except ServiceError Unit :=
    references "tenant_id" (row.tenantId ∈ tenants)
  match inserted : insertReferring Hypothesis.id hypothesis.toRow refers knowledge.hypotheses with
  | .error failure => (.error failure, knowledge)
  | .ok (stored, hypotheses) => (.ok stored, { knowledge with
      hypotheses
      hypothesesKeyed := insertReferring_keyed inserted knowledge.hypothesesKeyed })

/-- `save_insight`. -/
def saveInsight (insight : InsightRecord) : Effect Knowledge ServiceError Bool := fun knowledge =>
  let refers (row : InsightRecord) : Except ServiceError Unit := do
    references "tenant_id" (row.tenantId ∈ tenants)
    references "context_id" (row.contextId ∈ knowledge.contexts.rows.map Context.id)
  match inserted : insertReferring (fun row => row.id) insight.toRow refers knowledge.insights with
  | .error failure => (.error failure, knowledge)
  | .ok (stored, insights) => (.ok stored, { knowledge with
      insights
      insightsKeyed := insertReferring_keyed inserted knowledge.insightsKeyed })

/-- `update_hypothesis_status`. -/
def updateHypothesisStatus (hypothesisId : Uuid) (status : String) :
    Effect Knowledge ServiceError Unit := fun knowledge =>
  if status = "confirmed" ∨ status = "falsified" then
    (.ok (), { knowledge with
      hypotheses := setStatus tenantId hypothesisId status knowledge.hypotheses
      hypothesesKeyed := by
        rw [setStatus_ids]
        exact knowledge.hypothesesKeyed })
  else (.error (.python (.valueError "Invalid status transition")), knowledge)

end Stores

end Knowledge

/-! ### The order of the tables -/

/-- A hypothesis without its status. -/
def Hypothesis.unjudged (hypothesis : Hypothesis) : Hypothesis :=
  { hypothesis with status := "" }

theorem Context.field_eq {Field : Type} {row old : Context} (same : row.deactivated = old.deactivated)
    (field : Context → Field) (ignores : ∀ context : Context, field context.deactivated = field context) :
    field row = field old := by
  rw [← ignores row, same, ignores]

theorem Hypothesis.field_eq {Field : Type} {row old : Hypothesis} (same : row.unjudged = old.unjudged)
    (field : Hypothesis → Field)
    (ignores : ∀ hypothesis : Hypothesis, field hypothesis.unjudged = field hypothesis) :
    field row = field old := by
  rw [← ignores row, same, ignores]

namespace Knowledge

/-- Rows are added behind those that are there, and of these only the flag of a context and the status of a
hypothesis change. -/
structure Grown (before after : Knowledge) : Prop where
  observations : before.observations <+: after.observations
  evidence : before.evidence <+: after.evidence
  contexts : before.contexts.rows.map Context.deactivated <+: after.contexts.rows.map Context.deactivated
  patterns : before.patterns <+: after.patterns
  anomalies : before.anomalies <+: after.anomalies
  hypotheses : before.hypotheses.map Hypothesis.unjudged <+: after.hypotheses.map Hypothesis.unjudged
  insights : before.insights <+: after.insights

theorem Grown.refl (knowledge : Knowledge) : knowledge.Grown knowledge := by
  constructor <;> exact List.prefix_refl _

instance : Preorder Knowledge where
  le := Grown
  le_refl := Grown.refl
  le_trans first second third grown further := by
    constructor
    · exact grown.observations.trans further.observations
    · exact grown.evidence.trans further.evidence
    · exact grown.contexts.trans further.contexts
    · exact grown.patterns.trans further.patterns
    · exact grown.anomalies.trans further.anomalies
    · exact grown.hypotheses.trans further.hypotheses
    · exact grown.insights.trans further.insights

section Grown

variable {before after : Knowledge}

theorem Grown.context (grown : before ≤ after) {context : Context} (member : context ∈ before.contexts.rows) :
    ∃ row ∈ after.contexts.rows, row.deactivated = context.deactivated :=
  List.mem_map.mp (grown.contexts.subset (List.mem_map_of_mem member))

theorem Grown.hypothesis (grown : before ≤ after) {hypothesis : Hypothesis}
    (member : hypothesis ∈ before.hypotheses) :
    ∃ row ∈ after.hypotheses, row.unjudged = hypothesis.unjudged :=
  List.mem_map.mp (grown.hypotheses.subset (List.mem_map_of_mem member))

end Grown

end Knowledge

end CosMonitor
