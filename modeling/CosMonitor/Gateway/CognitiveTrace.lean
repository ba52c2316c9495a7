/-
**The cognitive trace of a report — the gateway's walk from its decisions to their observations.**

* `extractDecisionIds`: the decisions that a report names in `decision_traces`;
* `TraceReads`: the bulk reads of a tenant, each by the ids that the reads before it found;
* `validateProvenance`: a warning for every reference that was not found;
* `getTrace`: nodes, edges and warnings, `none` where the tenant has no such report;
* `trace_decisions_iff`: the decision nodes are the decisions of the report exactly of JSON reports, or
  where there are none.
-/

import CosMonitor.Report.ReportRuns
import Mathlib.Data.String.Basic

namespace CosMonitor

open Result

/-! ### What a report names -/

section Extraction

/-- The decision id of an entry of `decision_traces`; an entry of another shape is skipped. -/
def extractDecisionId (std : Stdlib) (trace : Json) : Option Uuid :=
  match trace.lookup "decision" with
  | some (.obj fields) =>
      match (Json.obj fields).lookup "id" with
      | none | some .null => none
      | some raw => parseUuid (std.str raw)
  | _ => none

/-- `_extract_decision_ids`. -/
def extractDecisionIds (std : Stdlib) (content : Json) : List Uuid :=
  match content.lookup "decision_traces" with
  | some (.arr traces) => traces.filterMap (extractDecisionId std)
  | _ => []

end Extraction

/-! ### Bulk reads -/

section Reads

variable {Row : Type}

/-- The values of `{row["id"]: row for row in rows}`: of rows with one id the last. -/
def keyedById (id : Row → Uuid) : List Row → List Row
  | [] => []
  | row :: rest =>
      if rest.any fun other => decide (id other = id row) then keyedById id rest
      else row :: keyedById id rest

/-- `_bulk_by_ids`: the rows of a tenant with some ids. -/
def bulkByIds (tenantOf id : Row → Uuid) (tenantId : Uuid) (ids : List Uuid) (rows : List Row) :
    List Row :=
  keyedById id (rows.filter fun row => decide (tenantOf row = tenantId) && decide (id row ∈ ids))

/-- The reads of one trace: the tables, the tenant and the decisions that its report names. -/
structure TraceReads where
  tables : ReportTables
  tenantId : Uuid
  decisionIds : List Uuid

namespace TraceReads

variable (reads : TraceReads)

/-- The decisions that the report names. -/
def decisions : List Decision :=
  bulkByIds Decision.tenantId Decision.id reads.tenantId reads.decisionIds reads.tables.decisions

/-- Their recommendations. -/
def recommendations : List Recommendation :=
  bulkByIds (fun row => row.tenantId) Recommendation.id reads.tenantId
    (reads.decisions.map Decision.recommendationId) reads.tables.recommendations

/-- The confidences of the decisions and of the recommendations. -/
def confidences : List Confidence :=
  bulkByIds (fun row => row.tenantId) Confidence.id reads.tenantId
    (reads.decisions.map Decision.confidenceId ++
      reads.recommendations.map fun row => row.confidenceId) reads.tables.confidences

/-- The hypotheses of the recommendations. -/
def hypotheses : List Hypothesis :=
  bulkByIds Hypothesis.tenantId Hypothesis.id reads.tenantId
    (reads.recommendations.map fun row => row.hypothesisId) reads.tables.hypotheses

/-- The anomalies of the hypotheses. -/
def anomalies : List Anomaly :=
  bulkByIds Anomaly.tenantId Anomaly.id reads.tenantId
    (reads.hypotheses.flatMap Hypothesis.anomalyIds) reads.tables.anomalies

/-- The patterns of the hypotheses and of the anomalies. -/
def patterns : List PatternRecord :=
  bulkByIds (fun row => row.tenantId) (fun row => row.id) reads.tenantId
    (reads.hypotheses.flatMap Hypothesis.patternIds ++ reads.anomalies.map Anomaly.patternId)
    reads.tables.patterns

/-- The contexts of the anomalies and of the patterns. -/
def contexts : List Context :=
  bulkByIds Context.tenantId Context.id reads.tenantId
    (reads.anomalies.map Anomaly.contextId ++ reads.patterns.map fun row => row.contextId)
    reads.tables.contexts

/-- The evidence of the contexts. -/
def evidence : List Evidence :=
  bulkByIds Evidence.tenantId Evidence.id reads.tenantId
    (reads.contexts.flatMap Context.evidenceIds) reads.tables.evidence

/-- The observations of the evidence. -/
def observations : List Observation :=
  bulkByIds Observation.tenantId Observation.id reads.tenantId
    (reads.evidence.flatMap Evidence.observationIds) reads.tables.observations

end TraceReads

end Reads

/-! ### Nodes, edges, warnings -/

section Assembly

/-- The type of a node. -/
inductive NodeType where
  | report
  | decision
  | recommendation
  | confidence
  | hypothesis
  | anomaly
  | pattern
  | context
  | evidence
  | observation
  deriving DecidableEq, Repr

/-- `TYPE_ORDER`. -/
def NodeType.order : NodeType → Nat
  | report => 0
  | decision => 1
  | recommendation => 2
  | confidence => 3
  | hypothesis => 4
  | anomaly => 5
  | pattern => 6
  | context => 7
  | evidence => 8
  | observation => 9

/-- A node is the row of an artifact; what it shows are columns of this row. -/
inductive TraceNode where
  | report (row : Report Json)
  | decision (row : Decision)
  | recommendation (row : Recommendation)
  | confidence (row : Confidence)
  | hypothesis (row : Hypothesis)
  | anomaly (row : Anomaly)
  | pattern (row : PatternRecord)
  | context (row : Context)
  | evidence (row : Evidence)
  | observation (row : Observation)

namespace TraceNode

/-- The type of a node. -/
def nodeType : TraceNode → NodeType
  | report _ => .report
  | decision _ => .decision
  | recommendation _ => .recommendation
  | confidence _ => .confidence
  | hypothesis _ => .hypothesis
  | anomaly _ => .anomaly
  | pattern _ => .pattern
  | context _ => .context
  | evidence _ => .evidence
  | observation _ => .observation

/-- The id of a node. -/
def id : TraceNode → Uuid
  | report row => row.id
  | decision row => row.id
  | recommendation row => row.id
  | confidence row => row.id
  | hypothesis row => row.id
  | anomaly row => row.id
  | pattern row => row.id
  | context row => row.id
  | evidence row => row.id
  | observation row => row.id

/-- The tenant of a node. -/
def tenantId : TraceNode → Uuid
  | report row => row.tenantId
  | decision row => row.tenantId
  | recommendation row => row.tenantId
  | confidence row => row.tenantId
  | hypothesis row => row.tenantId
  | anomaly row => row.tenantId
  | pattern row => row.tenantId
  | context row => row.tenantId
  | evidence row => row.tenantId
  | observation row => row.tenantId

end TraceNode

/-- An edge from one artifact to another. -/
structure TraceEdge where
  source : Uuid
  target : Uuid
  relation : String
  deriving DecidableEq

/-- The edge of a reference that was found. -/
def edgeTo (found : List Uuid) (source : Uuid) (relation : String) (target : Uuid) : List TraceEdge :=
  if target ∈ found then [{ source, target, relation }] else []

/-- The warning of a reference that was not found. -/
def warnMissing (found : List Uuid) (kind reason : String) (holder target : Uuid) : List String :=
  if target ∈ found then []
  else [kind ++ " " ++ uuidText target ++ " " ++ reason ++ " " ++ uuidText holder ++ " not found"]

namespace TraceReads

variable (reads : TraceReads)

/-- The nodes of a report, before they are sorted. -/
def nodes (report : Report Json) : List TraceNode :=
  .report report :: (reads.decisions.map .decision ++ reads.recommendations.map .recommendation ++
    reads.confidences.map .confidence ++ reads.hypotheses.map .hypothesis ++
    reads.anomalies.map .anomaly ++ reads.patterns.map .pattern ++ reads.contexts.map .context ++
    reads.evidence.map .evidence ++ reads.observations.map .observation)

/-- The edges of a report, before they are sorted. -/
def edges (report : Report Json) : List TraceEdge :=
  let decisionIds := reads.decisions.map Decision.id
  let recommendationIds := reads.recommendations.map Recommendation.id
  let confidenceIds := reads.confidences.map Confidence.id
  let hypothesisIds := reads.hypotheses.map Hypothesis.id
  let anomalyIds := reads.anomalies.map Anomaly.id
  let patternIds := reads.patterns.map fun row => row.id
  let contextIds := reads.contexts.map Context.id
  let evidenceIds := reads.evidence.map Evidence.id
  let observationIds := reads.observations.map Observation.id
  reads.decisionIds.flatMap (edgeTo decisionIds report.id "documents") ++
    (reads.decisions.flatMap fun row =>
      edgeTo recommendationIds row.id "commits" row.recommendationId ++
        edgeTo confidenceIds row.id "calibrated_by" row.confidenceId) ++
    (reads.recommendations.flatMap fun row =>
      edgeTo hypothesisIds row.id "explains" row.hypothesisId ++
        edgeTo confidenceIds row.id "carries" row.confidenceId) ++
    (reads.confidences.flatMap fun row =>
      if row.targetType = .hypothesis then edgeTo hypothesisIds row.id "calibrates" row.targetId
      else []) ++
    (reads.hypotheses.flatMap fun row =>
      row.anomalyIds.flatMap (edgeTo anomalyIds row.id "accounts_for") ++
        row.patternIds.flatMap (edgeTo patternIds row.id "refers_to")) ++
    (reads.anomalies.flatMap fun row =>
      edgeTo patternIds row.id "deviates_from" row.patternId ++
        edgeTo contextIds row.id "contextualized_by" row.contextId) ++
    (reads.patterns.flatMap fun row =>
      edgeTo contextIds row.id "contextualized_by" row.contextId) ++
    (reads.contexts.flatMap fun row =>
      row.evidenceIds.flatMap (edgeTo evidenceIds row.id "organizes")) ++
    reads.evidence.flatMap fun row =>
      row.observationIds.flatMap (edgeTo observationIds row.id "observes")

/-- `_validate_provenance`. -/
def validateProvenance : List String :=
  let decisionIds := reads.decisions.map Decision.id
  let recommendationIds := reads.recommendations.map Recommendation.id
  let confidenceIds := reads.confidences.map Confidence.id
  let hypothesisIds := reads.hypotheses.map Hypothesis.id
  let anomalyIds := reads.anomalies.map Anomaly.id
  let patternIds := reads.patterns.map fun row => row.id
  let contextIds := reads.contexts.map Context.id
  let evidenceIds := reads.evidence.map Evidence.id
  let observationIds := reads.observations.map Observation.id
  ((reads.decisionIds.dedup.filter fun id => decide (id ∉ decisionIds)).map fun id =>
      "decision " ++ uuidText id ++ " referenced by report not found") ++
    (reads.decisions.flatMap fun row =>
      warnMissing recommendationIds "recommendation" "for decision" row.id row.recommendationId ++
        warnMissing confidenceIds "confidence" "for decision" row.id row.confidenceId) ++
    (reads.recommendations.flatMap fun row =>
      warnMissing hypothesisIds "hypothesis" "for recommendation" row.id row.hypothesisId ++
        warnMissing confidenceIds "confidence" "for recommendation" row.id row.confidenceId) ++
    (reads.confidences.flatMap fun row =>
      if row.targetType = .hypothesis then
        warnMissing hypothesisIds "hypothesis" "for confidence" row.id row.targetId
      else []) ++
    (reads.hypotheses.flatMap fun row =>
      row.anomalyIds.flatMap
          (warnMissing anomalyIds "anomaly" "referenced by hypothesis" row.id) ++
        row.patternIds.flatMap
          (warnMissing patternIds "pattern" "referenced by hypothesis" row.id)) ++
    (reads.anomalies.flatMap fun row =>
      warnMissing patternIds "pattern" "referenced by anomaly" row.id row.patternId ++
        warnMissing contextIds "context" "referenced by anomaly" row.id row.contextId) ++
    (reads.patterns.flatMap fun row =>
      warnMissing contextIds "context" "referenced by pattern" row.id row.contextId) ++
    (reads.contexts.flatMap fun row =>
      row.evidenceIds.flatMap (warnMissing evidenceIds "evidence" "referenced by context" row.id)) ++
    reads.evidence.flatMap fun row =>
      row.observationIds.flatMap
        (warnMissing observationIds "observation" "referenced by evidence" row.id)

end TraceReads

/-- The answer of `get_trace`. -/
structure CognitiveTrace where
  root : Report Json
  nodes : List TraceNode
  edges : List TraceEdge
  warnings : List String

/-- The field `completeness`. -/
def CognitiveTrace.completeness (trace : CognitiveTrace) : String :=
  if trace.warnings.isEmpty then "complete" else "partial"

/-- `CognitiveTraceStore.get_trace`. The texts of ids are ordered as the ids are. -/
def getTrace (std : Stdlib) (state : ReportState) (tenantId reportId : Uuid) :
    Option CognitiveTrace :=
  (state.reports.find? fun row => decide (row.tenantId = tenantId) && decide (row.id = reportId)).map
    fun report =>
      let decisionIds := extractDecisionIds std report.content
      let reads : TraceReads := { tables := state.tables, tenantId, decisionIds }
      if decisionIds.isEmpty then
        { root := report
          nodes := [.report report]
          edges := []
          warnings := ["report has no decision_traces to trace"] }
      else
        { root := report
          nodes := Sorting.sortBy (fun node => toLex (node.nodeType.order, node.id))
            (reads.nodes report)
          edges := Sorting.sortBy
            (fun edge => toLex (edge.source, toLex (edge.target, edge.relation)))
            (reads.edges report).dedup
          warnings := reads.validateProvenance }

end Assembly

/-! ### What the reads find -/

section Found

variable {Row : Type} {tenantOf id : Row → Uuid} {tenantId wanted : Uuid} {ids : List Uuid}
  {rows : List Row} {row : Row}

theorem mem_map_keyedById : wanted ∈ (keyedById id rows).map id ↔ wanted ∈ rows.map id := by
  induction rows with
  | nil => rfl
  | cons first rest ih =>
      rw [keyedById]
      split
      · rename_i later
        obtain ⟨other, member, same⟩ := List.any_eq_true.mp later
        rw [ih, List.map_cons, List.mem_cons]
        refine ⟨.inr, ?_⟩
        rintro (rfl | found)
        · exact List.mem_map.mpr ⟨other, member, of_decide_eq_true same⟩
        · exact found
      · rw [List.map_cons, List.map_cons, List.mem_cons, List.mem_cons, ih]

theorem keyedById_of_nodup (distinct : (rows.map id).Nodup) : keyedById id rows = rows := by
  induction rows with
  | nil => rfl
  | cons first rest ih =>
      obtain ⟨apart, others⟩ := List.nodup_cons.mp distinct
      rw [keyedById, if_neg, ih others]
      intro later
      obtain ⟨other, member, same⟩ := List.any_eq_true.mp later
      exact apart (List.mem_map.mpr ⟨other, member, of_decide_eq_true same⟩)

theorem mem_map_bulkByIds :
    wanted ∈ (bulkByIds tenantOf id tenantId ids rows).map id ↔
      wanted ∈ ids ∧ ∃ row ∈ rows, tenantOf row = tenantId ∧ id row = wanted := by
  rw [bulkByIds, mem_map_keyedById, List.mem_map]
  simp only [List.mem_filter, Bool.and_eq_true, decide_eq_true_eq]
  constructor
  · rintro ⟨row, ⟨member, isTenant, isWanted⟩, rfl⟩
    exact ⟨isWanted, row, member, isTenant, rfl⟩
  · rintro ⟨isWanted, row, member, isTenant, rfl⟩
    exact ⟨row, ⟨member, isTenant, isWanted⟩, rfl⟩

theorem mem_bulkByIds (distinct : (rows.map id).Nodup) :
    row ∈ bulkByIds tenantOf id tenantId ids rows ↔
      row ∈ rows ∧ tenantOf row = tenantId ∧ id row ∈ ids := by
  rw [bulkByIds, keyedById_of_nodup (distinct.sublist (List.filter_sublist.map id)), List.mem_filter,
    Bool.and_eq_true, decide_eq_true_eq, decide_eq_true_eq]

@[simp] theorem bulkByIds_nil : bulkByIds tenantOf id tenantId [] rows = [] := by
  simp [bulkByIds, keyedById]

end Found

section TraceIds

/-- The ids that the reads find of a type of artifacts. -/
def TraceReads.idsOf (reads : TraceReads) : NodeType → List Uuid
  | .report => []
  | .decision => reads.decisions.map Decision.id
  | .recommendation => reads.recommendations.map Recommendation.id
  | .confidence => reads.confidences.map Confidence.id
  | .hypothesis => reads.hypotheses.map Hypothesis.id
  | .anomaly => reads.anomalies.map Anomaly.id
  | .pattern => reads.patterns.map fun row => row.id
  | .context => reads.contexts.map Context.id
  | .evidence => reads.evidence.map Evidence.id
  | .observation => reads.observations.map Observation.id

/-- The ids of the nodes of a type. -/
def CognitiveTrace.idsOf (trace : CognitiveTrace) (nodeType : NodeType) : List Uuid :=
  (trace.nodes.filter fun node => decide (node.nodeType = nodeType)).map TraceNode.id

theorem TraceReads.idsOf_nil (tables : ReportTables) (tenantId : Uuid) (nodeType : NodeType) :
    ({ tables, tenantId, decisionIds := [] } : TraceReads).idsOf nodeType = [] := by
  cases nodeType <;>
    simp [idsOf, decisions, recommendations, confidences, hypotheses, anomalies, patterns, contexts,
      evidence, observations]

theorem TraceReads.mem_nodes (reads : TraceReads) (report : Report Json) {nodeType : NodeType}
    (artifact : nodeType ≠ .report) (id : Uuid) :
    (∃ node ∈ reads.nodes report, node.nodeType = nodeType ∧ node.id = id) ↔
      id ∈ reads.idsOf nodeType := by
  cases nodeType <;>
    simp_all [nodes, idsOf, TraceNode.nodeType, TraceNode.id, or_and_right, exists_or]

/-- **The trace of a stored report**: its artifacts are those that the reads find from its decisions. -/
theorem getTrace_found {std : Stdlib} {state : ReportState} {tenantId reportId : Uuid}
    {report : Report Json}
    (found : state.reports.find? (fun row => decide (row.tenantId = tenantId) &&
      decide (row.id = reportId)) = some report) :
    ∃ trace, getTrace std state tenantId reportId = some trace ∧ trace.root = report ∧
      ∀ nodeType ≠ NodeType.report, ∀ id, id ∈ trace.idsOf nodeType ↔
        id ∈ ({ tables := state.tables, tenantId,
                decisionIds := extractDecisionIds std report.content } : TraceReads).idsOf nodeType := by
  unfold getTrace
  rw [found, Option.map_some]
  by_cases none : (extractDecisionIds std report.content).isEmpty = true
  · rw [if_pos none]
    refine ⟨_, rfl, rfl, fun nodeType artifact id => ?_⟩
    rw [List.isEmpty_iff.mp none, TraceReads.idsOf_nil]
    cases nodeType <;> simp_all [CognitiveTrace.idsOf, TraceNode.nodeType]
  · rw [if_neg none]
    refine ⟨_, rfl, rfl, fun nodeType artifact id => ?_⟩
    rw [← TraceReads.mem_nodes _ report artifact]
    simp [CognitiveTrace.idsOf, and_assoc]

end TraceIds

/-! ### The decisions of a trace -/

section Decisions

variable {formats : ViewFormats} {source : ReportSource} {env : ReportEnv}

theorem extractDecisionId_view (std : Stdlib) (trace : DecisionTrace) :
    extractDecisionId std (trace.view formats) = some trace.decision.id :=
  parseUuid_uuidText trace.decision.id

theorem extractDecisionIds_rendered {std : Stdlib} {reportType : String} {document : Document}
    {content : Json} (rendered : renderDocument env reportType source = .ok document)
    (stored : document.content = some content) :
    extractDecisionIds std content =
      if isPdf reportType then [] else source.decisions.map Decision.id := by
  unfold renderDocument at rendered
  split at rendered
  · rename_i executive
    rw [← Except.ok.inj rendered] at stored
    rw [extractDecisionIds, lookup_renderExecutive stored, executive]
    rfl
  · split at rendered
    · rename_i technical
      rw [extractDecisionIds, lookup_renderTechnical rendered stored, technical]
      rfl
    · rename_i notExecutive notTechnical
      rw [← Except.ok.inj rendered] at stored
      have json : isPdf reportType = false := by simp [isPdf, notExecutive, notTechnical]
      rw [extractDecisionIds, lookup_renderJson stored, json]
      simp [buildDecisionTraces, ReportSource.traces, ReportSource.traceOf, List.filterMap_map,
        Function.comp_def, extractDecisionId_view]

/-- What becomes of the tables: reports and decisions are only appended, and a report has its id alone. -/
structure ReportState.Precedes (before later : ReportState) : Prop where
  reports : ∀ row ∈ before.reports, row ∈ later.reports
  reportIds : (later.reports.map Report.id).Nodup
  decisions : ∀ decision ∈ before.tables.decisions, ∃ kept ∈ later.tables.decisions,
    kept.id = decision.id ∧ kept.tenantId = decision.tenantId

theorem ReportState.Precedes.generated {tenantId : Uuid} {reportType : String} {now : Timestamp}
    {state : ReportState} (distinct : (state.reports.map Report.id).Nodup) :
    (generate env tenantId reportType now state).2.Precedes
      (generate env tenantId reportType now state).2 where
  reports := fun _ stored => stored
  decisions := fun decision stored => ⟨decision, stored, rfl, rfl⟩
  reportIds := by
    have ended := generate_cases env tenantId reportType now state
    generalize generate env tenantId reportType now state = ran at ended ⊢
    obtain ⟨answer, after⟩ := ran
    cases ended with
    | unrendered failure failed => exact distinct
    | unsaved report payload failure rendered => exact distinct
    | duplicate report payload row other rendered converted known same => exact distinct
    | created report payload row rendered converted fresh =>
        rw [List.map_append, List.nodup_append]
        refine ⟨distinct, List.nodup_singleton _, fun id old other new => ?_⟩
        obtain ⟨stored, member, rfl⟩ := List.mem_map.mp old
        rw [List.mem_singleton.mp new]
        exact fresh stored member

theorem find_report {reports : List (Report Json)} {row : Report Json}
    (only : ∀ other ∈ reports, other.id = row.id → other = row) (stored : row ∈ reports) :
    reports.find? (fun other => decide (other.tenantId = row.tenantId) &&
      decide (other.id = row.id)) = some row := by
  rcases found : reports.find? (fun other => decide (other.tenantId = row.tenantId) &&
      decide (other.id = row.id)) with - | other
  · have differs := List.find?_eq_none.mp found row stored
    simp at differs
  · have matching := List.find?_some found
    rw [Bool.and_eq_true, decide_eq_true_eq, decide_eq_true_eq] at matching
    rw [found, only other (List.mem_of_find?_eq_some found) matching.2]

/-- The decision nodes of the trace of a report are the decisions that it was rendered from. -/
def TracesDecisions (std : Stdlib) (later : ReportState) (tenantId reportId : Uuid)
    (source : ReportSource) : Prop :=
  ∃ trace, getTrace std later tenantId reportId = some trace ∧
    ∀ id, id ∈ trace.idsOf .decision ↔ id ∈ source.decisions.map Decision.id

theorem getTrace_decisions {tenantId : Uuid} {reportType : String} {now : Timestamp}
    {state later : ReportState} {report : Report Document}
    (created : (generate env tenantId reportType now state).1 = .ok (report, .created))
    (follows : (generate env tenantId reportType now state).2.Precedes later) :
    ∃ trace, getTrace env.std later tenantId report.id = some trace ∧
      ∀ id, id ∈ trace.idsOf .decision ↔
        isPdf reportType = false ∧ id ∈ decisionIds tenantId state.tables := by
  have ended := generate_cases env tenantId reportType now state
  generalize generate env tenantId reportType now state = ran at ended created follows
  obtain ⟨answer, after⟩ := ran
  obtain rfl : answer = .ok (report, .created) := created
  cases ended with
  | created _ payload row rendered converted fresh =>
      obtain ⟨document, isDocument, -, rfl⟩ := rendering_spec rendered
      have stores := Report.toRow_stores converted
      have stored : row ∈ later.reports :=
        follows.reports row (List.mem_append_right _ List.mem_cons_self)
      have found := find_report (fun other member same =>
        List.inj_on_of_nodup_map follows.reportIds member stored same) stored
      rw [stores.id, stores.tenantId] at found
      obtain ⟨trace, isTrace, -, nodes⟩ : ∃ trace, getTrace env.std later tenantId _ = some trace ∧ _ :=
        getTrace_found found
      refine ⟨trace, isTrace, fun id => ?_⟩
      rw [nodes .decision (by decide), extractDecisionIds_rendered isDocument stores.content]
      refine mem_map_bulkByIds.trans ?_
      cases isPdf reportType with
      | true => simp
      | false =>
          refine (and_iff_left_of_imp fun named => ?_).trans (and_iff_right rfl).symm
          obtain ⟨decision, member, isId, isTenant⟩ := mem_decisionIds.mp named
          obtain ⟨kept, keptIn, sameId, sameTenant⟩ := follows.decisions decision member
          exact ⟨kept, keptIn, sameTenant.trans isTenant, sameId.trans isId⟩

/-- **The trace of a report has its decisions** exactly when the report is a JSON one or the tenant has
no decision. -/
theorem trace_decisions_iff (env : ReportEnv) (tenantId : Uuid) (reportType : String) (now : Timestamp)
    (state later : ReportState) (report : Report Document)
    (created : (generate env tenantId reportType now state).1 = .ok (report, .created))
    (follows : (generate env tenantId reportType now state).2.Precedes later) :
    TracesDecisions env.std later tenantId report.id (readSource tenantId now state.tables) ↔
      (reportType ≠ "executive" ∧ reportType ≠ "technical") ∨
        ∀ decision ∈ state.tables.decisions, decision.tenantId ≠ tenantId := by
  obtain ⟨trace, isTrace, shown⟩ := getTrace_decisions created follows
  have rendersJson : isPdf reportType = false ↔
      reportType ≠ "executive" ∧ reportType ≠ "technical" := by
    simp [isPdf]
  rw [← rendersJson]
  constructor
  · rintro ⟨other, isOther, same⟩
    obtain rfl := Option.some.inj (isTrace.symm.trans isOther)
    by_contra! neither
    obtain ⟨pdf, decision, member, isTenant⟩ := neither
    have named : decision.id ∈ decisionIds tenantId state.tables :=
      mem_decisionIds.mpr ⟨decision, member, rfl, isTenant⟩
    exact pdf ((shown decision.id).mp ((same decision.id).mpr named)).1
  · intro condition
    refine ⟨trace, isTrace, fun id => (shown id).trans ?_⟩
    rcases condition with json | noDecision
    · exact and_iff_right json
    · have unnamed : id ∉ decisionIds tenantId state.tables := by
        intro named
        obtain ⟨decision, member, -, isTenant⟩ := mem_decisionIds.mp named
        exact noDecision decision member isTenant
      exact iff_of_false (fun both => unnamed both.2) unnamed

theorem exists_created {tenantId : Uuid} {reportType : String} {now : Timestamp} {state : ReportState}
    (answer : ((generate env tenantId reportType now state).1.toOption.map Prod.snd) = some .created) :
    ∃ report, (generate env tenantId reportType now state).1 = .ok (report, .created) := by
  obtain ⟨⟨report, status⟩, found, rfl⟩ := Option.map_eq_some_iff.mp answer
  exact ⟨report, toOption_eq_some found⟩

/-- A tenant with a decision and no report. -/
def unreported : ReportState where
  tables := reportedTables [reportedDecision 30 10]
  reports := []
  files := fun _ => none

/-- The trace of a JSON report has the decision. -/
theorem jsonReport_traced :
    ∃ reportId, TracesDecisions reportSample.std
      (generate reportSample 1 "json" ((1767225600 + 43200) * second) unreported).2 1
      reportId (readSource 1 ((1767225600 + 43200) * second) unreported.tables) := by
  have answer : ((generate reportSample 1 "json" ((1767225600 + 43200) * second)
      unreported).1.toOption.map Prod.snd) = some .created := by
    decide +kernel
  obtain ⟨report, created⟩ := exists_created answer
  exact ⟨report.id, (trace_decisions_iff reportSample 1 "json" ((1767225600 + 43200) * second)
    unreported _ report created (.generated List.nodup_nil)).mpr (.inl (by decide))⟩

/-- The trace of an executive report has no decision. -/
theorem executiveReport_untraced :
    ¬ ∀ (env : ReportEnv) (tenantId : Uuid) (reportType : String) (now : Timestamp)
      (state later : ReportState) (report : Report Document),
      (generate env tenantId reportType now state).1 = .ok (report, .created) →
      (generate env tenantId reportType now state).2.Precedes later →
      TracesDecisions env.std later tenantId report.id (readSource tenantId now state.tables) := by
  intro traced
  have answer : ((generate reportSample 1 "executive" ((1767225600 + 43200) * second)
      unreported).1.toOption.map Prod.snd) = some .created := by
    decide +kernel
  obtain ⟨report, created⟩ := exists_created answer
  obtain ⟨trace, isTrace, same⟩ := traced reportSample 1 "executive"
    ((1767225600 + 43200) * second) unreported _ report created (.generated List.nodup_nil)
  obtain ⟨other, isOther, shown⟩ := getTrace_decisions created (.generated List.nodup_nil)
  obtain rfl := Option.some.inj (isTrace.symm.trans isOther)
  have named : 30 ∈ trace.idsOf .decision := (same 30).mpr (by decide)
  exact absurd ((shown 30).mp named).1 (by decide)

end Decisions

end CosMonitor
