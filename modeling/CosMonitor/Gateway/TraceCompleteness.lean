/-
**When a cognitive trace is complete — the references along the chain of a report.**

* `NamesDecision`: the entries of `decision_traces` that the gateway can read;
* `TraceNode.references`: what an artifact refers to;
* `OnChain`: the artifacts of the tenant that the references of a report lead to; the hypothesis that a
  confidence calibrates is a reference that is not followed;
* `TraceLaw`: what a trace is for. It is complete exactly when its report has entries, all of them can be
  read and every reference leads to a row; what is missing or dropped has a warning that names it;
* `trace_law_iff`: when `get_trace` keeps it.
-/

import CosMonitor.Gateway.TraceAgreement

namespace CosMonitor

/-! ### The chain of a report -/

section Chain

/-- An entry of `decision_traces` that names a decision: an object with an object `decision` whose `id` is
the text of an id. -/
def NamesDecision (std : Stdlib) (entry : Json) : Prop :=
  ∃ decision raw, entry.lookup "decision" = some (.obj decision) ∧
    (Json.obj decision).lookup "id" = some raw ∧ raw ≠ .null ∧ (parseUuid (std.str raw)).isSome

/-- The references of an artifact. A confidence refers to what it calibrates where this is a hypothesis. -/
def TraceNode.references (std : Stdlib) : TraceNode → List (NodeType × Uuid)
  | report row => (extractDecisionIds std row.content).map fun id => (.decision, id)
  | decision row => [(.recommendation, row.recommendationId), (.confidence, row.confidenceId)]
  | recommendation row => [(.hypothesis, row.hypothesisId), (.confidence, row.confidenceId)]
  | confidence row =>
      if row.targetType = .hypothesis then [(.hypothesis, row.targetId)] else []
  | hypothesis row =>
      (row.anomalyIds.map fun id => (.anomaly, id)) ++ row.patternIds.map fun id => (.pattern, id)
  | anomaly row => [(.pattern, row.patternId), (.context, row.contextId)]
  | pattern row => [(.context, row.contextId)]
  | context row => row.evidenceIds.map fun id => (.evidence, id)
  | evidence row => row.observationIds.map fun id => (.observation, id)
  | observation _ => []

namespace ReportTables

variable (tables : ReportTables) (tenantId : Uuid)

/-- An artifact of the tenant. -/
def Holds : TraceNode → Prop
  | .report _ => False
  | .decision row => row ∈ tables.decisions ∧ row.tenantId = tenantId
  | .recommendation row => row ∈ tables.recommendations ∧ row.tenantId = tenantId
  | .confidence row => row ∈ tables.confidences ∧ row.tenantId = tenantId
  | .hypothesis row => row ∈ tables.hypotheses ∧ row.tenantId = tenantId
  | .anomaly row => row ∈ tables.anomalies ∧ row.tenantId = tenantId
  | .pattern row => row ∈ tables.patterns ∧ row.tenantId = tenantId
  | .context row => row ∈ tables.contexts ∧ row.tenantId = tenantId
  | .evidence row => row ∈ tables.evidence ∧ row.tenantId = tenantId
  | .observation row => row ∈ tables.observations ∧ row.tenantId = tenantId

/-- A reference leads to a row of the tenant. -/
def Resolves (reference : NodeType × Uuid) : Prop :=
  ∃ node, tables.Holds tenantId node ∧ node.nodeType = reference.1 ∧ node.id = reference.2

/-- The artifacts that the references of a report lead to. -/
inductive OnChain (std : Stdlib) (report : Report Json) : TraceNode → Prop
  | root : OnChain std report (.report report)
  | next {node found : TraceNode} : OnChain std report node → node.nodeType ≠ .confidence →
      (found.nodeType, found.id) ∈ node.references std → tables.Holds tenantId found →
      OnChain std report found

end ReportTables

end Chain

/-! ### What the reads reach -/

section Reached

/-- The reads for a report. -/
def reportReads (std : Stdlib) (tables : ReportTables) (tenantId : Uuid) (report : Report Json) :
    TraceReads where
  tables := tables
  tenantId := tenantId
  decisionIds := extractDecisionIds std report.content

/-- The ids that the reads ask for. -/
def TraceReads.wanted (reads : TraceReads) : NodeType → List Uuid
  | .report => []
  | .decision => reads.decisionIds
  | .recommendation => reads.decisions.map Decision.recommendationId
  | .confidence => reads.decisions.map Decision.confidenceId ++
      reads.recommendations.map fun row => row.confidenceId
  | .hypothesis => reads.recommendations.map fun row => row.hypothesisId
  | .anomaly => reads.hypotheses.flatMap Hypothesis.anomalyIds
  | .pattern => reads.hypotheses.flatMap Hypothesis.patternIds ++ reads.anomalies.map Anomaly.patternId
  | .context => reads.anomalies.map Anomaly.contextId ++ reads.patterns.map fun row => row.contextId
  | .evidence => reads.contexts.flatMap Context.evidenceIds
  | .observation => reads.evidence.flatMap Evidence.observationIds

/-- An artifact is read. -/
def TraceReads.Has (reads : TraceReads) (report : Report Json) : TraceNode → Prop
  | .report row => row = report
  | .decision row => row ∈ reads.decisions
  | .recommendation row => row ∈ reads.recommendations
  | .confidence row => row ∈ reads.confidences
  | .hypothesis row => row ∈ reads.hypotheses
  | .anomaly row => row ∈ reads.anomalies
  | .pattern row => row ∈ reads.patterns
  | .context row => row ∈ reads.contexts
  | .evidence row => row ∈ reads.evidence
  | .observation row => row ∈ reads.observations

variable {std : Stdlib} {tables : ReportTables} {tenantId id : Uuid} {report : Report Json}
  {node : TraceNode} {nodeType : NodeType} {reference : NodeType × Uuid}

theorem TraceReads.mem_nodes_iff (reads : TraceReads) :
    node ∈ reads.nodes report ↔ reads.Has report node := by
  cases node <;> simp [nodes, Has]

theorem TraceReads.mem_idsOf (reads : TraceReads) (report : Report Json)
    (artifact : nodeType ≠ .report) :
    id ∈ reads.idsOf nodeType ↔
      ∃ node, reads.Has report node ∧ node.nodeType = nodeType ∧ node.id = id := by
  simp only [← reads.mem_nodes report artifact, ← reads.mem_nodes_iff]

theorem TraceNode.exists_iff {holds : TraceNode → Prop} : (∃ node, holds node) ↔
    (∃ row, holds (.report row)) ∨ (∃ row, holds (.decision row)) ∨
      (∃ row, holds (.recommendation row)) ∨ (∃ row, holds (.confidence row)) ∨
      (∃ row, holds (.hypothesis row)) ∨ (∃ row, holds (.anomaly row)) ∨
      (∃ row, holds (.pattern row)) ∨ (∃ row, holds (.context row)) ∨
      (∃ row, holds (.evidence row)) ∨ ∃ row, holds (.observation row) := by
  constructor
  · rintro ⟨node, held⟩
    cases node <;> grind
  · rintro (⟨row, held⟩ | ⟨row, held⟩ | ⟨row, held⟩ | ⟨row, held⟩ | ⟨row, held⟩ | ⟨row, held⟩ |
      ⟨row, held⟩ | ⟨row, held⟩ | ⟨row, held⟩ | ⟨row, held⟩) <;> exact ⟨_, held⟩

/-- **An id is read** exactly when it is asked for and leads to a row of the tenant. -/
theorem TraceReads.mem_idsOf_iff (reads : TraceReads) :
    id ∈ reads.idsOf nodeType ↔
      id ∈ reads.wanted nodeType ∧ reads.tables.Resolves reads.tenantId (nodeType, id) := by
  cases nodeType with
  | report => simp [idsOf, wanted]
  | _ =>
      refine mem_map_bulkByIds.trans (and_congr_right fun _ => ?_)
      simp [ReportTables.Resolves, TraceNode.exists_iff, ReportTables.Holds, TraceNode.nodeType,
        TraceNode.id, and_assoc]

theorem mem_wanted_iff :
    id ∈ (reportReads std tables tenantId report).wanted nodeType ↔
      ∃ node, (reportReads std tables tenantId report).Has report node ∧
        node.nodeType ≠ .confidence ∧ (nodeType, id) ∈ node.references std := by
  rw [TraceNode.exists_iff]
  cases nodeType <;>
    simp [TraceReads.wanted, TraceReads.Has, TraceNode.nodeType, TraceNode.references, reportReads,
      eq_comm]

theorem order_lt_of_reference (followed : node.nodeType ≠ .confidence)
    (refers : (nodeType, id) ∈ node.references std) : node.nodeType.order < nodeType.order := by
  cases node with
  | confidence row => exact absurd rfl followed
  | observation row => simp [TraceNode.references] at refers
  | _ =>
      simp only [TraceNode.references, List.mem_map, List.mem_append, List.mem_cons, List.not_mem_nil,
        or_false, Prod.mk.injEq] at refers
      rcases refers with _ | _ <;> simp_all [TraceNode.nodeType, NodeType.order] <;> grind [NodeType.order]

theorem keyedById_sublist {Row : Type} (id : Row → Uuid) (rows : List Row) :
    (keyedById id rows).Sublist rows := by
  induction rows with
  | nil => exact .slnil
  | cons row rest ih =>
      rw [keyedById]
      split
      · exact ih.cons row
      · exact ih.cons_cons row

theorem nodup_map_keyedById {Row : Type} (id : Row → Uuid) (rows : List Row) :
    ((keyedById id rows).map id).Nodup := by
  induction rows with
  | nil => exact List.nodup_nil
  | cons row rest ih =>
      rw [keyedById]
      split
      · exact ih
      · rename_i last
        rw [List.map_cons, List.nodup_cons, mem_map_keyedById]
        refine ⟨fun repeated => last ?_, ih⟩
        obtain ⟨other, member, same⟩ := List.mem_map.mp repeated
        exact List.any_eq_true.mpr ⟨other, member, decide_eq_true same⟩

theorem of_mem_bulkByIds {Row : Type} {tenantOf id : Row → Uuid} {ids : List Uuid} {rows : List Row}
    {row : Row} (read : row ∈ bulkByIds tenantOf id tenantId ids rows) :
    (row ∈ rows ∧ tenantOf row = tenantId) ∧ id row ∈ ids := by
  obtain ⟨member, passed⟩ := List.mem_filter.mp ((keyedById_sublist id _).subset read)
  rw [Bool.and_eq_true, decide_eq_true_eq, decide_eq_true_eq] at passed
  exact ⟨⟨member, passed.1⟩, passed.2⟩

theorem TraceReads.holds_of_has {reads : TraceReads} (read : reads.Has report node)
    (artifact : node.nodeType ≠ .report) :
    reads.tables.Holds reads.tenantId node ∧ node.id ∈ reads.wanted node.nodeType := by
  cases node with
  | report row => exact absurd rfl artifact
  | _ => exact of_mem_bulkByIds read

theorem TraceReads.has_of_holds {reads : TraceReads} (keyed : reads.tables.Keyed)
    (holds : reads.tables.Holds reads.tenantId node) (asked : node.id ∈ reads.wanted node.nodeType)
    (single : node.nodeType ≠ .observation) : reads.Has report node := by
  cases node with
  | report row => exact holds.elim
  | decision row => exact (mem_bulkByIds keyed.decisions).mpr ⟨holds.1, holds.2, asked⟩
  | recommendation row => exact (mem_bulkByIds keyed.recommendations).mpr ⟨holds.1, holds.2, asked⟩
  | confidence row => exact (mem_bulkByIds keyed.confidences).mpr ⟨holds.1, holds.2, asked⟩
  | hypothesis row => exact (mem_bulkByIds keyed.hypotheses).mpr ⟨holds.1, holds.2, asked⟩
  | anomaly row => exact (mem_bulkByIds keyed.anomalies).mpr ⟨holds.1, holds.2, asked⟩
  | pattern row => exact (mem_bulkByIds keyed.patterns).mpr ⟨holds.1, holds.2, asked⟩
  | context row => exact (mem_bulkByIds keyed.contexts).mpr ⟨holds.1, holds.2, asked⟩
  | evidence row => exact (mem_bulkByIds keyed.evidence).mpr ⟨holds.1, holds.2, asked⟩
  | observation row => exact absurd rfl single

/-- **The reads walk the chain**: what they read is on it. -/
theorem onChain_of_has (read : (reportReads std tables tenantId report).Has report node) :
    tables.OnChain tenantId std report node := by
  induction rank : node.nodeType.order using Nat.strong_induction_on generalizing node with
  | _ rank ih =>
      subst rank
      by_cases isReport : node.nodeType = .report
      · cases node with
        | report row =>
            obtain rfl : row = report := read
            exact .root
        | _ => simp [TraceNode.nodeType] at isReport
      · obtain ⟨holds, asked⟩ := TraceReads.holds_of_has read isReport
        obtain ⟨holder, holderRead, followed, refers⟩ := mem_wanted_iff.mp asked
        exact .next (ih _ (order_lt_of_reference followed refers) holderRead rfl) followed refers holds

theorem has_of_onChain (keyed : tables.Keyed) (chained : tables.OnChain tenantId std report node)
    (single : node.nodeType ≠ .observation) :
    (reportReads std tables tenantId report).Has report node := by
  induction chained with
  | root => exact rfl
  | @next node found chained followed refers holds ih =>
      have holder : node.nodeType ≠ .observation := by
        intro isObservation
        cases node with
        | observation row => simp [TraceNode.references] at refers
        | _ => simp [TraceNode.nodeType] at isObservation
      exact TraceReads.has_of_holds keyed holds
        (mem_wanted_iff.mpr ⟨node, ih holder, followed, refers⟩) single

theorem forall_chain_iff (keyed : tables.Keyed) {holds : NodeType × Uuid → Prop} :
    (∀ node, tables.OnChain tenantId std report node → ∀ reference ∈ node.references std,
        holds reference) ↔
      ∀ node, (reportReads std tables tenantId report).Has report node →
        ∀ reference ∈ node.references std, holds reference := by
  constructor
  · intro all node read
    exact all node (onChain_of_has read)
  · intro all node chained reference refers
    by_cases isObservation : node.nodeType = .observation
    · cases node with
      | observation row => simp [TraceNode.references] at refers
      | _ => simp [TraceNode.nodeType] at isObservation
    · exact all node (has_of_onChain keyed chained isObservation) reference refers

end Reached

/-! ### The warnings -/

section Warnings

/-- The name of a type. -/
def NodeType.name : NodeType → String
  | report => "report"
  | decision => "decision"
  | recommendation => "recommendation"
  | confidence => "confidence"
  | hypothesis => "hypothesis"
  | anomaly => "anomaly"
  | pattern => "pattern"
  | context => "context"
  | evidence => "evidence"
  | observation => "observation"

/-- A warning names an artifact: it starts with its type and its id. -/
def NamesArtifact (warning : String) (reference : NodeType × Uuid) : Prop :=
  ∃ rest, warning = reference.1.name ++ " " ++ uuidText reference.2 ++ rest

variable {std : Stdlib} {tables : ReportTables} {tenantId id : Uuid} {report : Report Json}
  {node : TraceNode} {reference : NodeType × Uuid} {warning : String}

theorem mem_warnMissing {found : List Uuid} {kind reason : String} {holder target : Uuid} :
    warning ∈ warnMissing found kind reason holder target ↔
      target ∉ found ∧ warning = kind ++ " " ++ uuidText target ++ " " ++ reason ++ " " ++
        uuidText holder ++ " not found" := by
  unfold warnMissing
  split <;> simp_all

theorem names_of_mem_warnMissing {found : List Uuid} {reason : String} {holder : Uuid}
    (warned : warning ∈ warnMissing found reference.1.name reason holder reference.2) :
    NamesArtifact warning reference := by
  obtain ⟨-, rfl⟩ := mem_warnMissing.mp warned
  refine ⟨" " ++ reason ++ " " ++ uuidText holder ++ " not found", ?_⟩
  simp only [String.append_assoc]

theorem exists_mem_warnMissing {found : List Uuid} (reason : String) (holder : Uuid)
    (missing : reference.2 ∉ found) :
    ∃ warning ∈ warnMissing found reference.1.name reason holder reference.2,
      NamesArtifact warning reference := by
  exact ⟨_, mem_warnMissing.mpr ⟨missing, rfl⟩,
    names_of_mem_warnMissing (mem_warnMissing.mpr ⟨missing, rfl⟩)⟩

/-- How a warning says which artifact refers to the missing one. -/
def NodeType.reason : NodeType → String
  | decision => "for decision"
  | recommendation => "for recommendation"
  | confidence => "for confidence"
  | other => "referenced by " ++ other.name

/-- The warnings about the references of an artifact. -/
def TraceReads.warningsOf (reads : TraceReads) (std : Stdlib) : TraceNode → List String
  | .report _ => (reads.decisionIds.dedup.filter fun id => decide (id ∉ reads.idsOf .decision)).map
      fun id => "decision " ++ uuidText id ++ " referenced by report not found"
  | node => (node.references std).flatMap fun reference =>
      warnMissing (reads.idsOf reference.1) reference.1.name node.nodeType.reason node.id reference.2

theorem mem_validateProvenance (std : Stdlib) (reads : TraceReads) (report : Report Json) :
    warning ∈ reads.validateProvenance ↔
      ∃ node, reads.Has report node ∧ warning ∈ reads.warningsOf std node := by
  have confidences (row : Confidence) : (warning ∈ if row.targetType = .hypothesis then
        warnMissing (reads.idsOf .hypothesis) "hypothesis" "for confidence" row.id row.targetId
      else []) ↔ warning ∈ reads.warningsOf std (.confidence row) := by
    by_cases calibrates : row.targetType = .hypothesis
    · simp [TraceReads.warningsOf, TraceNode.references, calibrates, NodeType.name, NodeType.reason,
        TraceNode.nodeType, TraceNode.id]
    · simp [TraceReads.warningsOf, TraceNode.references, calibrates]
  rw [TraceNode.exists_iff]
  simp only [← confidences]
  simp [TraceReads.validateProvenance, TraceReads.warningsOf, TraceReads.Has, TraceReads.idsOf,
    TraceNode.references, NodeType.name, NodeType.reason, TraceNode.nodeType, TraceNode.id]

/-- **A warning about an artifact names a missing reference**, and every missing reference is named. -/
theorem mem_warningsOf (read : (reportReads std tables tenantId report).Has report node) :
    (∀ warning ∈ (reportReads std tables tenantId report).warningsOf std node,
      ∃ reference ∈ node.references std,
        reference.2 ∉ (reportReads std tables tenantId report).idsOf reference.1 ∧
          NamesArtifact warning reference) ∧
    ∀ reference ∈ node.references std,
      reference.2 ∉ (reportReads std tables tenantId report).idsOf reference.1 →
      ∃ warning ∈ (reportReads std tables tenantId report).warningsOf std node,
        NamesArtifact warning reference := by
  cases node with
  | report row =>
      obtain rfl : row = report := read
      constructor
      · intro warning warned
        obtain ⟨id, listed, rfl⟩ := List.mem_map.mp warned
        obtain ⟨named, missing⟩ := List.mem_filter.mp listed
        exact ⟨(.decision, id), List.mem_map.mpr ⟨id, List.mem_dedup.mp named, rfl⟩,
          of_decide_eq_true missing, " referenced by report not found", rfl⟩
      · intro reference refers missing
        obtain ⟨id, named, rfl⟩ := List.mem_map.mp refers
        exact ⟨_, List.mem_map.mpr ⟨id, List.mem_filter.mpr ⟨List.mem_dedup.mpr named,
          decide_eq_true missing⟩, rfl⟩, " referenced by report not found", rfl⟩
  | _ =>
      constructor
      · intro warning warned
        obtain ⟨reference, refers, warned⟩ := List.mem_flatMap.mp warned
        exact ⟨reference, refers, (mem_warnMissing.mp warned).1, names_of_mem_warnMissing warned⟩
      · intro reference refers missing
        obtain ⟨warning, warned, names⟩ := exists_mem_warnMissing _ _ missing
        exact ⟨warning, List.mem_flatMap.mpr ⟨reference, refers, warned⟩, names⟩

theorem validateProvenance_eq_nil :
    (reportReads std tables tenantId report).validateProvenance = [] ↔
      ∀ node, (reportReads std tables tenantId report).Has report node →
        ∀ reference ∈ node.references std,
          reference.2 ∈ (reportReads std tables tenantId report).idsOf reference.1 := by
  constructor
  · intro silent node read reference refers
    by_contra missing
    obtain ⟨warning, warned, -⟩ := (mem_warningsOf read).2 reference refers missing
    have inside := (mem_validateProvenance std _ report).mpr ⟨node, read, warned⟩
    rw [silent] at inside
    exact List.not_mem_nil inside
  · intro found
    refine List.eq_nil_iff_forall_not_mem.mpr fun warning inside => ?_
    obtain ⟨node, read, warned⟩ := (mem_validateProvenance std _ report).mp inside
    obtain ⟨reference, refers, missing, -⟩ := (mem_warningsOf read).1 warning warned
    exact missing (found node read reference refers)

end Warnings

/-! ### Nodes and edges -/

section Graph

variable {std : Stdlib} {tables : ReportTables} {tenantId id : Uuid} {report : Report Json}
  {node : TraceNode} {reads : TraceReads}

theorem tenantId_of_holds (holds : tables.Holds tenantId node) : node.tenantId = tenantId := by
  cases node with
  | report row => exact holds.elim
  | _ => exact holds.2

theorem tenantId_of_has (read : reads.Has report node) (own : report.tenantId = reads.tenantId) :
    node.tenantId = reads.tenantId := by
  by_cases isReport : node.nodeType = .report
  · cases node with
    | report row =>
        obtain rfl : row = report := read
        exact own
    | _ => simp [TraceNode.nodeType] at isReport
  · exact tenantId_of_holds (TraceReads.holds_of_has read isReport).1

theorem mem_edgeTo {found : List Uuid} {source target : Uuid} {relation : String} {edge : TraceEdge} :
    edge ∈ edgeTo found source relation target ↔
      target ∈ found ∧ edge = { source, target, relation } := by
  unfold edgeTo
  split <;> simp_all

/-- The relation of an artifact of one type to one of another that it refers to. -/
def NodeType.relation : NodeType → NodeType → String
  | .report, _ => "documents"
  | .decision, .recommendation => "commits"
  | .decision, _ => "calibrated_by"
  | .recommendation, .hypothesis => "explains"
  | .recommendation, _ => "carries"
  | .confidence, _ => "calibrates"
  | .hypothesis, .anomaly => "accounts_for"
  | .hypothesis, _ => "refers_to"
  | .anomaly, .pattern => "deviates_from"
  | .anomaly, _ => "contextualized_by"
  | .pattern, _ => "contextualized_by"
  | .context, _ => "organizes"
  | .evidence, _ => "observes"
  | .observation, _ => ""

/-- The edges from an artifact. -/
def TraceReads.edgesOf (reads : TraceReads) (std : Stdlib) (node : TraceNode) : List TraceEdge :=
  (node.references std).flatMap fun reference =>
    edgeTo (reads.idsOf reference.1) node.id (node.nodeType.relation reference.1) reference.2

/-- **The edges are the references that were found.** -/
theorem mem_edges (reads : TraceReads) (named : extractDecisionIds std report.content = reads.decisionIds)
    {edge : TraceEdge} :
    edge ∈ reads.edges report ↔ ∃ node, reads.Has report node ∧ edge ∈ reads.edgesOf std node := by
  have confidences (row : Confidence) : (edge ∈ if row.targetType = .hypothesis then
        edgeTo (reads.idsOf .hypothesis) row.id "calibrates" row.targetId else []) ↔
      edge ∈ reads.edgesOf std (.confidence row) := by
    by_cases calibrates : row.targetType = .hypothesis
    · simp [TraceReads.edgesOf, TraceNode.references, calibrates, NodeType.relation,
        TraceNode.nodeType, TraceNode.id]
    · simp [TraceReads.edgesOf, TraceNode.references, calibrates]
  rw [TraceNode.exists_iff]
  simp only [← confidences]
  simp [named, TraceReads.edges, TraceReads.edgesOf, TraceReads.Has, TraceReads.idsOf,
    TraceNode.references, NodeType.relation, TraceNode.nodeType, TraceNode.id]

/-- **Every edge joins two nodes.** -/
theorem edge_endpoints {edge : TraceEdge}
    (inside : edge ∈ (reportReads std tables tenantId report).edges report) :
    (∃ node, (reportReads std tables tenantId report).Has report node ∧ node.id = edge.source) ∧
      ∃ node, (reportReads std tables tenantId report).Has report node ∧ node.id = edge.target := by
  obtain ⟨node, read, joins⟩ := (mem_edges _ rfl).mp inside
  obtain ⟨reference, refers, joins⟩ := List.mem_flatMap.mp joins
  obtain ⟨found, rfl⟩ := mem_edgeTo.mp joins
  have artifact : reference.1 ≠ .report := by
    intro isReport
    rw [isReport] at found
    exact List.not_mem_nil found
  obtain ⟨target, targetRead, -, isTarget⟩ :=
    ((reportReads std tables tenantId report).mem_idsOf report artifact).mp found
  exact ⟨⟨node, read, rfl⟩, target, targetRead, isTarget⟩

/-- The types of the artifacts that are read. -/
def NodeType.artifacts : List NodeType :=
  [decision, recommendation, confidence, hypothesis, anomaly, pattern, context, evidence, observation]

theorem nodup_idsOf (reads : TraceReads) (nodeType : NodeType) : (reads.idsOf nodeType).Nodup := by
  cases nodeType with
  | report => exact List.nodup_nil
  | _ => exact nodup_map_keyedById _ _

/-- **No artifact is two nodes.** -/
theorem nodup_nodes (reads : TraceReads) (report : Report Json) :
    ((reads.nodes report).map fun node => (node.nodeType, node.id)).Nodup := by
  have byType : (reads.nodes report).map (fun node => (node.nodeType, node.id)) =
      (.report, report.id) :: NodeType.artifacts.flatMap fun nodeType =>
        (reads.idsOf nodeType).map fun id => (nodeType, id) := by
    simp [TraceReads.nodes, NodeType.artifacts, TraceReads.idsOf, TraceNode.nodeType, TraceNode.id,
      Function.comp_def]
  rw [byType, List.nodup_cons, List.nodup_flatMap]
  refine ⟨?_, fun nodeType _ => ?_, ?_⟩
  · simp [NodeType.artifacts]
  · exact (nodup_idsOf reads nodeType).map fun _ _ same => (Prod.mk.inj same).2
  · have distinct : NodeType.artifacts.Nodup := by decide
    refine distinct.imp fun differ pair inFirst inSecond => ?_
    obtain ⟨id, _, rfl⟩ := List.mem_map.mp inFirst
    obtain ⟨_, _, same⟩ := List.mem_map.mp inSecond
    exact differ (Prod.mk.inj same).1.symm

end Graph

/-! ### What a trace is for -/

section Law

/-- `get_trace`, whatever the stored content is: `content.get` raises where it is neither falsy nor an
object. -/
def loadTrace (std : Stdlib) (state : ReportState) (tenantId reportId : Uuid) :
    Except PyError (Option CognitiveTrace) :=
  match state.reports.find? fun row => decide (row.tenantId = tenantId) && decide (row.id = reportId) with
  | none => .ok none
  | some report =>
      if report.content.truthy && !report.content.isDict then .error (.attributeError "get")
      else .ok (getTrace std state tenantId reportId)

/-- A report has entries, and all of them name a decision. -/
def EntriesReadable (std : Stdlib) (content : Json) : Prop :=
  listedTraces content ≠ [] ∧ ∀ entry ∈ listedTraces content, NamesDecision std entry

/-- Every reference along the chain of a report leads to a row. -/
def ChainResolves (std : Stdlib) (tables : ReportTables) (tenantId : Uuid) (report : Report Json) : Prop :=
  ∀ node, tables.OnChain tenantId std report node → ∀ reference ∈ node.references std,
    tables.Resolves tenantId reference

/-- Each hypothesis that a confidence of the chain calibrates is one that a recommendation of the chain
names. -/
def CalibratesNamed (std : Stdlib) (tables : ReportTables) (tenantId : Uuid) (report : Report Json) :
    Prop :=
  ∀ confidence, tables.OnChain tenantId std report (.confidence confidence) →
    confidence.targetType = .hypothesis →
    ∃ recommendation, tables.OnChain tenantId std report (.recommendation recommendation) ∧
      recommendation.hypothesisId = confidence.targetId

/-- A warning names an entry of `decision_traces`: it is about no artifact and tells the position of the entry.
A malformed entry has nothing else that tells it from the others. -/
def NamesEntry (warning : String) (index : ℕ) : Prop :=
  (∀ reference : NodeType × Uuid, reference.1 ≠ .report → ¬ NamesArtifact warning reference) ∧
    ∃ before after, warning = before ++ toString index ++ after

/-- What a trace is for. -/
structure TraceLaw (std : Stdlib) (tables : ReportTables) (tenantId : Uuid) (report : Report Json)
    (trace : CognitiveTrace) : Prop where
  endpoints : ∀ edge ∈ trace.edges, (∃ node ∈ trace.nodes, node.id = edge.source) ∧
    ∃ node ∈ trace.nodes, node.id = edge.target
  unique : (trace.nodes.map fun node => (node.nodeType, node.id)).Nodup
  isolated : ∀ node ∈ trace.nodes, node.tenantId = tenantId
  complete : trace.completeness = "complete" ↔
    EntriesReadable std report.content ∧ ChainResolves std tables tenantId report
  missing : ∀ node, tables.OnChain tenantId std report node → ∀ reference ∈ node.references std,
    ¬ tables.Resolves tenantId reference → ∃ warning ∈ trace.warnings, NamesArtifact warning reference
  dropped : ∀ index entry, (listedTraces report.content)[index]? = some entry →
    ¬ NamesDecision std entry → ∃ warning ∈ trace.warnings, NamesEntry warning index

/-- When a trace is what it is for. -/
structure TraceCondition (std : Stdlib) (tables : ReportTables) (tenantId : Uuid)
    (report : Report Json) : Prop where
  readable : report.content.truthy → report.content.isDict
  entries : ∀ entry ∈ listedTraces report.content, NamesDecision std entry
  calibrated : EntriesReadable std report.content → ChainResolves std tables tenantId report →
    CalibratesNamed std tables tenantId report

variable {std : Stdlib} {tables : ReportTables} {tenantId id : Uuid} {report : Report Json}

theorem namesDecision_iff {entry : Json} :
    NamesDecision std entry ↔ (extractDecisionId std entry).isSome := by
  unfold NamesDecision extractDecisionId
  split
  · rename_i decision isDecision
    simp only [isDecision, Option.some.injEq, Json.obj.injEq, exists_and_left, exists_eq_left']
    split
    · rename_i unnamed
      simp [unnamed]
    · rename_i null
      simp [null]
    · rename_i raw present named
      simp only [named, Option.some.injEq, exists_eq_left']
      exact and_iff_right present
  · rename_i noDecision
    simp only [Option.isSome_none, Bool.false_eq_true, iff_false]
    rintro ⟨decision, raw, isDecision, -⟩
    exact noDecision decision isDecision

theorem extractDecisionIds_eq (content : Json) :
    extractDecisionIds std content = (listedTraces content).filterMap (extractDecisionId std) := by
  unfold extractDecisionIds listedTraces
  cases content.lookup "decision_traces" with
  | none => rfl
  | some value => cases value <;> rfl

theorem extractDecisionIds_eq_nil (content : Json) :
    extractDecisionIds std content = [] ↔ ∀ entry ∈ listedTraces content, ¬ NamesDecision std entry := by
  rw [extractDecisionIds_eq, List.filterMap_eq_nil_iff]
  simp only [namesDecision_iff, Option.not_isSome_iff_eq_none]

/-- **All references are found** exactly when they lead to rows and the calibrated hypotheses are those of
the recommendations. -/
theorem all_found_iff (keyed : tables.Keyed) :
    (∀ node, (reportReads std tables tenantId report).Has report node →
        ∀ reference ∈ node.references std,
          reference.2 ∈ (reportReads std tables tenantId report).idsOf reference.1) ↔
      ChainResolves std tables tenantId report ∧ CalibratesNamed std tables tenantId report := by
  rw [ChainResolves, forall_chain_iff keyed]
  constructor
  · intro found
    refine ⟨fun node read reference refers => ?_, fun confidence chained calibrates => ?_⟩
    · exact ((TraceReads.mem_idsOf_iff _).mp (found node read reference refers)).2
    · have read := has_of_onChain keyed chained (fun same => nomatch same)
      have refers : (NodeType.hypothesis, confidence.targetId) ∈
          (TraceNode.confidence confidence).references std := by
        rw [TraceNode.references, if_pos calibrates]
        exact List.mem_singleton_self _
      have asked := ((TraceReads.mem_idsOf_iff _).mp (found _ read _ refers)).1
      obtain ⟨recommendation, listed, isTarget⟩ := List.mem_map.mp asked
      exact ⟨recommendation, onChain_of_has listed, isTarget⟩
  · rintro ⟨resolves, named⟩ node read reference refers
    refine (TraceReads.mem_idsOf_iff _).mpr ⟨?_, resolves node read reference refers⟩
    by_cases isConfidence : node.nodeType = .confidence
    · cases node with
      | confidence confidence =>
          rw [TraceNode.references] at refers
          split at refers
          · rename_i calibrates
            obtain rfl := List.mem_singleton.mp refers
            obtain ⟨recommendation, chained, isTarget⟩ :=
              named confidence (onChain_of_has read) calibrates
            have listed := has_of_onChain keyed chained (fun same => nomatch same)
            exact List.mem_map.mpr ⟨recommendation, listed, isTarget⟩
          · exact absurd refers List.not_mem_nil
      | _ => simp [TraceNode.nodeType] at isConfidence
    · exact mem_wanted_iff.mpr ⟨node, read, isConfidence, refers⟩

/-- The trace of a report in which no entry names a decision. -/
def rootTrace (report : Report Json) : CognitiveTrace where
  root := report
  nodes := [.report report]
  edges := []
  warnings := ["report has no decision_traces to trace"]

theorem rootTrace_warning (index : ℕ) : ¬ NamesEntry "report has no decision_traces to trace" index := by
  rintro ⟨-, before, after, same⟩
  have digits : Nat.toDigits 10 index ≠ [] := Nat.toDigits_ne_nil
  obtain ⟨digit, rest, written⟩ := List.exists_cons_of_ne_nil digits
  have isDigit : digit.isDigit = true := by
    have member : digit ∈ Nat.toDigits 10 index := by
      rw [written]
      exact List.mem_cons_self
    exact Nat.isDigit_of_mem_toDigits (by decide) (by decide) member
  have inside : digit ∈ "report has no decision_traces to trace".toList := by
    have isText : (toString index).toList = Nat.toDigits 10 index := by
      show (Nat.repr index).toList = _
      simp
    rw [same, String.toList_append, String.toList_append, isText, written]
    simp
  have noDigit : ∀ character ∈ "report has no decision_traces to trace".toList,
      character.isDigit = false := by simp
  rw [noDigit digit inside] at isDigit
  cases isDigit

theorem onChain_root (none : extractDecisionIds std report.content = []) {node : TraceNode}
    (chained : tables.OnChain tenantId std report node) : node = .report report := by
  induction chained with
  | root => rfl
  | next above followed refers holds ih =>
      rw [ih, TraceNode.references, none] at refers
      exact absurd refers List.not_mem_nil

theorem rootTrace_law_iff (none : extractDecisionIds std report.content = [])
    (own : report.tenantId = tenantId) :
    TraceLaw std tables tenantId report (rootTrace report) ↔
      ∀ entry ∈ listedTraces report.content, NamesDecision std entry := by
  have unnamed := (extractDecisionIds_eq_nil report.content).mp none
  constructor
  · intro law entry inside
    obtain ⟨index, found⟩ := List.getElem?_of_mem inside
    obtain ⟨warning, warned, names⟩ := law.dropped index entry found (unnamed entry inside)
    rw [List.mem_singleton.mp warned] at names
    exact absurd names (rootTrace_warning index)
  · intro all
    exact {
      endpoints := fun _ inside => nomatch inside
      unique := List.nodup_singleton _
      isolated := fun node inside => by
        rw [List.mem_singleton.mp inside]
        exact own
      complete := by
        have partly : (rootTrace report).completeness ≠ "complete" := by
          simp [rootTrace, CognitiveTrace.completeness]
        refine iff_of_false partly ?_
        rintro ⟨⟨some, -⟩, -⟩
        obtain ⟨entry, inside⟩ := List.exists_mem_of_ne_nil _ some
        exact unnamed entry inside (all entry inside)
      missing := by
        intro node chained reference refers
        rw [onChain_root none chained, TraceNode.references, none] at refers
        exact absurd refers List.not_mem_nil
      dropped := fun _ entry found malformed =>
        absurd (all entry (List.mem_of_getElem? found)) malformed }

/-- The trace of a report with a decision. -/
def readTrace (std : Stdlib) (tables : ReportTables) (tenantId : Uuid) (report : Report Json) :
    CognitiveTrace where
  root := report
  nodes := Sorting.sortBy (fun node => toLex (node.nodeType.order, node.id))
    ((reportReads std tables tenantId report).nodes report)
  edges := Sorting.sortBy (fun edge => toLex (edge.source, toLex (edge.target, edge.relation)))
    ((reportReads std tables tenantId report).edges report).dedup
  warnings := (reportReads std tables tenantId report).validateProvenance

theorem readTrace_complete (keyed : tables.Keyed) :
    (readTrace std tables tenantId report).completeness = "complete" ↔
      ChainResolves std tables tenantId report ∧ CalibratesNamed std tables tenantId report := by
  rw [← all_found_iff keyed, ← validateProvenance_eq_nil]
  unfold CognitiveTrace.completeness readTrace
  dsimp only
  rw [← List.isEmpty_iff]
  split
  · rename_i silent
    exact iff_of_true rfl silent
  · rename_i warned
    exact iff_of_false (by decide) warned

theorem readTrace_warning {warning : String}
    (warned : warning ∈ (readTrace std tables tenantId report).warnings) :
    ∃ reference : NodeType × Uuid, reference.1 ≠ .report ∧ NamesArtifact warning reference := by
  obtain ⟨node, read, inside⟩ := (mem_validateProvenance std _ report).mp warned
  obtain ⟨reference, refers, -, names⟩ := (mem_warningsOf read).1 warning inside
  refine ⟨reference, fun isReport => ?_, names⟩
  by_cases isConfidence : node.nodeType = .confidence
  · cases node with
    | confidence confidence =>
        rw [TraceNode.references] at refers
        split at refers
        · rw [List.mem_singleton.mp refers] at isReport
          cases isReport
        · exact absurd refers List.not_mem_nil
    | _ => simp [TraceNode.nodeType] at isConfidence
  · have refersTo : (reference.1, reference.2) ∈ node.references std := refers
    have below := order_lt_of_reference isConfidence refersTo
    rw [isReport] at below
    exact absurd below (Nat.not_lt_zero _)

/-- **The trace of a report with a decision** keeps the law exactly when every entry names one and, should
the chain resolve, the calibrated hypotheses are those of the recommendations. -/
theorem readTrace_law_iff (keyed : tables.Keyed) (some : extractDecisionIds std report.content ≠ [])
    (own : report.tenantId = tenantId) :
    TraceLaw std tables tenantId report (readTrace std tables tenantId report) ↔
      (∀ entry ∈ listedTraces report.content, NamesDecision std entry) ∧
        (EntriesReadable std report.content → ChainResolves std tables tenantId report →
          CalibratesNamed std tables tenantId report) := by
  have mem_nodes {node : TraceNode} : node ∈ (readTrace std tables tenantId report).nodes ↔
      (reportReads std tables tenantId report).Has report node :=
    Sorting.mem_sortBy.trans (TraceReads.mem_nodes_iff _)
  have listed : listedTraces report.content ≠ [] := by
    intro none
    rw [extractDecisionIds_eq, none] at some
    exact some rfl
  constructor
  · intro law
    have all : ∀ entry ∈ listedTraces report.content, NamesDecision std entry := by
      by_contra! malformed
      obtain ⟨entry, inside, unnamed⟩ := malformed
      obtain ⟨index, found⟩ := List.getElem?_of_mem inside
      obtain ⟨warning, warned, unrelated, -⟩ := law.dropped index entry found unnamed
      obtain ⟨reference, artifact, names⟩ := readTrace_warning warned
      exact unrelated reference artifact names
    refine ⟨all, fun readable resolves => ?_⟩
    exact ((readTrace_complete keyed).mp (law.complete.mpr ⟨readable, resolves⟩)).2
  · rintro ⟨all, calibrated⟩
    exact {
      endpoints := fun edge inside => by
        obtain ⟨⟨source, sourceRead, isSource⟩, target, targetRead, isTarget⟩ :=
          edge_endpoints (List.mem_dedup.mp (Sorting.mem_sortBy.mp inside))
        exact ⟨⟨source, mem_nodes.mpr sourceRead, isSource⟩, target, mem_nodes.mpr targetRead, isTarget⟩
      unique := ((Sorting.sortBy_perm _ _).map _).nodup_iff.mpr (nodup_nodes _ _)
      isolated := fun node inside => tenantId_of_has (mem_nodes.mp inside) own
      complete := by
        rw [readTrace_complete keyed]
        constructor
        · rintro ⟨resolves, -⟩
          exact ⟨⟨listed, all⟩, resolves⟩
        · rintro ⟨readable, resolves⟩
          exact ⟨resolves, calibrated readable resolves⟩
      missing := by
        intro node chained reference refers unresolved
        have read : (reportReads std tables tenantId report).Has report node := by
          refine has_of_onChain keyed chained fun isObservation => ?_
          cases node with
          | observation row => exact absurd refers List.not_mem_nil
          | _ => simp [TraceNode.nodeType] at isObservation
        obtain ⟨warning, warned, names⟩ := (mem_warningsOf read).2 reference refers fun found =>
          unresolved ((TraceReads.mem_idsOf_iff _).mp found).2
        exact ⟨warning, (mem_validateProvenance std _ report).mpr ⟨node, read, warned⟩, names⟩
      dropped := fun _ entry found unnamed =>
        absurd (all entry (List.mem_of_getElem? found)) unnamed }

end Law

/-! ### A report with a malformed entry -/

/-- A stored report with some entries. -/
def entriesReport (entries : List Json) : Report Json where
  id := 77
  tenantId := 1
  reportType := "json"
  title := ""
  summary := ""
  content := .obj [("decision_traces", .arr entries)]
  aiGenerated := false
  modelUsed := none
  periodStart := dateOf 1767225600000000
  periodEnd := dateOf 1767225600000000
  generatedAt := 0
  filePath := ""

/-- An entry that names a decision. -/
def decisionEntry (id : Uuid) : Json :=
  .obj [("decision", .obj [("id", idValue id)])]

/-- The decision of the report, and everything that it refers to. -/
def entriesState (entries : List Json) : ReportState where
  tables :=
    { reportedTables [{ reportedDecision 30 10 with recommendationId := 31 }] with
      recommendations := [crashOffer 21]
      confidences := [crashConfidence 21 5 0]
      hypotheses := [{ crashHypothesis "supported" with anomalyIds := [], patternIds := [] }] }
  reports := [entriesReport entries]
  files := fun _ => none

theorem entriesState_keyed (entries : List Json) : (entriesState entries).tables.Keyed where
  decisions := List.nodup_singleton _
  recommendations := List.nodup_singleton _
  contexts := List.nodup_nil
  confidences := List.nodup_singleton _
  hypotheses := List.nodup_singleton _
  anomalies := List.nodup_nil
  patterns := List.nodup_nil
  evidence := List.nodup_nil

theorem decisionEntry_names (std : Stdlib) (id : Uuid) : NamesDecision std (decisionEntry id) := by
  have isText : (parseUuid (std.str (idValue id))).isSome := by
    show (parseUuid (uuidText id)).isSome
    rw [parseUuid_uuidText]
    rfl
  exact ⟨[("id", idValue id)], idValue id, rfl, rfl, (fun same => nomatch same), isText⟩

end CosMonitor
