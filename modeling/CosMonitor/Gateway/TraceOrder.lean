/-
**What the order of the rows leaves of a cognitive trace.**

* `TraceOrder`: the order in which the queries return their rows and a set of ids is iterated;
* `TraceOrder.load`: `get_trace` in such an order;
* `TraceOrder.edges_eq`: the edges are the same in every order;
* `OrderForced`: of the decisions that a report names at most one is missing, of each type at most one artifact
  refers to a missing one, and no observation is captured twice under one id;
* `trace_order_iff`: `get_trace` answers the same in every order exactly then.
-/

import CosMonitor.Foundation.Listings
import CosMonitor.Gateway.TraceCompleteness

namespace CosMonitor

/-! ### Orders -/

section Orders

/-- Tables with the same rows. -/
structure ReportTables.SameRows (tables rows : ReportTables) : Prop where
  decisions : rows.decisions.Perm tables.decisions
  recommendations : rows.recommendations.Perm tables.recommendations
  contexts : rows.contexts.Perm tables.contexts
  confidences : rows.confidences.Perm tables.confidences
  hypotheses : rows.hypotheses.Perm tables.hypotheses
  anomalies : rows.anomalies.Perm tables.anomalies
  patterns : rows.patterns.Perm tables.patterns
  evidence : rows.evidence.Perm tables.evidence
  observations : rows.observations.Perm tables.observations

/-- The order of the rows of a query is the one of the tables, and a set is iterated in some order. -/
structure TraceOrder (tables : ReportTables) where
  rows : ReportTables
  sameRows : tables.SameRows rows
  iterate : List Uuid → List Uuid
  iterates : ∀ ids, (iterate ids).Perm ids

end Orders

/-! ### A trace in some order -/

section Load

namespace TraceReads

variable (reads : TraceReads)

/-- `decision_id_strs - found_decision_strs`. -/
def missing : List Uuid :=
  reads.decisionIds.dedup.filter fun id => decide (id ∉ reads.idsOf .decision)

/-- The artifacts of a type that the reads find. -/
def nodesOf : NodeType → List TraceNode
  | .report => []
  | .decision => reads.decisions.map .decision
  | .recommendation => reads.recommendations.map .recommendation
  | .confidence => reads.confidences.map .confidence
  | .hypothesis => reads.hypotheses.map .hypothesis
  | .anomaly => reads.anomalies.map .anomaly
  | .pattern => reads.patterns.map .pattern
  | .context => reads.contexts.map .context
  | .evidence => reads.evidence.map .evidence
  | .observation => reads.observations.map .observation

/-- `_validate_provenance`, where the missing decisions come in some order. -/
def warningsIn (std : Stdlib) (missing : List Uuid) : List String :=
  (missing.map fun id => "decision " ++ uuidText id ++ " referenced by report not found") ++
    NodeType.artifacts.flatMap fun nodeType =>
      (reads.nodesOf nodeType).flatMap (reads.warningsOf std)

end TraceReads

variable {tables : ReportTables} {state : ReportState}

/-- The trace of a report with a decision. -/
def TraceOrder.trace (order : TraceOrder tables) (std : Stdlib) (tenantId : Uuid)
    (report : Report Json) : CognitiveTrace :=
  { readTrace std order.rows tenantId report with
    warnings := (reportReads std order.rows tenantId report).warningsIn std
      (order.iterate (reportReads std order.rows tenantId report).missing) }

/-- `get_trace`. -/
def TraceOrder.load (order : TraceOrder state.tables) (std : Stdlib) (tenantId reportId : Uuid) :
    Except PyError (Option CognitiveTrace) :=
  match state.reports.find? fun row => decide (row.tenantId = tenantId) && decide (row.id = reportId) with
  | none => .ok none
  | some report =>
      if report.content.truthy && !report.content.isDict then .error (.attributeError "get")
      else if (extractDecisionIds std report.content).isEmpty then .ok (some (rootTrace report))
      else .ok (some (order.trace std tenantId report))

/-- The order of the tables, and of the report. -/
def TraceOrder.listed (tables : ReportTables) : TraceOrder tables where
  rows := tables
  sameRows := ⟨.refl _, .refl _, .refl _, .refl _, .refl _, .refl _, .refl _, .refl _, .refl _⟩
  iterate := id
  iterates := .refl

/-- The opposite order. -/
def TraceOrder.reversed (tables : ReportTables) : TraceOrder tables where
  rows :=
    { tables with
      decisions := tables.decisions.reverse
      recommendations := tables.recommendations.reverse
      contexts := tables.contexts.reverse
      confidences := tables.confidences.reverse
      hypotheses := tables.hypotheses.reverse
      anomalies := tables.anomalies.reverse
      patterns := tables.patterns.reverse
      evidence := tables.evidence.reverse
      observations := tables.observations.reverse }
  sameRows := ⟨List.reverse_perm _, List.reverse_perm _, List.reverse_perm _, List.reverse_perm _,
    List.reverse_perm _, List.reverse_perm _, List.reverse_perm _, List.reverse_perm _,
    List.reverse_perm _⟩
  iterate := List.reverse
  iterates := List.reverse_perm

theorem validateProvenance_eq (std : Stdlib) (reads : TraceReads) :
    reads.validateProvenance = reads.warningsIn std reads.missing := by
  have confidences : ∀ row : Confidence, (if row.targetType = .hypothesis then
        warnMissing (reads.idsOf .hypothesis) "hypothesis" "for confidence" row.id row.targetId
      else []) = reads.warningsOf std (.confidence row) := by
    intro row
    by_cases calibrates : row.targetType = .hypothesis
    · simp [TraceReads.warningsOf, TraceNode.references, calibrates, NodeType.name, NodeType.reason,
        TraceNode.nodeType, TraceNode.id]
    · simp [TraceReads.warningsOf, TraceNode.references, calibrates]
  have calibrated := List.flatMap_congr fun row (_ : row ∈ reads.confidences) => confidences row
  unfold TraceReads.validateProvenance
  dsimp only
  rw [show (List.map Hypothesis.id reads.hypotheses) = reads.idsOf .hypothesis from rfl, calibrated]
  simp [TraceReads.warningsIn, TraceReads.missing, NodeType.artifacts, TraceReads.nodesOf,
    List.flatMap_map, TraceReads.warningsOf, TraceNode.references, TraceReads.idsOf, NodeType.name,
    NodeType.reason, TraceNode.nodeType, TraceNode.id]

theorem TraceOrder.trace_listed (std : Stdlib) (tables : ReportTables) (tenantId : Uuid)
    (report : Report Json) :
    (TraceOrder.listed tables).trace std tenantId report = readTrace std tables tenantId report := by
  have sameTexts := (validateProvenance_eq std (reportReads std tables tenantId report)).symm
  exact congrArg (fun texts => { readTrace std tables tenantId report with warnings := texts }) sameTexts

end Load

/-! ### What every order finds -/

section Found

variable {std : Stdlib} {tables rows : ReportTables} {tenantId id : Uuid} {report : Report Json}
  {node : TraceNode} {nodeType : NodeType}

theorem ReportTables.SameRows.holds (same : tables.SameRows rows) :
    rows.Holds tenantId node ↔ tables.Holds tenantId node := by
  cases node with
  | report row => exact Iff.rfl
  | decision row => exact and_congr_left' same.decisions.mem_iff
  | recommendation row => exact and_congr_left' same.recommendations.mem_iff
  | confidence row => exact and_congr_left' same.confidences.mem_iff
  | hypothesis row => exact and_congr_left' same.hypotheses.mem_iff
  | anomaly row => exact and_congr_left' same.anomalies.mem_iff
  | pattern row => exact and_congr_left' same.patterns.mem_iff
  | context row => exact and_congr_left' same.contexts.mem_iff
  | evidence row => exact and_congr_left' same.evidence.mem_iff
  | observation row => exact and_congr_left' same.observations.mem_iff

theorem ReportTables.OnChain.mono {other : ReportTables}
    (holds : ∀ node, tables.Holds tenantId node → other.Holds tenantId node)
    (chained : tables.OnChain tenantId std report node) : other.OnChain tenantId std report node := by
  induction chained with
  | root => exact .root
  | next _ followed refers held ih => exact .next ih followed refers (holds _ held)

theorem ReportTables.SameRows.onChain (same : tables.SameRows rows) :
    rows.OnChain tenantId std report node ↔ tables.OnChain tenantId std report node :=
  ⟨.mono fun _ => same.holds.mp, .mono fun _ => same.holds.mpr⟩

theorem ReportTables.SameRows.keyed (same : tables.SameRows rows) (keyed : tables.Keyed) :
    rows.Keyed where
  decisions := (same.decisions.map _).nodup_iff.mpr keyed.decisions
  recommendations := (same.recommendations.map _).nodup_iff.mpr keyed.recommendations
  contexts := (same.contexts.map _).nodup_iff.mpr keyed.contexts
  confidences := (same.confidences.map _).nodup_iff.mpr keyed.confidences
  hypotheses := (same.hypotheses.map _).nodup_iff.mpr keyed.hypotheses
  anomalies := (same.anomalies.map _).nodup_iff.mpr keyed.anomalies
  patterns := (same.patterns.map _).nodup_iff.mpr keyed.patterns
  evidence := (same.evidence.map _).nodup_iff.mpr keyed.evidence

theorem not_observation_of_references {reference : NodeType × Uuid}
    (refers : reference ∈ node.references std) : node.nodeType ≠ .observation := by
  cases node with
  | observation row => exact absurd refers List.not_mem_nil
  | _ => exact fun same => nomatch same

/-- **The ids that are read are those along the chain.** -/
theorem mem_idsOf_iff_onChain (keyed : tables.Keyed) (artifact : nodeType ≠ .report) :
    id ∈ (reportReads std tables tenantId report).idsOf nodeType ↔
      ∃ node, tables.OnChain tenantId std report node ∧ node.nodeType = nodeType ∧ node.id = id := by
  constructor
  · intro read
    obtain ⟨node, has, isType, isId⟩ :=
      ((reportReads std tables tenantId report).mem_idsOf report artifact).mp read
    exact ⟨node, onChain_of_has has, isType, isId⟩
  · rintro ⟨node, chained, rfl, rfl⟩
    cases chained with
    | root => exact absurd rfl artifact
    | @next above _ onChain followed refers holds =>
        have has := has_of_onChain keyed onChain (not_observation_of_references refers)
        exact (TraceReads.mem_idsOf_iff _).mpr
          ⟨mem_wanted_iff.mpr ⟨above, has, followed, refers⟩, node, holds, rfl, rfl⟩

theorem ReportTables.SameRows.mem_idsOf (same : tables.SameRows rows) (keyed : tables.Keyed) :
    id ∈ (reportReads std rows tenantId report).idsOf nodeType ↔
      id ∈ (reportReads std tables tenantId report).idsOf nodeType := by
  by_cases artifact : nodeType = .report
  · subst artifact
    exact Iff.rfl
  · rw [mem_idsOf_iff_onChain (same.keyed keyed) artifact, mem_idsOf_iff_onChain keyed artifact]
    simp only [same.onChain]

theorem ReportTables.SameRows.missing (same : tables.SameRows rows) (keyed : tables.Keyed) :
    (reportReads std rows tenantId report).missing =
      (reportReads std tables tenantId report).missing := by
  unfold TraceReads.missing
  refine List.filter_congr fun id _ => ?_
  simp only [same.mem_idsOf keyed]

theorem ReportTables.SameRows.warningsOf (same : tables.SameRows rows) (keyed : tables.Keyed) :
    (reportReads std rows tenantId report).warningsOf std node =
      (reportReads std tables tenantId report).warningsOf std node := by
  cases node with
  | report row =>
      exact congrArg (List.map fun id => "decision " ++ uuidText id ++ " referenced by report not found")
        (same.missing keyed)
  | _ =>
      refine List.flatMap_congr fun reference _ => ?_
      unfold warnMissing
      simp only [same.mem_idsOf keyed]

end Found

/-! ### What an order may change -/

section Changes

variable {std : Stdlib} {tables rows : ReportTables} {tenantId id : Uuid} {report : Report Json}
  {node : TraceNode} {nodeType : NodeType}

theorem TraceReads.mem_nodesOf (reads : TraceReads) (report : Report Json)
    (artifact : nodeType ≠ .report) :
    node ∈ reads.nodesOf nodeType ↔ reads.Has report node ∧ node.nodeType = nodeType := by
  cases nodeType <;> cases node <;> simp_all [nodesOf, Has, TraceNode.nodeType]

theorem TraceReads.nodeType_of_mem_nodesOf (reads : TraceReads) (inside : node ∈ reads.nodesOf nodeType) :
    node.nodeType = nodeType := by
  cases nodeType with
  | report => exact absurd inside List.not_mem_nil
  | _ =>
      obtain ⟨row, -, rfl⟩ := List.mem_map.mp inside
      rfl

theorem TraceReads.map_id_nodesOf (reads : TraceReads) (nodeType : NodeType) :
    (reads.nodesOf nodeType).map TraceNode.id = reads.idsOf nodeType := by
  cases nodeType <;> simp [nodesOf, idsOf, TraceNode.id]

theorem TraceReads.nodup_nodesOf (reads : TraceReads) (nodeType : NodeType) :
    (reads.nodesOf nodeType).Nodup := by
  refine List.Nodup.of_map TraceNode.id ?_
  rw [map_id_nodesOf]
  exact nodup_idsOf reads nodeType

theorem TraceReads.nodes_eq (reads : TraceReads) (report : Report Json) :
    reads.nodes report = .report report :: NodeType.artifacts.flatMap reads.nodesOf := by
  simp [nodes, NodeType.artifacts, nodesOf]

theorem has_iff_onChain (keyed : tables.Keyed) (single : node.nodeType ≠ .observation) :
    (reportReads std tables tenantId report).Has report node ↔
      tables.OnChain tenantId std report node :=
  ⟨onChain_of_has, fun chained => has_of_onChain keyed chained single⟩

theorem ReportTables.SameRows.nodesOf_perm (same : tables.SameRows rows) (keyed : tables.Keyed)
    (single : nodeType ≠ .observation) :
    ((reportReads std rows tenantId report).nodesOf nodeType).Perm
      ((reportReads std tables tenantId report).nodesOf nodeType) := by
  by_cases artifact : nodeType = .report
  · subst artifact
    exact .refl _
  · refine (List.perm_ext_iff_of_nodup (TraceReads.nodup_nodesOf _ _)
      (TraceReads.nodup_nodesOf _ _)).mpr fun node => ?_
    rw [TraceReads.mem_nodesOf _ report artifact, TraceReads.mem_nodesOf _ report artifact]
    refine and_congr_left fun isType => ?_
    have notObservation : node.nodeType ≠ .observation := isType.trans_ne single
    rw [has_iff_onChain (same.keyed keyed) notObservation, has_iff_onChain keyed notObservation,
      same.onChain]

theorem TraceReads.observations_silent (std : Stdlib) (reads other : TraceReads) :
    (other.nodesOf .observation).flatMap (reads.warningsOf std) = [] := by
  rw [List.flatMap_eq_nil_iff]
  intro node inside
  obtain ⟨row, -, rfl⟩ := List.mem_map.mp inside
  rfl

/-- **Every order answers the same edges.** -/
theorem TraceOrder.edges_eq (keyed : tables.Keyed)
    (order : TraceOrder tables) (std : Stdlib) (tenantId : Uuid) (report : Report Json) :
    (order.trace std tenantId report).edges =
      (readTrace std tables tenantId report).edges := by
  refine Sorting.sortBy_congr ?_ ?_
  · refine (List.perm_ext_iff_of_nodup (List.nodup_dedup _) (List.nodup_dedup _)).mpr fun edge => ?_
    rw [List.mem_dedup, List.mem_dedup, mem_edges _ rfl, mem_edges _ rfl]
    refine exists_congr fun node => ?_
    have edgesOf : (reportReads std order.rows tenantId report).edgesOf std node =
        (reportReads std tables tenantId report).edgesOf std node := by
      refine List.flatMap_congr fun reference _ => ?_
      unfold edgeTo
      simp only [order.sameRows.mem_idsOf keyed]
    rw [edgesOf]
    refine and_congr_left fun joins => ?_
    obtain ⟨reference, refers, -⟩ := List.mem_flatMap.mp joins
    have notObservation := not_observation_of_references refers
    rw [has_iff_onChain (order.sameRows.keyed keyed) notObservation,
      has_iff_onChain keyed notObservation, order.sameRows.onChain]
  · refine (List.nodup_dedup _).map fun first second sameKey => ?_
    obtain ⟨source, target, relation⟩ := first
    obtain ⟨source', target', relation'⟩ := second
    obtain ⟨rfl, rfl, rfl⟩ : source = source' ∧ target = target' ∧ relation = relation' := by
      simpa using sameKey
    rfl

end Changes

/-! ### The opposite order -/

section Reversed

variable {Row : Type} {tenantOf key : Row → Uuid} {tenantId id : Uuid} {rows : List Row} {row : Row}

theorem last_of_mem_keyedById (kept : row ∈ keyedById key rows) :
    ∃ before after, rows = before ++ row :: after ∧ ∀ other ∈ after, key other ≠ key row := by
  induction rows with
  | nil => exact absurd kept List.not_mem_nil
  | cons first rest ih =>
      rw [keyedById] at kept
      split at kept
      · obtain ⟨before, after, rfl, last⟩ := ih kept
        exact ⟨first :: before, after, rfl, last⟩
      · rename_i last
        rcases List.mem_cons.mp kept with rfl | later
        · refine ⟨[], rest, rfl, fun other inside same => last ?_⟩
          exact List.any_eq_true.mpr ⟨other, inside, decide_eq_true same⟩
        · obtain ⟨before, after, rfl, apart⟩ := ih later
          exact ⟨first :: before, after, rfl, apart⟩

/-- **Where the reversed rows leave the same values, no id is repeated.** -/
theorem unique_of_keyedById_reverse (distinct : rows.Nodup)
    (same : ∀ row ∈ keyedById key rows.reverse, row ∈ keyedById key rows) :
    ∀ first ∈ rows, ∀ second ∈ rows, key first = key second → first = second := by
  intro first firstIn second secondIn sameKey
  have named : key first ∈ (keyedById key rows.reverse).map key :=
    mem_map_keyedById.mpr (List.mem_map_of_mem (List.mem_reverse.mpr firstIn))
  obtain ⟨row, kept, isKey⟩ := List.mem_map.mp named
  obtain ⟨before, after, isSplit, last⟩ := last_of_mem_keyedById (same row kept)
  obtain ⟨after', before', isReversed, first'⟩ := last_of_mem_keyedById kept
  have isSplit' : rows = before'.reverse ++ row :: after'.reverse := by
    rw [← List.reverse_reverse rows, isReversed]
    simp
  obtain ⟨rfl, -⟩ := Listings.split_unique (isSplit.symm.trans isSplit') (isSplit ▸ distinct)
  -- no row before or after the value has its id
  have only : ∀ other ∈ rows, key other = key row → other = row := by
    intro other inside isSame
    rw [isSplit] at inside
    rcases List.mem_append.mp inside with early | late
    · exact absurd isSame (first' other (List.mem_reverse.mp early))
    · rcases List.mem_cons.mp late with here | late
      · exact here
      · exact absurd isSame (last other late)
  rw [only first firstIn isKey.symm, only second secondIn (sameKey.symm.trans isKey.symm)]

theorem map_bulkByIds_reverse {node : Row → TraceNode} {ids asked : List Uuid}
    (distinct : (rows.map key).Nodup) (same : ∀ id, id ∈ asked ↔ id ∈ ids) :
    (bulkByIds tenantOf key tenantId asked rows.reverse).map node =
      ((bulkByIds tenantOf key tenantId ids rows).map node).reverse := by
  have distinct' : (rows.reverse.map key).Nodup := ((List.reverse_perm rows).map key).nodup_iff.mpr distinct
  unfold bulkByIds
  rw [keyedById_of_nodup (distinct'.sublist (List.filter_sublist.map key)),
    keyedById_of_nodup (distinct.sublist (List.filter_sublist.map key)), ← List.map_reverse,
    ← List.filter_reverse]
  simp only [same]

variable {std : Stdlib} {tables other : ReportTables} {report : Report Json} {nodeType : NodeType}

theorem ReportTables.SameRows.mem_wanted (same : tables.SameRows other) (keyed : tables.Keyed) :
    id ∈ (reportReads std other tenantId report).wanted nodeType ↔
      id ∈ (reportReads std tables tenantId report).wanted nodeType := by
  rw [mem_wanted_iff, mem_wanted_iff]
  refine exists_congr fun node => and_congr_left ?_
  rintro ⟨-, refers⟩
  have notObservation := not_observation_of_references refers
  rw [has_iff_onChain (same.keyed keyed) notObservation, has_iff_onChain keyed notObservation,
    same.onChain]

theorem nodesOf_reversed (keyed : tables.Keyed) (single : nodeType ≠ .observation) :
    (reportReads std (TraceOrder.reversed tables).rows tenantId report).nodesOf nodeType =
      ((reportReads std tables tenantId report).nodesOf nodeType).reverse := by
  have wanted : ∀ nodeType id,
      id ∈ (reportReads std (TraceOrder.reversed tables).rows tenantId report).wanted nodeType ↔
        id ∈ (reportReads std tables tenantId report).wanted nodeType :=
    fun _ _ => (TraceOrder.reversed tables).sameRows.mem_wanted keyed
  cases nodeType with
  | report => rfl
  | observation => exact absurd rfl single
  | decision => exact map_bulkByIds_reverse keyed.decisions (wanted .decision)
  | recommendation => exact map_bulkByIds_reverse keyed.recommendations (wanted .recommendation)
  | confidence => exact map_bulkByIds_reverse keyed.confidences (wanted .confidence)
  | hypothesis => exact map_bulkByIds_reverse keyed.hypotheses (wanted .hypothesis)
  | anomaly => exact map_bulkByIds_reverse keyed.anomalies (wanted .anomaly)
  | pattern => exact map_bulkByIds_reverse keyed.patterns (wanted .pattern)
  | context => exact map_bulkByIds_reverse keyed.contexts (wanted .context)
  | evidence => exact map_bulkByIds_reverse keyed.evidence (wanted .evidence)

theorem mem_observations_iff (keyed : tables.Keyed) {observation : Observation} :
    tables.OnChain tenantId std report (.observation observation) ↔
      observation ∈ tables.observations.filter fun row => decide (row.tenantId = tenantId) &&
        decide (row.id ∈ (reportReads std tables tenantId report).wanted .observation) := by
  rw [List.mem_filter, Bool.and_eq_true, decide_eq_true_eq, decide_eq_true_eq, mem_wanted_iff]
  constructor
  · intro chained
    cases chained with
    | @next above _ onChain followed refers holds =>
        have has := has_of_onChain keyed onChain (not_observation_of_references refers)
        exact ⟨holds.1, holds.2, above, has, followed, refers⟩
  · rintro ⟨stored, own, above, has, followed, refers⟩
    exact .next (onChain_of_has has) followed refers ⟨stored, own⟩

end Reversed

/-! ### When the order does not show -/

section Forced

/-- An artifact refers to one that is not on the chain. -/
def Broken (std : Stdlib) (tables : ReportTables) (tenantId : Uuid) (report : Report Json)
    (node : TraceNode) : Prop :=
  ∃ reference ∈ node.references std, ¬ ∃ found, tables.OnChain tenantId std report found ∧
    found.nodeType = reference.1 ∧ found.id = reference.2

/-- There is one order at most of what is missing, and one row of an id. -/
structure OrderForced (std : Stdlib) (tables : ReportTables) (tenantId : Uuid) (report : Report Json) :
    Prop where
  decisions : ∀ first ∈ extractDecisionIds std report.content,
    ∀ second ∈ extractDecisionIds std report.content,
      ¬ tables.Resolves tenantId (.decision, first) → ¬ tables.Resolves tenantId (.decision, second) →
      first = second
  artifacts : ∀ first second, tables.OnChain tenantId std report first →
    tables.OnChain tenantId std report second → first.nodeType = second.nodeType →
    Broken std tables tenantId report first → Broken std tables tenantId report second → first = second
  observations : ∀ first second, tables.OnChain tenantId std report (.observation first) →
    tables.OnChain tenantId std report (.observation second) → first.id = second.id → first = second

variable {std : Stdlib} {tables : ReportTables} {tenantId id : Uuid} {report : Report Json}
  {node : TraceNode} {nodeType : NodeType}

theorem artifact_of_references {reference : NodeType × Uuid} (refers : reference ∈ node.references std) :
    reference.1 ≠ .report := by
  intro isReport
  cases node <;> simp [TraceNode.references] at refers <;> grind

theorem warningsOf_ne_nil (keyed : tables.Keyed)
    (read : (reportReads std tables tenantId report).Has report node) :
    (reportReads std tables tenantId report).warningsOf std node ≠ [] ↔
      Broken std tables tenantId report node := by
  obtain ⟨sound, all⟩ := mem_warningsOf read
  constructor
  · intro warns
    obtain ⟨warning, warned⟩ := List.exists_mem_of_ne_nil _ warns
    obtain ⟨reference, refers, missing, -⟩ := sound warning warned
    refine ⟨reference, refers, ?_⟩
    rwa [mem_idsOf_iff_onChain keyed (artifact_of_references refers)] at missing
  · rintro ⟨reference, refers, missing⟩
    rw [← mem_idsOf_iff_onChain keyed (artifact_of_references refers)] at missing
    obtain ⟨warning, warned, -⟩ := all reference refers missing
    exact List.ne_nil_of_mem warned

theorem mem_missing : id ∈ (reportReads std tables tenantId report).missing ↔
    id ∈ extractDecisionIds std report.content ∧ ¬ tables.Resolves tenantId (.decision, id) := by
  rw [TraceReads.missing, List.mem_filter, List.mem_dedup, decide_eq_true_eq, TraceReads.mem_idsOf_iff]
  show id ∈ extractDecisionIds std report.content ∧ _ ↔ _
  refine and_congr_right fun named => not_congr (and_iff_right named)

theorem ends_of_mem_warningsOf {reads : TraceReads} {warning : String}
    (artifact : node.nodeType ≠ .report) (warned : warning ∈ reads.warningsOf std node) :
    ∃ beginning, warning = beginning ++ uuidText node.id ++ " not found" := by
  cases node with
  | report row => exact absurd rfl artifact
  | _ =>
      obtain ⟨reference, -, warned⟩ := List.mem_flatMap.mp warned
      obtain ⟨-, rfl⟩ := mem_warnMissing.mp warned
      exact ⟨_, rfl⟩

theorem eq_of_shared_warning {reads : TraceReads} {first second : TraceNode} {warning : String}
    (artifact : nodeType ≠ .report) (firstIn : first ∈ reads.nodesOf nodeType)
    (secondIn : second ∈ reads.nodesOf nodeType) (warned : warning ∈ reads.warningsOf std first)
    (warned' : warning ∈ reads.warningsOf std second) : first = second := by
  have isFirst := reads.nodeType_of_mem_nodesOf firstIn
  have isSecond := reads.nodeType_of_mem_nodesOf secondIn
  obtain ⟨beginning, rfl⟩ := ends_of_mem_warningsOf (isFirst.trans_ne artifact) warned
  obtain ⟨beginning', same⟩ := ends_of_mem_warningsOf (isSecond.trans_ne artifact) warned'
  have characters := congrArg String.toList same
  simp only [String.toList_append] at characters
  have ids := List.append_inj_right' (List.append_cancel_right characters)
    (by simp [uuidText])
  have distinct : ((reads.nodesOf nodeType).map TraceNode.id).Nodup := by
    rw [reads.map_id_nodesOf]
    exact nodup_idsOf reads nodeType
  exact List.inj_on_of_nodup_map distinct firstIn secondIn
    (uuidText_injective (String.toList_injective ids))

/-- **At most one artifact of a type writes a warning** exactly when at most one is broken. -/
theorem lone_nodesOf_iff (keyed : tables.Keyed) (artifact : nodeType ≠ .report)
    (single : nodeType ≠ .observation) :
    Listings.Lone ((reportReads std tables tenantId report).warningsOf std)
        ((reportReads std tables tenantId report).nodesOf nodeType) ↔
      ∀ first second, tables.OnChain tenantId std report first →
        tables.OnChain tenantId std report second → first.nodeType = nodeType →
        second.nodeType = nodeType → Broken std tables tenantId report first →
        Broken std tables tenantId report second → first = second := by
  have read : ∀ node, node ∈ (reportReads std tables tenantId report).nodesOf nodeType ↔
      tables.OnChain tenantId std report node ∧ node.nodeType = nodeType := by
    intro node
    rw [TraceReads.mem_nodesOf _ report artifact]
    exact and_congr_left fun isType => has_iff_onChain keyed (isType.trans_ne single)
  have broken : ∀ node, tables.OnChain tenantId std report node → node.nodeType = nodeType →
      ((reportReads std tables tenantId report).warningsOf std node ≠ [] ↔
        Broken std tables tenantId report node) := fun node chained isType =>
    warningsOf_ne_nil keyed (has_of_onChain keyed chained (isType.trans_ne single))
  constructor
  · intro lone first second onChain onChain' isType isType' warns warns'
    exact lone first ((read first).mpr ⟨onChain, isType⟩) second ((read second).mpr ⟨onChain', isType'⟩)
      ((broken first onChain isType).mpr warns) ((broken second onChain' isType').mpr warns')
  · intro one first firstIn second secondIn warns warns'
    obtain ⟨onChain, isType⟩ := (read first).mp firstIn
    obtain ⟨onChain', isType'⟩ := (read second).mp secondIn
    exact one first second onChain onChain' isType isType' ((broken first onChain isType).mp warns)
      ((broken second onChain' isType').mp warns')

theorem lone_missing_iff :
    Listings.Lone (fun id => ["decision " ++ uuidText id ++ " referenced by report not found"])
        (reportReads std tables tenantId report).missing ↔
      ∀ first ∈ extractDecisionIds std report.content,
        ∀ second ∈ extractDecisionIds std report.content,
          ¬ tables.Resolves tenantId (.decision, first) →
          ¬ tables.Resolves tenantId (.decision, second) → first = second := by
  constructor
  · intro lone first named second named' missing missing'
    exact lone first (mem_missing.mpr ⟨named, missing⟩) second (mem_missing.mpr ⟨named', missing'⟩)
      (List.cons_ne_nil _ _) (List.cons_ne_nil _ _)
  · intro one first firstIn second secondIn _ _
    obtain ⟨named, missing⟩ := mem_missing.mp firstIn
    obtain ⟨named', missing'⟩ := mem_missing.mp secondIn
    exact one first named second named' missing missing'

end Forced

/-! ### The law -/

section Law

variable {std : Stdlib} {tables : ReportTables} {tenantId : Uuid} {report : Report Json}

theorem has_observation_iff (keyed : tables.Keyed) (unique : ∀ first second,
      tables.OnChain tenantId std report (.observation first) →
      tables.OnChain tenantId std report (.observation second) → first.id = second.id → first = second)
    (observation : Observation) :
    (reportReads std tables tenantId report).Has report (.observation observation) ↔
      tables.OnChain tenantId std report (.observation observation) := by
  refine ⟨onChain_of_has, fun chained => ?_⟩
  have artifact : NodeType.observation ≠ .report := fun same => nomatch same
  have read := (mem_idsOf_iff_onChain keyed artifact).mpr ⟨_, chained, rfl, rfl⟩
  obtain ⟨node, has, isType, isId⟩ := (TraceReads.mem_idsOf _ report artifact).mp read
  cases node with
  | observation other =>
      rw [unique observation other chained (onChain_of_has has) isId.symm]
      exact has
  | _ => cases isType

theorem nodup_nodeKeys (reads : TraceReads) (report : Report Json) :
    ((reads.nodes report).map fun node => toLex (node.nodeType.order, node.id)).Nodup := by
  have ordered : ((reads.nodes report).map fun node => toLex (node.nodeType.order, node.id)) =
      ((reads.nodes report).map fun node => (node.nodeType, node.id)).map fun key =>
        toLex (key.1.order, key.2) := by
    rw [List.map_map]
    rfl
  rw [ordered]
  refine (nodup_nodes reads report).map fun first second same => ?_
  obtain ⟨firstType, firstId⟩ := first
  obtain ⟨secondType, secondId⟩ := second
  obtain ⟨sameOrder, rfl⟩ : firstType.order = secondType.order ∧ firstId = secondId := by
    simpa using same
  cases firstType <;> cases secondType <;> first | rfl | cases sameOrder

theorem TraceOrder.nodes_eq (keyed : tables.Keyed)
    (order : TraceOrder tables)
    (unique : ∀ first second, tables.OnChain tenantId std report (.observation first) →
      tables.OnChain tenantId std report (.observation second) → first.id = second.id →
      first = second) :
    (order.trace std tenantId report).nodes = (readTrace std tables tenantId report).nodes := by
  refine Sorting.sortBy_congr ?_ (nodup_nodeKeys _ report)
  rw [TraceReads.nodes_eq, TraceReads.nodes_eq]
  refine .cons _ (List.Perm.flatMap_left _ fun nodeType _ => ?_)
  by_cases single : nodeType = .observation
  · subst single
    have artifact : NodeType.observation ≠ .report := fun same => nomatch same
    refine (List.perm_ext_iff_of_nodup (TraceReads.nodup_nodesOf _ _)
      (TraceReads.nodup_nodesOf _ _)).mpr fun node => ?_
    rw [TraceReads.mem_nodesOf _ report artifact, TraceReads.mem_nodesOf _ report artifact]
    refine and_congr_left fun isType => ?_
    cases node with
    | observation observation =>
        have unique' : ∀ first second, order.rows.OnChain tenantId std report (.observation first) →
            order.rows.OnChain tenantId std report (.observation second) → first.id = second.id →
            first = second := by
          simpa only [order.sameRows.onChain] using unique
        rw [has_observation_iff (order.sameRows.keyed keyed) unique', has_observation_iff keyed unique,
          order.sameRows.onChain]
    | _ => cases isType
  · exact order.sameRows.nodesOf_perm keyed single

/-- **Where the order is forced every order answers the same trace.** -/
theorem TraceOrder.trace_eq (keyed : tables.Keyed)
    (forced : OrderForced std tables tenantId report) (order : TraceOrder tables) :
    order.trace std tenantId report = readTrace std tables tenantId report := by
  have warnings : (order.trace std tenantId report).warnings =
      (readTrace std tables tenantId report).warnings := by
    show TraceReads.warningsIn _ std _ = TraceReads.validateProvenance _
    rw [validateProvenance_eq std]
    unfold TraceReads.warningsIn
    rw [order.sameRows.missing keyed, List.map_eq_flatMap, List.map_eq_flatMap]
    congr 1
    · exact Listings.flatMap_of_lone (lone_missing_iff.mpr forced.decisions)
        ((List.nodup_dedup _).filter _) (order.iterates _)
    · refine List.flatMap_congr fun nodeType inside => ?_
      rw [List.flatMap_congr fun node _ => order.sameRows.warningsOf keyed]
      by_cases single : nodeType = .observation
      · subst single
        rw [TraceReads.observations_silent, TraceReads.observations_silent]
      · have artifact : nodeType ≠ .report := by
          rintro rfl
          exact absurd inside (by decide)
        refine Listings.flatMap_of_lone ((lone_nodesOf_iff keyed artifact single).mpr ?_)
          (TraceReads.nodup_nodesOf _ _) (order.sameRows.nodesOf_perm keyed single)
        intro first second onChain onChain' isType isType'
        exact forced.artifacts first second onChain onChain' (isType.trans isType'.symm)
  have nodes := order.nodes_eq keyed forced.observations
  have edges := order.edges_eq keyed std tenantId report
  show CognitiveTrace.mk report (order.trace std tenantId report).nodes
    (order.trace std tenantId report).edges (order.trace std tenantId report).warnings = _
  rw [nodes, edges, warnings]
  rfl

theorem lone_of_reversed (keyed : tables.Keyed)
    (same : ((TraceOrder.reversed tables).trace std tenantId report).warnings =
      (readTrace std tables tenantId report).warnings) :
    Listings.Lone (fun id => ["decision " ++ uuidText id ++ " referenced by report not found"])
        (reportReads std tables tenantId report).missing ∧
      ∀ nodeType ∈ NodeType.artifacts, nodeType ≠ .observation →
        Listings.Lone ((reportReads std tables tenantId report).warningsOf std)
          ((reportReads std tables tenantId report).nodesOf nodeType) := by
  have opposite := (TraceOrder.reversed tables).sameRows
  have texts : TraceReads.warningsIn _ std _ = TraceReads.validateProvenance _ := same
  rw [validateProvenance_eq std] at texts
  unfold TraceReads.warningsIn at texts
  rw [opposite.missing keyed] at texts
  obtain ⟨missing, artifacts⟩ := List.append_inj texts (by simp [TraceOrder.reversed])
  constructor
  · refine Listings.lone_of_reverse ((List.nodup_dedup _).filter _) ?_ ?_
    · intro first _ second _ text isFirst isSecond
      have same := (List.mem_singleton.mp isFirst).symm.trans (List.mem_singleton.mp isSecond)
      have characters := congrArg String.toList same
      simp only [String.toList_append] at characters
      exact uuidText_injective (String.toList_injective
        (List.append_cancel_left (List.append_cancel_right characters)))
    · rw [← List.map_eq_flatMap, ← List.map_eq_flatMap]
      exact missing
  · have pieces := Listings.flatMap_pieces (fun nodeType _ => ?_) artifacts
    · intro nodeType inside single
      have artifact : nodeType ≠ .report := by
        rintro rfl
        exact absurd inside (by decide)
      refine Listings.lone_of_reverse (TraceReads.nodup_nodesOf _ _) ?_ ?_
      · intro first firstIn second secondIn warning warned warned'
        exact eq_of_shared_warning artifact firstIn secondIn warned warned'
      · have piece := pieces nodeType inside
        rw [List.flatMap_congr fun node _ => opposite.warningsOf keyed, nodesOf_reversed keyed single]
          at piece
        exact piece
    · rw [List.flatMap_congr fun node _ => opposite.warningsOf keyed]
      by_cases single : nodeType = .observation
      · subst single
        rw [TraceReads.observations_silent, TraceReads.observations_silent]
      · exact ((opposite.nodesOf_perm keyed single).flatMap_right _).length_eq

theorem mem_readTrace_nodes {node : TraceNode} :
    node ∈ (readTrace std tables tenantId report).nodes ↔
      (reportReads std tables tenantId report).Has report node :=
  Sorting.mem_sortBy.trans (TraceReads.mem_nodes_iff _)

theorem unique_of_reversed (keyed : tables.Keyed)
    (captured : (tables.observations.map fun row => (row.id, row.capturedAt.instant)).Nodup)
    (same : ((TraceOrder.reversed tables).trace std tenantId report).nodes =
      (readTrace std tables tenantId report).nodes) (first second : Observation)
    (onChain : tables.OnChain tenantId std report (.observation first))
    (onChain' : tables.OnChain tenantId std report (.observation second)) (sameId : first.id = second.id) :
    first = second := by
  have opposite := (TraceOrder.reversed tables).sameRows
  have has : ∀ row, (reportReads std (TraceOrder.reversed tables).rows tenantId report).Has report
      (.observation row) ↔ (reportReads std tables tenantId report).Has report (.observation row) := by
    intro row
    rw [← mem_readTrace_nodes, ← mem_readTrace_nodes]
    exact Iff.of_eq (congrArg (TraceNode.observation row ∈ ·) same)
  refine unique_of_keyedById_reverse ((List.Nodup.of_map _ captured).filter _) (fun row kept => ?_) first
    ((mem_observations_iff keyed).mp onChain) second ((mem_observations_iff keyed).mp onChain') sameId
  refine (has row).mp ?_
  show row ∈ bulkByIds Observation.tenantId Observation.id tenantId
    ((reportReads std (TraceOrder.reversed tables).rows tenantId report).wanted .observation)
    tables.observations.reverse
  unfold bulkByIds
  rw [← List.filter_reverse] at kept
  simpa only [opposite.mem_wanted keyed] using kept

/-- **Where the opposite order answers the same trace the order is forced.** -/
theorem forced_of_reversed (keyed : tables.Keyed)
    (captured : (tables.observations.map fun row => (row.id, row.capturedAt.instant)).Nodup)
    (same : (TraceOrder.reversed tables).trace std tenantId report =
      readTrace std tables tenantId report) : OrderForced std tables tenantId report := by
  obtain ⟨missing, artifacts⟩ := lone_of_reversed keyed (congrArg CognitiveTrace.warnings same)
  exact {
    decisions := lone_missing_iff.mp missing
    artifacts := by
      intro first second onChain onChain' sameType broken broken'
      by_cases isReport : first.nodeType = .report
      · cases onChain with
        | root =>
            cases onChain' with
            | root => rfl
            | next _ _ _ holds => cases second <;> first | exact holds.elim | cases sameType
        | next _ _ _ holds => cases first <;> first | exact holds.elim | cases isReport
      · have single : first.nodeType ≠ .observation := by
          obtain ⟨reference, refers, -⟩ := broken
          exact not_observation_of_references refers
        have listed : first.nodeType ∈ NodeType.artifacts := by
          generalize first.nodeType = nodeType at isReport
          cases nodeType <;> first | exact absurd rfl isReport | decide
        exact (lone_nodesOf_iff keyed isReport single).mp (artifacts _ listed single) first second
          onChain onChain' rfl sameType.symm broken broken'
    observations := unique_of_reversed keyed captured (congrArg CognitiveTrace.nodes same) }

theorem orderForced_root (none : extractDecisionIds std report.content = []) :
    OrderForced std tables tenantId report where
  decisions := by
    rw [none]
    exact fun _ inside => nomatch inside
  artifacts := by
    intro first second onChain onChain' _ _ _
    rw [onChain_root none onChain, onChain_root none onChain']
  observations := fun first _ onChain _ _ => nomatch onChain_root none onChain

/-- **When the order of the rows does not show.** For a stored report `get_trace` answers the same nodes,
edges, warnings and completeness in every order of the rows and ids exactly when at most one of the decisions
that it names is missing, at most one artifact of each type on its chain refers to a missing one, and no
observation on its chain is captured twice under one id. -/
theorem trace_order_iff (std : Stdlib) (state : ReportState) (keyed : state.tables.Keyed)
    (captured : (state.tables.observations.map fun row => (row.id, row.capturedAt.instant)).Nodup)
    (distinct : (state.reports.map Report.id).Nodup) (report : Report Json)
    (stored : report ∈ state.reports) :
    (∀ first second : TraceOrder state.tables,
        first.load std report.tenantId report.id = second.load std report.tenantId report.id) ↔
      OrderForced std state.tables report.tenantId report := by
  have found := find_report (fun other member same =>
    List.inj_on_of_nodup_map distinct member stored same) stored
  by_cases none : extractDecisionIds std report.content = []
  · refine iff_of_true (fun first second => ?_) (orderForced_root none)
    unfold TraceOrder.load
    rw [found]
    dsimp only
    rw [none, List.isEmpty_nil, if_pos rfl, if_pos rfl]
  · have readable : ¬ (report.content.truthy && !report.content.isDict) = true := by
      intro unreadable
      refine none ?_
      cases isContent : report.content with
      | obj fields => simp [isContent, Json.isDict] at unreadable
      | _ => rfl
    have answer : ∀ order : TraceOrder state.tables, order.load std report.tenantId report.id =
        .ok (some (order.trace std report.tenantId report)) := by
      intro order
      unfold TraceOrder.load
      rw [found]
      dsimp only
      rw [if_neg readable, if_neg (List.isEmpty_iff.not.mpr none)]
    constructor
    · intro same
      have traces := same (.reversed state.tables) (.listed state.tables)
      rw [answer, answer, Except.ok.injEq, Option.some.injEq] at traces
      exact forced_of_reversed keyed captured (traces.trans (TraceOrder.trace_listed std _ _ report))
    · intro forced first second
      rw [answer, answer, first.trace_eq keyed forced, second.trace_eq keyed forced]

end Law

/-! ### Reports that name missing decisions -/

/-- A stored report that names decisions that its tenant does not have. -/
def undecidedState (ids : List Uuid) : ReportState :=
  { entriesState (ids.map decisionEntry) with tables := reportedTables [] }

theorem undecidedState_keyed (ids : List Uuid) : (undecidedState ids).tables.Keyed where
  decisions := List.nodup_nil
  recommendations := List.nodup_nil
  contexts := List.nodup_nil
  confidences := List.nodup_nil
  hypotheses := List.nodup_nil
  anomalies := List.nodup_nil
  patterns := List.nodup_nil
  evidence := List.nodup_nil

theorem undecided_onChain {std : Stdlib} {report : Report Json} {ids : List Uuid} {node : TraceNode}
    (chained : (undecidedState ids).tables.OnChain 1 std report node) : node = .report report := by
  cases chained with
  | root => rfl
  | next _ _ _ holds =>
      cases node with
      | report row => exact holds.elim
      | _ => exact absurd holds.1 List.not_mem_nil

/-- With one missing decision no two orders answer differently. -/
theorem missingDecision_forced : ¬ ∃ first second : TraceOrder (undecidedState [40]).tables,
    first.load countingStd 1 77 ≠ second.load countingStd 1 77 := by
  have named : extractDecisionIds countingStd (entriesReport [decisionEntry 40]).content = [40] := by
    decide +kernel
  have forced : OrderForced countingStd (undecidedState [40]).tables 1
      (entriesReport [decisionEntry 40]) := by
    refine ⟨?_, ?_, ?_⟩
    · rw [named]
      intro first firstIn second secondIn _ _
      rw [List.mem_singleton.mp firstIn, List.mem_singleton.mp secondIn]
    · intro first second onChain onChain' _ _ _
      rw [undecided_onChain onChain, undecided_onChain onChain']
    · exact fun first _ onChain _ _ => nomatch undecided_onChain onChain
  rintro ⟨first, second, differ⟩
  exact differ ((trace_order_iff countingStd (undecidedState [40]) (undecidedState_keyed [40])
    List.nodup_nil (List.nodup_singleton _) (entriesReport [decisionEntry 40])
    (List.mem_singleton_self _)).mpr forced first second)

/-- **Two missing decisions.** The warnings about them come in the order of a set, which nothing sorts. -/
theorem missingDecisions_reordered : ¬ ∀ first second : TraceOrder (undecidedState [40, 41]).tables,
    first.load countingStd 1 77 = second.load countingStd 1 77 := by
  intro same
  have answers := congrArg (fun answer => answer.toOption.join.map CognitiveTrace.warnings)
    (same (.listed _) (.reversed _))
  revert answers
  decide +kernel

end CosMonitor
