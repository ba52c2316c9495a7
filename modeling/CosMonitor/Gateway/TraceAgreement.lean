/-
**The two trace assemblers — the traces in a JSON report against the gateway's trace of it.**

* `listedIds`: the artifacts that a trace of a report lists;
* `ReportTables.Recommended`, `Explained`, `AnomalyOf`, …: the references between the rows of a tenant;
* `ReportTables.Aligned`: when both walks over these references meet the same rows, each once;
* `traces_agree_iff`: they agree on a JSON report that was just written exactly then.
-/

import CosMonitor.Action.Starvation
import CosMonitor.Foundation.Lookups
import CosMonitor.Gateway.CognitiveTrace

namespace CosMonitor

open Result

/-! ### What a trace lists -/

section Listed

/-- The field of a trace that lists a type of artifacts. -/
def NodeType.field : NodeType → String
  | report => "report"
  | decision => "decision"
  | recommendation => "recommendation"
  | confidence => "confidence"
  | hypothesis => "hypothesis"
  | anomaly => "anomalies"
  | pattern => "patterns"
  | context => "contexts"
  | evidence => "evidence"
  | observation => "observations"

/-- The id of a view. -/
def viewId (std : Stdlib) (view : Json) : Option Uuid :=
  (view.lookup "id").bind fun id => parseUuid (std.str id)

/-- The ids that a trace lists in the field of a type: of an array each view, of one view its own. -/
def listedIds (std : Stdlib) (nodeType : NodeType) (trace : Json) : List Uuid :=
  match trace.lookup nodeType.field with
  | some (.arr views) => views.filterMap (viewId std)
  | some view => (viewId std view).toList
  | none => []

/-- The traces of a report. -/
def listedTraces (content : Json) : List Json :=
  match content.lookup "decision_traces" with
  | some (.arr traces) => traces
  | _ => []

/-- The ids of the rows of a trace. -/
def DecisionTrace.idsOf (trace : DecisionTrace) : NodeType → List Uuid
  | .report => []
  | .decision => [trace.decision.id]
  | .recommendation => trace.recommendation.toList.map Recommendation.id
  | .confidence => trace.confidence.toList.map Confidence.id
  | .hypothesis => trace.hypothesis.toList.map Hypothesis.id
  | .anomaly => trace.anomalies.map Anomaly.id
  | .pattern => trace.patterns.map fun row => row.id
  | .context => trace.contexts.map Context.id
  | .evidence => trace.evidence.map Evidence.id
  | .observation => trace.observations.map Observation.id

variable {Row : Type} {std : Stdlib}

theorem viewId_view (id : Uuid) (rest : List (String × Json)) :
    viewId std (.obj (("id", idValue id) :: rest)) = some id := by
  simp [viewId, Json.lookup, idValue, Stdlib.str, parseUuid_uuidText]

theorem filterMap_viewId {view : Row → Json} {id : Row → Uuid}
    (shows : ∀ row, viewId std (view row) = some (id row)) (rows : List Row) :
    (rows.map view).filterMap (viewId std) = rows.map id := by
  rw [List.filterMap_map, Function.comp_def, funext shows, ← List.filterMap_eq_map]
  rfl

/-- **A view of a trace lists the ids of its rows.** -/
theorem listedIds_view (formats : ViewFormats) (trace : DecisionTrace) (nodeType : NodeType) :
    listedIds std nodeType (trace.view formats) = trace.idsOf nodeType := by
  obtain ⟨decision, confidence, recommendation, hypothesis, anomalies, patterns, contexts, evidence,
    observations⟩ := trace
  cases nodeType with
  | report => rfl
  | decision =>
      show (viewId std (decisionView formats decision)).toList = [decision.id]
      rw [decisionView, viewId_view]
      rfl
  | recommendation =>
      cases recommendation with
      | none => rfl
      | some row =>
          show (viewId std (recommendationView formats row)).toList = [row.id]
          rw [recommendationView, viewId_view]
          rfl
  | confidence =>
      cases confidence with
      | none => rfl
      | some row =>
          show (viewId std (confidenceView formats row)).toList = [row.id]
          rw [confidenceView, viewId_view]
          rfl
  | hypothesis =>
      cases hypothesis with
      | none => rfl
      | some row =>
          show (viewId std (hypothesisView formats row)).toList = [row.id]
          rw [hypothesisView, viewId_view]
          rfl
  | anomaly =>
      have shows : ∀ row, viewId std (anomalyView formats row) = some row.id :=
        fun row => viewId_view row.id _
      exact filterMap_viewId shows anomalies
  | pattern =>
      have shows : ∀ row, viewId std (patternView formats row) = some row.id :=
        fun row => viewId_view row.id _
      exact filterMap_viewId shows patterns
  | context =>
      have shows : ∀ row, viewId std (contextView formats row) = some row.id :=
        fun row => viewId_view row.id _
      exact filterMap_viewId shows contexts
  | evidence =>
      have shows : ∀ row, viewId std (evidenceView formats row) = some row.id :=
        fun row => viewId_view row.id _
      exact filterMap_viewId shows evidence
  | observation =>
      have shows : ∀ row, viewId std (observationView formats row) = some row.id :=
        fun row => viewId_view row.id _
      exact filterMap_viewId shows observations

theorem listedTraces_renderJson {formats : ViewFormats} {source : ReportSource} {content : Json}
    (stored : (renderJson formats source).content = some content) :
    listedTraces content = source.traces.map (DecisionTrace.view formats) := by
  rw [listedTraces, lookup_renderJson stored]
  rfl

end Listed

/-! ### The references between the rows of a tenant -/

section References

/-- Ids are primary keys. The observations have theirs together with the instant of capture. -/
structure ReportTables.Keyed (tables : ReportTables) : Prop where
  decisions : (tables.decisions.map Decision.id).Nodup
  recommendations : (tables.recommendations.map Recommendation.id).Nodup
  contexts : (tables.contexts.map Context.id).Nodup
  confidences : (tables.confidences.map Confidence.id).Nodup
  hypotheses : (tables.hypotheses.map Hypothesis.id).Nodup
  anomalies : (tables.anomalies.map Anomaly.id).Nodup
  patterns : (tables.patterns.map fun row => row.id).Nodup
  evidence : (tables.evidence.map Evidence.id).Nodup

namespace ReportTables

variable (tables : ReportTables) (tenantId : Uuid)

/-- A decision of the tenant. -/
def Decided (decision : Decision) : Prop :=
  decision ∈ tables.decisions ∧ decision.tenantId = tenantId

/-- A recommendation of the tenant that one of its decisions refers to. -/
def Recommended (recommendation : Recommendation) : Prop :=
  recommendation ∈ tables.recommendations ∧ recommendation.tenantId = tenantId ∧
    ∃ decision, tables.Decided tenantId decision ∧ decision.recommendationId = recommendation.id

/-- A hypothesis of the tenant that such a recommendation refers to. -/
def Explained (hypothesis : Hypothesis) : Prop :=
  hypothesis ∈ tables.hypotheses ∧ hypothesis.tenantId = tenantId ∧
    ∃ recommendation, tables.Recommended tenantId recommendation ∧
      recommendation.hypothesisId = hypothesis.id

/-- An anomaly of the tenant that a hypothesis names. -/
def AnomalyOf (hypothesis : Hypothesis) (anomaly : Anomaly) : Prop :=
  anomaly ∈ tables.anomalies ∧ anomaly.tenantId = tenantId ∧ anomaly.id ∈ hypothesis.anomalyIds

/-- A pattern of the tenant that such an anomaly refers to. -/
def PatternOf (hypothesis : Hypothesis) (pattern : PatternRecord) : Prop :=
  pattern ∈ tables.patterns ∧ pattern.tenantId = tenantId ∧
    ∃ anomaly, tables.AnomalyOf tenantId hypothesis anomaly ∧ anomaly.patternId = pattern.id

/-- A context of the tenant that such an anomaly refers to. -/
def ContextOf (hypothesis : Hypothesis) (context : Context) : Prop :=
  context ∈ tables.contexts ∧ context.tenantId = tenantId ∧
    ∃ anomaly, tables.AnomalyOf tenantId hypothesis anomaly ∧ anomaly.contextId = context.id

/-- An evidence of the tenant that such a context names. -/
def EvidenceOf (hypothesis : Hypothesis) (evidence : Evidence) : Prop :=
  evidence ∈ tables.evidence ∧ evidence.tenantId = tenantId ∧
    ∃ context, tables.ContextOf tenantId hypothesis context ∧ evidence.id ∈ context.evidenceIds

/-- A row of the tenant has an id. -/
def Stored {Row : Type} (tenantOf id : Row → Uuid) (rows : List Row) (wanted : Uuid) : Prop :=
  ∃ row ∈ rows, tenantOf row = tenantId ∧ id row = wanted

/-- No id of the rows behind a hypothesis repeats, as far as it is that of a stored row: neither in one
list of ids, nor in those of two rows, nor in the same field of two anomalies. -/
structure NamedOnce (hypothesis : Hypothesis) : Prop where
  anomalies : hypothesis.anomalyIds.Pairwise fun first second =>
    first = second → ¬ Stored tenantId Anomaly.tenantId Anomaly.id tables.anomalies first
  patterns : ∀ first second, tables.AnomalyOf tenantId hypothesis first →
    tables.AnomalyOf tenantId hypothesis second → first ≠ second →
      first.patternId = second.patternId →
        ¬ Stored tenantId (fun row => row.tenantId) (fun row => row.id) tables.patterns first.patternId
  contexts : ∀ first second, tables.AnomalyOf tenantId hypothesis first →
    tables.AnomalyOf tenantId hypothesis second → first ≠ second →
      first.contextId = second.contextId →
        ¬ Stored tenantId Context.tenantId Context.id tables.contexts first.contextId
  evidence : ∀ context, tables.ContextOf tenantId hypothesis context →
    context.evidenceIds.Pairwise fun first second =>
      first = second → ¬ Stored tenantId Evidence.tenantId Evidence.id tables.evidence first
  sharedEvidence : ∀ first second, tables.ContextOf tenantId hypothesis first →
    tables.ContextOf tenantId hypothesis second → first ≠ second →
      ∀ id ∈ first.evidenceIds, id ∈ second.evidenceIds →
        ¬ Stored tenantId Evidence.tenantId Evidence.id tables.evidence id
  observations : ∀ evidence, tables.EvidenceOf tenantId hypothesis evidence →
    evidence.observationIds.Pairwise fun first second =>
      first = second →
        ¬ Stored tenantId Observation.tenantId Observation.id tables.observations first
  sharedObservations : ∀ first second, tables.EvidenceOf tenantId hypothesis first →
    tables.EvidenceOf tenantId hypothesis second → first ≠ second →
      ∀ id ∈ first.observationIds, id ∈ second.observationIds →
        ¬ Stored tenantId Observation.tenantId Observation.id tables.observations id

/-- When the two walks meet the same rows, each once: what is beyond the first page of a listing is not
needed, and the references that one walk alone follows lead to rows that both walks meet. -/
structure Aligned : Prop where
  confidences : ∀ confidence ∈ tables.confidences, confidence.tenantId = tenantId →
    ((∃ decision, tables.Decided tenantId decision ∧ decision.confidenceId = confidence.id) ∨
      ∃ recommendation, tables.Recommended tenantId recommendation ∧
        recommendation.confidenceId = confidence.id) →
    confidence ∈ listConfidence tenantId 500 0 tables.confidences ∧
      ∃ decision, tables.Decided tenantId decision ∧ decision.confidenceId = confidence.id
  hypotheses : ∀ hypothesis, tables.Explained tenantId hypothesis →
    hypothesis ∈ listHypotheses tenantId 500 0 tables.hypotheses
  patterns : ∀ hypothesis, tables.Explained tenantId hypothesis → ∀ pattern ∈ tables.patterns,
    pattern.tenantId = tenantId → pattern.id ∈ hypothesis.patternIds →
      ∃ other, tables.Explained tenantId other ∧ tables.PatternOf tenantId other pattern
  contexts : ∀ hypothesis, tables.Explained tenantId hypothesis →
    ∀ pattern, tables.PatternOf tenantId hypothesis pattern → ∀ context ∈ tables.contexts,
      context.tenantId = tenantId → pattern.contextId = context.id →
        ∃ other, tables.Explained tenantId other ∧ tables.ContextOf tenantId other context
  observations : ∀ hypothesis, tables.Explained tenantId hypothesis →
    ∀ evidence, tables.EvidenceOf tenantId hypothesis evidence →
      ∀ observation ∈ tables.observations, observation.tenantId = tenantId →
        observation.id ∈ evidence.observationIds →
          ∃ listed ∈ listObservations tenantId 500 0 tables.observations, listed.id = observation.id
  once : ∀ hypothesis, tables.Explained tenantId hypothesis → tables.NamedOnce tenantId hypothesis

end ReportTables

end References

/-! ### The walk of the report -/

section Listings

variable {Row : Type} {tenantOf id : Row → Uuid} {tenantId wanted : Uuid} {rows listed : List Row}
  {row : Row}

theorem byId_found (found : byId id wanted listed = some row) : row ∈ listed ∧ id row = wanted := by
  unfold byId at found
  have matching := List.find?_some found
  exact ⟨List.mem_reverse.mp (List.mem_of_find?_eq_some found), of_decide_eq_true matching⟩

theorem byId_sound : Lookups.Sound id fun wanted => byId id wanted listed :=
  fun _ _ found => (byId_found found).2

theorem byId_eq_none : byId id wanted listed = none ↔ ¬ ∃ row ∈ listed, id row = wanted := by
  simp [byId]

theorem byId_listing (same : listed.Perm (rows.filter fun row => decide (tenantOf row = tenantId)))
    (distinct : (rows.map id).Nodup) :
    byId id wanted listed = some row ↔ row ∈ rows ∧ tenantOf row = tenantId ∧ id row = wanted := by
  rw [byId_eq_some ((same.map id).nodup_iff.mpr (distinct.sublist (List.filter_sublist.map id))),
    same.mem_iff, List.mem_filter, decide_eq_true_eq, and_assoc]

theorem byId_listing_none
    (same : listed.Perm (rows.filter fun row => decide (tenantOf row = tenantId))) :
    byId id wanted listed = none ↔ ¬ ReportTables.Stored tenantId tenantOf id rows wanted := by
  rw [byId_eq_none]
  refine not_congr (exists_congr fun row => ?_)
  rw [same.mem_iff, List.mem_filter, decide_eq_true_eq, and_assoc]

end Listings

section ReportWalk

theorem mem_listObservations {tenantId : Uuid} {limit offset : Nat} {rows : List Observation}
    {observation : Observation} (listed : observation ∈ listObservations tenantId limit offset rows) :
    observation ∈ rows ∧ observation.tenantId = tenantId := by
  have inside := List.mem_of_mem_drop (List.mem_of_mem_take listed)
  rw [Sorting.mem_sortBy, List.mem_filter, decide_eq_true_iff] at inside
  exact inside

variable {tables : ReportTables} {tenantId : Uuid} {now : Timestamp} {decision : Decision}
  {recommendation : Recommendation} {hypothesis : Hypothesis}

theorem mem_decisions_readSource :
    decision ∈ (readSource tenantId now tables).decisions ↔ tables.Decided tenantId decision := by
  simp [readSource, listDecisions, ReportTables.Decided]

theorem recommendationOf_eq_some (keyed : tables.Keyed) :
    (readSource tenantId now tables).recommendationOf decision = some recommendation ↔
      recommendation ∈ tables.recommendations ∧ recommendation.tenantId = tenantId ∧
        recommendation.id = decision.recommendationId :=
  byId_listing (Sorting.sortBy_perm _ _) keyed.recommendations

theorem hypothesisOf_explained (keyed : tables.Keyed) (decided : tables.Decided tenantId decision)
    (found : (readSource tenantId now tables).hypothesisOf decision = some hypothesis) :
    tables.Explained tenantId hypothesis ∧
      hypothesis ∈ listHypotheses tenantId 500 0 tables.hypotheses := by
  obtain ⟨recommendation, isRecommendation, isHypothesis⟩ := Option.bind_eq_some_iff.mp found
  obtain ⟨stored, isTenant, isId⟩ := (recommendationOf_eq_some keyed).mp isRecommendation
  obtain ⟨listed, isId'⟩ := byId_found isHypothesis
  obtain ⟨member, own⟩ := mem_listHypotheses listed
  exact ⟨⟨member, own, recommendation, ⟨stored, isTenant, decision, decided, isId.symm⟩, isId'.symm⟩,
    listed⟩

theorem exists_hypothesisOf (now : Timestamp) (keyed : tables.Keyed)
    (explained : tables.Explained tenantId hypothesis)
    (listed : hypothesis ∈ listHypotheses tenantId 500 0 tables.hypotheses) :
    ∃ decision, tables.Decided tenantId decision ∧
      (readSource tenantId now tables).hypothesisOf decision = some hypothesis := by
  obtain ⟨-, -, recommendation, ⟨stored, isTenant, decision, decided, isId⟩, isId'⟩ := explained
  refine ⟨decision, decided, Option.bind_eq_some_iff.mpr ⟨recommendation, ?_, ?_⟩⟩
  · exact (recommendationOf_eq_some keyed).mpr ⟨stored, isTenant, isId.symm⟩
  · have distinct : ((listHypotheses tenantId 500 0 tables.hypotheses).map Hypothesis.id).Nodup := by
      refine List.Nodup.sublist (((List.take_sublist _ _).trans (List.drop_sublist _ _)).map _) ?_
      exact ((Sorting.sortBy_perm _ _).map _).nodup_iff.mpr
        (keyed.hypotheses.sublist (List.filter_sublist.map _))
    exact (byId_eq_some distinct).mpr ⟨listed, isId'.symm⟩

theorem mem_anomaliesOf (keyed : tables.Keyed)
    (found : (readSource tenantId now tables).hypothesisOf decision = some hypothesis)
    {anomaly : Anomaly} :
    anomaly ∈ (readSource tenantId now tables).anomaliesOf decision ↔
      tables.AnomalyOf tenantId hypothesis anomaly := by
  rw [ReportSource.anomaliesOf, found, Option.map_some, Option.getD_some, List.mem_filterMap]
  constructor
  · rintro ⟨id, named, isAnomaly⟩
    obtain ⟨stored, isTenant, rfl⟩ := (byId_listing (Sorting.sortBy_perm _ _) keyed.anomalies).mp isAnomaly
    exact ⟨stored, isTenant, named⟩
  · rintro ⟨stored, isTenant, named⟩
    exact ⟨anomaly.id, named,
      (byId_listing (Sorting.sortBy_perm _ _) keyed.anomalies).mpr ⟨stored, isTenant, rfl⟩⟩

theorem mem_patternsOf (keyed : tables.Keyed)
    (found : (readSource tenantId now tables).hypothesisOf decision = some hypothesis)
    {pattern : PatternRecord} :
    pattern ∈ (readSource tenantId now tables).patternsOf decision ↔
      tables.PatternOf tenantId hypothesis pattern := by
  rw [ReportSource.patternsOf, List.mem_filterMap]
  constructor
  · rintro ⟨anomaly, member, isPattern⟩
    obtain ⟨stored, isTenant, isId⟩ :=
      (byId_listing (Sorting.sortBy_perm _ _) keyed.patterns).mp isPattern
    exact ⟨stored, isTenant, anomaly, (mem_anomaliesOf keyed found).mp member, isId.symm⟩
  · rintro ⟨stored, isTenant, anomaly, ofHypothesis, isId⟩
    exact ⟨anomaly, (mem_anomaliesOf keyed found).mpr ofHypothesis,
      (byId_listing (Sorting.sortBy_perm _ _) keyed.patterns).mpr ⟨stored, isTenant, isId.symm⟩⟩

theorem mem_contextsOf (keyed : tables.Keyed)
    (found : (readSource tenantId now tables).hypothesisOf decision = some hypothesis)
    {context : Context} :
    context ∈ (readSource tenantId now tables).contextsOf decision ↔
      tables.ContextOf tenantId hypothesis context := by
  rw [ReportSource.contextsOf, List.mem_filterMap]
  constructor
  · rintro ⟨anomaly, member, isContext⟩
    obtain ⟨stored, isTenant, isId⟩ :=
      (byId_listing (Sorting.sortBy_perm _ _) keyed.contexts).mp isContext
    exact ⟨stored, isTenant, anomaly, (mem_anomaliesOf keyed found).mp member, isId.symm⟩
  · rintro ⟨stored, isTenant, anomaly, ofHypothesis, isId⟩
    exact ⟨anomaly, (mem_anomaliesOf keyed found).mpr ofHypothesis,
      (byId_listing (Sorting.sortBy_perm _ _) keyed.contexts).mpr ⟨stored, isTenant, isId.symm⟩⟩

theorem mem_evidenceOf (keyed : tables.Keyed)
    (found : (readSource tenantId now tables).hypothesisOf decision = some hypothesis)
    {evidence : Evidence} :
    evidence ∈ (readSource tenantId now tables).evidenceOf decision ↔
      tables.EvidenceOf tenantId hypothesis evidence := by
  rw [ReportSource.evidenceOf, List.mem_flatMap]
  constructor
  · rintro ⟨context, member, lookedUp⟩
    obtain ⟨id, named, isEvidence⟩ := List.mem_filterMap.mp lookedUp
    obtain ⟨stored, isTenant, rfl⟩ :=
      (byId_listing (List.perm_insertionSort _ _) keyed.evidence).mp isEvidence
    exact ⟨stored, isTenant, context, (mem_contextsOf keyed found).mp member, named⟩
  · rintro ⟨stored, isTenant, context, ofHypothesis, named⟩
    refine ⟨context, (mem_contextsOf keyed found).mpr ofHypothesis,
      List.mem_filterMap.mpr ⟨evidence.id, named, ?_⟩⟩
    exact (byId_listing (List.perm_insertionSort _ _) keyed.evidence).mpr ⟨stored, isTenant, rfl⟩

theorem mem_observationsOf (keyed : tables.Keyed)
    (found : (readSource tenantId now tables).hypothesisOf decision = some hypothesis) {id : Uuid} :
    id ∈ ((readSource tenantId now tables).observationsOf decision).map Observation.id ↔
      ∃ evidence, tables.EvidenceOf tenantId hypothesis evidence ∧ id ∈ evidence.observationIds ∧
        ∃ listed ∈ listObservations tenantId 500 0 tables.observations, listed.id = id := by
  rw [ReportSource.observationsOf, List.map_flatMap, List.mem_flatMap]
  constructor
  · rintro ⟨evidence, member, lookedUp⟩
    obtain ⟨named, isListed⟩ := (Lookups.mem_map_filterMap byId_sound).mp lookedUp
    exact ⟨evidence, (mem_evidenceOf keyed found).mp member, named,
      not_not.mp (mt byId_eq_none.mpr isListed)⟩
  · rintro ⟨evidence, ofHypothesis, named, isListed⟩
    refine ⟨evidence, (mem_evidenceOf keyed found).mpr ofHypothesis,
      (Lookups.mem_map_filterMap byId_sound).mpr ⟨named, fun missing => ?_⟩⟩
    exact byId_eq_none.mp missing isListed

theorem traceOf_unexplained {source : ReportSource} (missing : source.hypothesisOf decision = none) :
    source.anomaliesOf decision = [] ∧ source.patternsOf decision = [] ∧
      source.contextsOf decision = [] ∧ source.evidenceOf decision = [] ∧
      source.observationsOf decision = [] := by
  have anomalies : source.anomaliesOf decision = [] := by
    rw [ReportSource.anomaliesOf, missing]
    rfl
  have contexts : source.contextsOf decision = [] := by
    rw [ReportSource.contextsOf, anomalies]
    rfl
  have evidence : source.evidenceOf decision = [] := by
    rw [ReportSource.evidenceOf, contexts]
    rfl
  refine ⟨anomalies, ?_, contexts, evidence, ?_⟩
  · rw [ReportSource.patternsOf, anomalies]
    rfl
  · rw [ReportSource.observationsOf, evidence]
    rfl

end ReportWalk

/-! ### When a trace lists nothing twice -/

section Once

variable {tables : ReportTables} {tenantId : Uuid} {now : Timestamp} {decision : Decision}
  {hypothesis : Hypothesis}

theorem nodup_toList {Row : Type} {id : Row → Uuid} (row : Option Row) :
    (row.toList.map id).Nodup := by
  cases row with
  | none => exact List.nodup_nil
  | some row => exact List.nodup_singleton _

theorem nodup_anomaliesOf
    (found : (readSource tenantId now tables).hypothesisOf decision = some hypothesis) :
    (((readSource tenantId now tables).anomaliesOf decision).map Anomaly.id).Nodup ↔
      hypothesis.anomalyIds.Pairwise fun first second =>
        first = second → ¬ ReportTables.Stored tenantId Anomaly.tenantId Anomaly.id tables.anomalies first := by
  rw [ReportSource.anomaliesOf, found, Option.map_some, Option.getD_some]
  refine (Lookups.nodup_filterMap_iff byId_sound).trans ?_
  refine List.Pairwise.iff fun first second => forall_congr' fun _ => ?_
  exact byId_listing_none (Sorting.sortBy_perm _ _)

theorem nodup_referred (keyed : tables.Keyed)
    (found : (readSource tenantId now tables).hypothesisOf decision = some hypothesis)
    (distinct : ((readSource tenantId now tables).anomaliesOf decision).Nodup) {Row : Type}
    {tenantOf id : Row → Uuid} {rows listed : List Row}
    (same : listed.Perm (rows.filter fun row => decide (tenantOf row = tenantId)))
    (field : Anomaly → Uuid) :
    ((((readSource tenantId now tables).anomaliesOf decision).filterMap fun anomaly =>
        byId id (field anomaly) listed).map id).Nodup ↔
      ∀ first second, tables.AnomalyOf tenantId hypothesis first →
        tables.AnomalyOf tenantId hypothesis second → first ≠ second → field first = field second →
          ¬ ReportTables.Stored tenantId tenantOf id rows (field first) := by
  refine (Lookups.nodup_filterMap_field_iff byId_sound distinct field).trans ?_
  simp only [mem_anomaliesOf keyed found]
  constructor
  · intro apart first second isFirst isSecond differ sameField
    exact (byId_listing_none same).mp (apart first isFirst second isSecond differ sameField)
  · intro apart first isFirst second isSecond differ sameField
    exact (byId_listing_none same).mpr (apart first second isFirst isSecond differ sameField)

theorem nodup_patternsOf (keyed : tables.Keyed)
    (found : (readSource tenantId now tables).hypothesisOf decision = some hypothesis)
    (distinct : ((readSource tenantId now tables).anomaliesOf decision).Nodup) :
    (((readSource tenantId now tables).patternsOf decision).map fun row => row.id).Nodup ↔
      ∀ first second, tables.AnomalyOf tenantId hypothesis first →
        tables.AnomalyOf tenantId hypothesis second → first ≠ second →
          first.patternId = second.patternId →
            ¬ ReportTables.Stored tenantId (fun row => row.tenantId) (fun row => row.id)
              tables.patterns first.patternId :=
  nodup_referred keyed found distinct (Sorting.sortBy_perm _ _) Anomaly.patternId

theorem nodup_contextsOf (keyed : tables.Keyed)
    (found : (readSource tenantId now tables).hypothesisOf decision = some hypothesis)
    (distinct : ((readSource tenantId now tables).anomaliesOf decision).Nodup) :
    (((readSource tenantId now tables).contextsOf decision).map Context.id).Nodup ↔
      ∀ first second, tables.AnomalyOf tenantId hypothesis first →
        tables.AnomalyOf tenantId hypothesis second → first ≠ second →
          first.contextId = second.contextId →
            ¬ ReportTables.Stored tenantId Context.tenantId Context.id tables.contexts
              first.contextId :=
  nodup_referred keyed found distinct (Sorting.sortBy_perm _ _) Anomaly.contextId

theorem nodup_evidenceOf (keyed : tables.Keyed)
    (found : (readSource tenantId now tables).hypothesisOf decision = some hypothesis)
    (distinct : ((readSource tenantId now tables).contextsOf decision).Nodup) :
    (((readSource tenantId now tables).evidenceOf decision).map Evidence.id).Nodup ↔
      (∀ context, tables.ContextOf tenantId hypothesis context →
        context.evidenceIds.Pairwise fun first second => first = second →
          ¬ ReportTables.Stored tenantId Evidence.tenantId Evidence.id tables.evidence first) ∧
      ∀ first second, tables.ContextOf tenantId hypothesis first →
        tables.ContextOf tenantId hypothesis second → first ≠ second →
          ∀ id ∈ first.evidenceIds, id ∈ second.evidenceIds →
            ¬ ReportTables.Stored tenantId Evidence.tenantId Evidence.id tables.evidence id := by
  have missing : ∀ id, byId Evidence.id id (readSource tenantId now tables).evidence = none ↔
      ¬ ReportTables.Stored tenantId Evidence.tenantId Evidence.id tables.evidence id :=
    fun id => byId_listing_none (List.perm_insertionSort _ _)
  refine (Lookups.nodup_flatMap_iff byId_sound distinct Context.evidenceIds).trans ?_
  simp only [mem_contextsOf keyed found, missing]
  refine and_congr_right fun _ => ?_
  exact ⟨fun apart first second isFirst isSecond => apart first isFirst second isSecond,
    fun apart first isFirst second isSecond => apart first second isFirst isSecond⟩

theorem nodup_observationsOf (keyed : tables.Keyed)
    (found : (readSource tenantId now tables).hypothesisOf decision = some hypothesis)
    (distinct : ((readSource tenantId now tables).evidenceOf decision).Nodup)
    (paged : ∀ evidence, tables.EvidenceOf tenantId hypothesis evidence →
      ∀ observation ∈ tables.observations, observation.tenantId = tenantId →
        observation.id ∈ evidence.observationIds →
          ∃ listed ∈ listObservations tenantId 500 0 tables.observations,
            listed.id = observation.id) :
    (((readSource tenantId now tables).observationsOf decision).map Observation.id).Nodup ↔
      (∀ evidence, tables.EvidenceOf tenantId hypothesis evidence →
        evidence.observationIds.Pairwise fun first second => first = second →
          ¬ ReportTables.Stored tenantId Observation.tenantId Observation.id tables.observations
            first) ∧
      ∀ first second, tables.EvidenceOf tenantId hypothesis first →
        tables.EvidenceOf tenantId hypothesis second → first ≠ second →
          ∀ id ∈ first.observationIds, id ∈ second.observationIds →
            ¬ ReportTables.Stored tenantId Observation.tenantId Observation.id tables.observations
              id := by
  have missing : ∀ evidence, tables.EvidenceOf tenantId hypothesis evidence →
      ∀ id ∈ evidence.observationIds,
        (byId Observation.id id (readSource tenantId now tables).observations = none ↔
          ¬ ReportTables.Stored tenantId Observation.tenantId Observation.id tables.observations
            id) := by
    intro evidence ofHypothesis id named
    rw [byId_eq_none]
    refine not_congr ⟨?_, ?_⟩
    · rintro ⟨observation, listed, isId⟩
      obtain ⟨stored, isTenant⟩ := mem_listObservations listed
      exact ⟨observation, stored, isTenant, isId⟩
    · rintro ⟨observation, stored, isTenant, rfl⟩
      exact paged evidence ofHypothesis observation stored isTenant named
  refine (Lookups.nodup_flatMap_iff byId_sound distinct Evidence.observationIds).trans ?_
  simp only [mem_evidenceOf keyed found]
  refine and_congr ?_ ?_
  · refine forall₂_congr fun evidence ofHypothesis => List.Pairwise.iff_of_mem ?_
    exact fun named _ => forall_congr' fun _ => missing evidence ofHypothesis _ named
  · constructor
    · intro apart first second isFirst isSecond differ id named alsoNamed
      exact (missing first isFirst id named).mp (apart first isFirst second isSecond differ id named alsoNamed)
    · intro apart first isFirst second isSecond differ id named alsoNamed
      exact (missing first isFirst id named).mpr (apart first second isFirst isSecond differ id named alsoNamed)

/-- **The trace of a decision lists nothing twice** exactly when nothing behind its hypothesis is named
twice. -/
theorem nodup_traceOf (keyed : tables.Keyed)
    (found : (readSource tenantId now tables).hypothesisOf decision = some hypothesis)
    (paged : ∀ evidence, tables.EvidenceOf tenantId hypothesis evidence →
      ∀ observation ∈ tables.observations, observation.tenantId = tenantId →
        observation.id ∈ evidence.observationIds →
          ∃ listed ∈ listObservations tenantId 500 0 tables.observations,
            listed.id = observation.id) :
    (∀ nodeType, (((readSource tenantId now tables).traceOf decision).idsOf nodeType).Nodup) ↔
      tables.NamedOnce tenantId hypothesis := by
  constructor
  · intro nodup
    have anomalies := List.Nodup.of_map _ (nodup .anomaly)
    have contexts := List.Nodup.of_map _ (nodup .context)
    have evidence := List.Nodup.of_map _ (nodup .evidence)
    obtain ⟨eachEvidence, sharedEvidence⟩ :=
      (nodup_evidenceOf keyed found contexts).mp (nodup .evidence)
    obtain ⟨eachObservation, sharedObservations⟩ :=
      (nodup_observationsOf keyed found evidence paged).mp (nodup .observation)
    exact
      { anomalies := (nodup_anomaliesOf found).mp (nodup .anomaly)
        patterns := (nodup_patternsOf keyed found anomalies).mp (nodup .pattern)
        contexts := (nodup_contextsOf keyed found anomalies).mp (nodup .context)
        evidence := eachEvidence
        sharedEvidence := sharedEvidence
        observations := eachObservation
        sharedObservations := sharedObservations }
  · intro once
    have anomalies := (nodup_anomaliesOf found).mpr once.anomalies
    have contexts := (nodup_contextsOf keyed found (List.Nodup.of_map _ anomalies)).mpr once.contexts
    have evidence := (nodup_evidenceOf keyed found (List.Nodup.of_map _ contexts)).mpr
      ⟨once.evidence, once.sharedEvidence⟩
    intro nodeType
    cases nodeType with
    | report => exact List.nodup_nil
    | decision => exact List.nodup_singleton _
    | recommendation => exact nodup_toList _
    | confidence => exact nodup_toList _
    | hypothesis => exact nodup_toList _
    | anomaly => exact anomalies
    | pattern =>
        exact (nodup_patternsOf keyed found (List.Nodup.of_map _ anomalies)).mpr once.patterns
    | context => exact contexts
    | evidence => exact evidence
    | observation =>
        exact (nodup_observationsOf keyed found (List.Nodup.of_map _ evidence) paged).mpr
          ⟨once.observations, once.sharedObservations⟩

end Once

/-! ### The walk of the gateway -/

section GatewayWalk

variable {tables : ReportTables} {tenantId : Uuid}

/-- The reads of a report of all decisions of a tenant. -/
def tenantReads (tables : ReportTables) (tenantId : Uuid) : TraceReads where
  tables := tables
  tenantId := tenantId
  decisionIds := decisionIds tenantId tables

theorem mem_reads_decisions (keyed : tables.Keyed) {decision : Decision} :
    decision ∈ (tenantReads tables tenantId).decisions ↔ tables.Decided tenantId decision := by
  refine (mem_bulkByIds keyed.decisions).trans ?_
  refine and_congr_right fun stored => and_iff_left_of_imp fun isTenant => ?_
  exact mem_decisionIds.mpr ⟨decision, stored, rfl, isTenant⟩

theorem mem_reads_recommendations (keyed : tables.Keyed) {recommendation : Recommendation} :
    recommendation ∈ (tenantReads tables tenantId).recommendations ↔
      tables.Recommended tenantId recommendation := by
  refine (mem_bulkByIds keyed.recommendations).trans ?_
  simp only [List.mem_map, mem_reads_decisions keyed]
  rfl

theorem mem_reads_confidences (keyed : tables.Keyed) {confidence : Confidence} :
    confidence ∈ (tenantReads tables tenantId).confidences ↔
      confidence ∈ tables.confidences ∧ confidence.tenantId = tenantId ∧
        ((∃ decision, tables.Decided tenantId decision ∧ decision.confidenceId = confidence.id) ∨
          ∃ recommendation, tables.Recommended tenantId recommendation ∧
            recommendation.confidenceId = confidence.id) := by
  refine (mem_bulkByIds keyed.confidences).trans ?_
  simp only [List.mem_append, List.mem_map, mem_reads_decisions keyed, mem_reads_recommendations keyed]
  rfl

theorem mem_reads_hypotheses (keyed : tables.Keyed) {hypothesis : Hypothesis} :
    hypothesis ∈ (tenantReads tables tenantId).hypotheses ↔ tables.Explained tenantId hypothesis := by
  refine (mem_bulkByIds keyed.hypotheses).trans ?_
  simp only [List.mem_map, mem_reads_recommendations keyed]
  rfl

theorem mem_reads_anomalies (keyed : tables.Keyed) {anomaly : Anomaly} :
    anomaly ∈ (tenantReads tables tenantId).anomalies ↔
      ∃ hypothesis, tables.Explained tenantId hypothesis ∧
        tables.AnomalyOf tenantId hypothesis anomaly := by
  refine (mem_bulkByIds keyed.anomalies).trans ?_
  simp only [List.mem_flatMap, mem_reads_hypotheses keyed]
  constructor
  · rintro ⟨stored, isTenant, hypothesis, explained, named⟩
    exact ⟨hypothesis, explained, stored, isTenant, named⟩
  · rintro ⟨hypothesis, explained, stored, isTenant, named⟩
    exact ⟨stored, isTenant, hypothesis, explained, named⟩

theorem mem_reads_patterns (keyed : tables.Keyed) {pattern : PatternRecord} :
    pattern ∈ (tenantReads tables tenantId).patterns ↔
      (∃ hypothesis, tables.Explained tenantId hypothesis ∧
        tables.PatternOf tenantId hypothesis pattern) ∨
      ∃ hypothesis, tables.Explained tenantId hypothesis ∧ pattern ∈ tables.patterns ∧
        pattern.tenantId = tenantId ∧ pattern.id ∈ hypothesis.patternIds := by
  refine (mem_bulkByIds keyed.patterns).trans ?_
  simp only [List.mem_append, List.mem_flatMap, List.mem_map, mem_reads_hypotheses keyed,
    mem_reads_anomalies keyed]
  constructor
  · rintro ⟨stored, isTenant, ⟨hypothesis, explained, named⟩ |
      ⟨anomaly, ⟨hypothesis, explained, ofHypothesis⟩, isId⟩⟩
    · exact .inr ⟨hypothesis, explained, stored, isTenant, named⟩
    · exact .inl ⟨hypothesis, explained, stored, isTenant, anomaly, ofHypothesis, isId⟩
  · rintro (⟨hypothesis, explained, stored, isTenant, anomaly, ofHypothesis, isId⟩ |
      ⟨hypothesis, explained, stored, isTenant, named⟩)
    · exact ⟨stored, isTenant, .inr ⟨anomaly, ⟨hypothesis, explained, ofHypothesis⟩, isId⟩⟩
    · exact ⟨stored, isTenant, .inl ⟨hypothesis, explained, named⟩⟩

theorem mem_reads_contexts (keyed : tables.Keyed) {context : Context} :
    context ∈ (tenantReads tables tenantId).contexts ↔
      (∃ hypothesis, tables.Explained tenantId hypothesis ∧
        tables.ContextOf tenantId hypothesis context) ∨
      ∃ pattern ∈ (tenantReads tables tenantId).patterns, context ∈ tables.contexts ∧
        context.tenantId = tenantId ∧ pattern.contextId = context.id := by
  refine (mem_bulkByIds keyed.contexts).trans ?_
  simp only [List.mem_append, List.mem_map, mem_reads_anomalies keyed]
  constructor
  · rintro ⟨stored, isTenant, ⟨anomaly, ⟨hypothesis, explained, ofHypothesis⟩, isId⟩ |
      ⟨pattern, read, isId⟩⟩
    · exact .inl ⟨hypothesis, explained, stored, isTenant, anomaly, ofHypothesis, isId⟩
    · exact .inr ⟨pattern, read, stored, isTenant, isId⟩
  · rintro (⟨hypothesis, explained, stored, isTenant, anomaly, ofHypothesis, isId⟩ |
      ⟨pattern, read, stored, isTenant, isId⟩)
    · exact ⟨stored, isTenant, .inl ⟨anomaly, ⟨hypothesis, explained, ofHypothesis⟩, isId⟩⟩
    · exact ⟨stored, isTenant, .inr ⟨pattern, read, isId⟩⟩

theorem mem_reads_evidence (keyed : tables.Keyed) {evidence : Evidence} :
    evidence ∈ (tenantReads tables tenantId).evidence ↔
      evidence ∈ tables.evidence ∧ evidence.tenantId = tenantId ∧
        ∃ context ∈ (tenantReads tables tenantId).contexts, evidence.id ∈ context.evidenceIds := by
  refine (mem_bulkByIds keyed.evidence).trans ?_
  rw [List.mem_flatMap]
  rfl

theorem mem_reads_observations {id : Uuid} :
    id ∈ (tenantReads tables tenantId).observations.map Observation.id ↔
      (∃ evidence ∈ (tenantReads tables tenantId).evidence, id ∈ evidence.observationIds) ∧
        ReportTables.Stored tenantId Observation.tenantId Observation.id tables.observations id := by
  refine mem_map_bulkByIds.trans ?_
  rw [List.mem_flatMap]
  rfl

end GatewayWalk

/-! ### When the walks meet the same rows -/

section Agreement

variable {tables : ReportTables} {tenantId : Uuid} {now : Timestamp}

/-- Both walks meet the same ids of a type. -/
def SameIds (tables : ReportTables) (tenantId : Uuid) (now : Timestamp) (nodeType : NodeType) : Prop :=
  ∀ id, id ∈ (tenantReads tables tenantId).idsOf nodeType ↔
    ∃ decision, tables.Decided tenantId decision ∧
      id ∈ ((readSource tenantId now tables).traceOf decision).idsOf nodeType

theorem exists_decided_iff {Row : Type} (now : Timestamp) (keyed : tables.Keyed)
    (paged : ∀ hypothesis, tables.Explained tenantId hypothesis →
      hypothesis ∈ listHypotheses tenantId 500 0 tables.hypotheses)
    {listOf : Decision → List Row} {behind : Hypothesis → Row → Prop}
    (explained : ∀ decision hypothesis,
      (readSource tenantId now tables).hypothesisOf decision = some hypothesis →
        ∀ row, row ∈ listOf decision ↔ behind hypothesis row)
    (unexplained : ∀ decision,
      (readSource tenantId now tables).hypothesisOf decision = none → listOf decision = [])
    (row : Row) :
    (∃ decision, tables.Decided tenantId decision ∧ row ∈ listOf decision) ↔
      ∃ hypothesis, tables.Explained tenantId hypothesis ∧ behind hypothesis row := by
  constructor
  · rintro ⟨decision, decided, member⟩
    cases found : (readSource tenantId now tables).hypothesisOf decision with
    | none =>
        rw [unexplained decision found] at member
        cases member
    | some hypothesis =>
        exact ⟨hypothesis, (hypothesisOf_explained keyed decided found).1,
          (explained decision hypothesis found row).mp member⟩
  · rintro ⟨hypothesis, isExplained, isBehind⟩
    obtain ⟨decision, decided, found⟩ := exists_hypothesisOf now keyed isExplained (paged _ isExplained)
    exact ⟨decision, decided, (explained decision hypothesis found row).mpr isBehind⟩

theorem of_sameIds {Row : Type} {rows : List Row} {key : Row → Uuid} (distinct : (rows.map key).Nodup)
    (listOf : Decision → List Row) {row : Row} (stored : row ∈ rows)
    (listed : ∀ decision, tables.Decided tenantId decision → ∀ other ∈ listOf decision, other ∈ rows)
    (met : ∃ decision, tables.Decided tenantId decision ∧ key row ∈ (listOf decision).map key) :
    ∃ decision, tables.Decided tenantId decision ∧ row ∈ listOf decision := by
  obtain ⟨decision, decided, found⟩ := met
  obtain ⟨other, member, same⟩ := List.mem_map.mp found
  have isRow := List.inj_on_of_nodup_map distinct (listed decision decided other member) stored same
  exact ⟨decision, decided, isRow ▸ member⟩

theorem sameIds_of_rows {Row : Type} (key : Row → Uuid) {read : List Row}
    {listOf : Decision → List Row}
    (same : ∀ row, row ∈ read ↔ ∃ decision, tables.Decided tenantId decision ∧ row ∈ listOf decision)
    (id : Uuid) :
    id ∈ read.map key ↔
      ∃ decision, tables.Decided tenantId decision ∧ id ∈ (listOf decision).map key := by
  simp only [List.mem_map, same]
  constructor
  · rintro ⟨row, ⟨decision, decided, member⟩, isId⟩
    exact ⟨decision, decided, row, member, isId⟩
  · rintro ⟨decision, decided, row, member, isId⟩
    exact ⟨row, ⟨decision, decided, member⟩, isId⟩

theorem mem_confidenceOf (keyed : tables.Keyed) {decision : Decision} {confidence : Confidence} :
    confidence ∈ ((readSource tenantId now tables).traceOf decision).confidence.toList ↔
      confidence ∈ listConfidence tenantId 500 0 tables.confidences ∧
        decision.confidenceId = confidence.id := by
  rw [Option.mem_toList]
  refine (byId_eq_some (listConfidence_ids keyed.confidences _ _ _)).trans ?_
  exact and_congr_right fun _ => eq_comm

/-- **Walks that agree need what the condition says.** -/
theorem aligned_of_sameIds (now : Timestamp) (keyed : tables.Keyed)
    (same : ∀ nodeType ≠ NodeType.report, SameIds tables tenantId now nodeType)
    (nodup : ∀ decision, tables.Decided tenantId decision → ∀ nodeType,
      (((readSource tenantId now tables).traceOf decision).idsOf nodeType).Nodup) :
    tables.Aligned tenantId := by
  have hypotheses : ∀ hypothesis, tables.Explained tenantId hypothesis →
      hypothesis ∈ listHypotheses tenantId 500 0 tables.hypotheses := by
    intro hypothesis explained
    have met := (same .hypothesis (by decide) hypothesis.id).mp
      (List.mem_map_of_mem ((mem_reads_hypotheses keyed).mpr explained))
    obtain ⟨decision, decided, found⟩ := of_sameIds keyed.hypotheses
      (fun decision => ((readSource tenantId now tables).hypothesisOf decision).toList) explained.1
      (fun decision decided other member =>
        (hypothesisOf_explained keyed decided (Option.mem_toList.mp member)).1.1) met
    exact (hypothesisOf_explained keyed decided (Option.mem_toList.mp found)).2
  have patterns := exists_decided_iff now keyed hypotheses
    (fun decision hypothesis found pattern => mem_patternsOf keyed found)
    (fun decision missing => (traceOf_unexplained missing).2.1)
  have contexts := exists_decided_iff now keyed hypotheses
    (fun decision hypothesis found context => mem_contextsOf keyed found)
    (fun decision missing => (traceOf_unexplained missing).2.2.1)
  have observations : ∀ hypothesis, tables.Explained tenantId hypothesis →
      ∀ evidence, tables.EvidenceOf tenantId hypothesis evidence →
        ∀ observation ∈ tables.observations, observation.tenantId = tenantId →
          observation.id ∈ evidence.observationIds →
            ∃ listed ∈ listObservations tenantId 500 0 tables.observations,
              listed.id = observation.id := by
    intro hypothesis explained evidence ofHypothesis observation stored isTenant named
    obtain ⟨inEvidence, ownEvidence, context, ofContext, evidenceNamed⟩ := ofHypothesis
    have readContext := (mem_reads_contexts keyed).mpr (.inl ⟨hypothesis, explained, ofContext⟩)
    have readEvidence := (mem_reads_evidence keyed).mpr
      ⟨inEvidence, ownEvidence, context, readContext, evidenceNamed⟩
    obtain ⟨decision, decided, found⟩ := (same .observation (by decide) observation.id).mp
      (mem_reads_observations.mpr ⟨⟨evidence, readEvidence, named⟩, observation, stored, isTenant, rfl⟩)
    cases isHypothesis : (readSource tenantId now tables).hypothesisOf decision with
    | none =>
        have empty : observation.id ∈ (((readSource tenantId now tables).observationsOf
          decision).map Observation.id) := found
        rw [(traceOf_unexplained isHypothesis).2.2.2.2] at empty
        cases empty
    | some other =>
        obtain ⟨-, -, -, listed⟩ := (mem_observationsOf keyed isHypothesis).mp found
        exact listed
  refine
    { confidences := fun confidence stored isTenant referred => ?_
      hypotheses := hypotheses
      patterns := fun hypothesis explained pattern stored isTenant named => ?_
      contexts := fun hypothesis explained pattern ofHypothesis context stored isTenant refers => ?_
      observations := observations
      once := fun hypothesis explained => ?_ }
  · have met := (same .confidence (by decide) confidence.id).mp
      (List.mem_map_of_mem ((mem_reads_confidences keyed).mpr ⟨stored, isTenant, referred⟩))
    obtain ⟨decision, decided, found⟩ := of_sameIds keyed.confidences
      (fun decision => ((readSource tenantId now tables).traceOf decision).confidence.toList) stored
      (fun decision decided other member =>
        ((mem_listConfidence keyed.confidences).mp ((mem_confidenceOf keyed).mp member).1).1) met
    obtain ⟨listed, isId⟩ := (mem_confidenceOf keyed).mp found
    exact ⟨listed, decision, decided, isId⟩
  · have met := (same .pattern (by decide) pattern.id).mp (List.mem_map_of_mem
      ((mem_reads_patterns keyed).mpr (.inr ⟨hypothesis, explained, stored, isTenant, named⟩)))
    refine (patterns pattern).mp (of_sameIds keyed.patterns _ stored ?_ met)
    intro decision decided other member
    obtain ⟨_, _, ofOther⟩ := (patterns other).mp ⟨decision, decided, member⟩
    exact ofOther.1
  · have read := (mem_reads_patterns keyed).mpr (.inl ⟨hypothesis, explained, ofHypothesis⟩)
    have met := (same .context (by decide) context.id).mp (List.mem_map_of_mem
      ((mem_reads_contexts keyed).mpr (.inr ⟨pattern, read, stored, isTenant, refers⟩)))
    refine (contexts context).mp (of_sameIds keyed.contexts _ stored ?_ met)
    intro decision decided other member
    obtain ⟨_, _, ofOther⟩ := (contexts other).mp ⟨decision, decided, member⟩
    exact ofOther.1
  · obtain ⟨decision, decided, found⟩ := exists_hypothesisOf now keyed explained
      (hypotheses hypothesis explained)
    exact (nodup_traceOf keyed found (observations hypothesis explained)).mp (nodup decision decided)

/-- **Under the condition both walks meet the same ids** of every type. -/
theorem sameIds_of_aligned (keyed : tables.Keyed) (aligned : tables.Aligned tenantId)
    (nodeType : NodeType) (artifact : nodeType ≠ .report) :
    SameIds tables tenantId now nodeType := by
  have readPatterns : ∀ pattern, pattern ∈ (tenantReads tables tenantId).patterns ↔
      ∃ hypothesis, tables.Explained tenantId hypothesis ∧
        tables.PatternOf tenantId hypothesis pattern := by
    intro pattern
    refine (mem_reads_patterns keyed).trans (or_iff_left_of_imp ?_)
    rintro ⟨hypothesis, explained, stored, isTenant, named⟩
    exact aligned.patterns hypothesis explained pattern stored isTenant named
  have readContexts : ∀ context, context ∈ (tenantReads tables tenantId).contexts ↔
      ∃ hypothesis, tables.Explained tenantId hypothesis ∧
        tables.ContextOf tenantId hypothesis context := by
    intro context
    refine (mem_reads_contexts keyed).trans (or_iff_left_of_imp ?_)
    rintro ⟨pattern, read, stored, isTenant, refers⟩
    obtain ⟨hypothesis, explained, ofHypothesis⟩ := (readPatterns pattern).mp read
    exact aligned.contexts hypothesis explained pattern ofHypothesis context stored isTenant refers
  have readEvidence : ∀ evidence, evidence ∈ (tenantReads tables tenantId).evidence ↔
      ∃ hypothesis, tables.Explained tenantId hypothesis ∧
        tables.EvidenceOf tenantId hypothesis evidence := by
    intro evidence
    refine (mem_reads_evidence keyed).trans ⟨?_, ?_⟩
    · rintro ⟨stored, isTenant, context, read, named⟩
      obtain ⟨hypothesis, explained, ofHypothesis⟩ := (readContexts context).mp read
      exact ⟨hypothesis, explained, stored, isTenant, context, ofHypothesis, named⟩
    · rintro ⟨hypothesis, explained, stored, isTenant, context, ofHypothesis, named⟩
      exact ⟨stored, isTenant, context, (readContexts context).mpr ⟨hypothesis, explained, ofHypothesis⟩,
        named⟩
  cases nodeType with
  | report => exact absurd rfl artifact
  | decision =>
      have same : ∀ decision, decision ∈ (tenantReads tables tenantId).decisions ↔
          ∃ other, tables.Decided tenantId other ∧ decision ∈ [other] := by
        intro decision
        refine (mem_reads_decisions keyed).trans ⟨?_, ?_⟩
        · exact fun decided => ⟨decision, decided, List.mem_singleton_self _⟩
        · rintro ⟨other, decided, member⟩
          exact List.mem_singleton.mp member ▸ decided
      exact sameIds_of_rows Decision.id same
  | recommendation =>
      refine sameIds_of_rows Recommendation.id fun recommendation =>
        (mem_reads_recommendations keyed).trans ?_
      constructor
      · rintro ⟨stored, isTenant, decision, decided, isId⟩
        exact ⟨decision, decided, Option.mem_toList.mpr
          ((recommendationOf_eq_some keyed).mpr ⟨stored, isTenant, isId.symm⟩)⟩
      · rintro ⟨decision, decided, found⟩
        obtain ⟨stored, isTenant, isId⟩ :=
          (recommendationOf_eq_some keyed).mp (Option.mem_toList.mp found)
        exact ⟨stored, isTenant, decision, decided, isId.symm⟩
  | confidence =>
      refine sameIds_of_rows Confidence.id fun confidence => (mem_reads_confidences keyed).trans ?_
      simp only [mem_confidenceOf keyed]
      constructor
      · rintro ⟨stored, isTenant, referred⟩
        obtain ⟨listed, decision, decided, isId⟩ :=
          aligned.confidences confidence stored isTenant referred
        exact ⟨decision, decided, listed, isId⟩
      · rintro ⟨decision, decided, listed, isId⟩
        obtain ⟨stored, isTenant, -⟩ := (mem_listConfidence keyed.confidences).mp listed
        exact ⟨stored, isTenant, .inl ⟨decision, decided, isId⟩⟩
  | hypothesis =>
      refine sameIds_of_rows Hypothesis.id fun hypothesis => (mem_reads_hypotheses keyed).trans ?_
      constructor
      · intro explained
        obtain ⟨decision, decided, found⟩ := exists_hypothesisOf now keyed explained
          (aligned.hypotheses hypothesis explained)
        exact ⟨decision, decided, Option.mem_toList.mpr found⟩
      · rintro ⟨decision, decided, found⟩
        exact (hypothesisOf_explained keyed decided (Option.mem_toList.mp found)).1
  | anomaly =>
      refine sameIds_of_rows Anomaly.id fun anomaly => (mem_reads_anomalies keyed).trans ?_
      exact (exists_decided_iff now keyed aligned.hypotheses
        (fun decision hypothesis found anomaly => mem_anomaliesOf keyed found)
        (fun decision missing => (traceOf_unexplained missing).1) anomaly).symm
  | pattern =>
      refine sameIds_of_rows (fun row => row.id) fun pattern => (readPatterns pattern).trans ?_
      exact (exists_decided_iff now keyed aligned.hypotheses
        (fun decision hypothesis found pattern => mem_patternsOf keyed found)
        (fun decision missing => (traceOf_unexplained missing).2.1) pattern).symm
  | context =>
      refine sameIds_of_rows Context.id fun context => (readContexts context).trans ?_
      exact (exists_decided_iff now keyed aligned.hypotheses
        (fun decision hypothesis found context => mem_contextsOf keyed found)
        (fun decision missing => (traceOf_unexplained missing).2.2.1) context).symm
  | evidence =>
      refine sameIds_of_rows Evidence.id fun evidence => (readEvidence evidence).trans ?_
      exact (exists_decided_iff now keyed aligned.hypotheses
        (fun decision hypothesis found evidence => mem_evidenceOf keyed found)
        (fun decision missing => (traceOf_unexplained missing).2.2.2.1) evidence).symm
  | observation =>
      intro id
      refine mem_reads_observations.trans (Iff.trans ?_ (exists_decided_iff now keyed
        aligned.hypotheses (fun decision hypothesis found id => mem_observationsOf keyed found)
        (fun decision missing => ?_) id).symm)
      · constructor
        · rintro ⟨⟨evidence, read, named⟩, observation, stored, isTenant, rfl⟩
          obtain ⟨hypothesis, explained, ofHypothesis⟩ := (readEvidence evidence).mp read
          exact ⟨hypothesis, explained, evidence, ofHypothesis, named, aligned.observations hypothesis
            explained evidence ofHypothesis observation stored isTenant named⟩
        · rintro ⟨hypothesis, explained, evidence, ofHypothesis, named, listed, isListed, isId⟩
          obtain ⟨stored, isTenant⟩ := mem_listObservations isListed
          exact ⟨⟨evidence, (readEvidence evidence).mpr ⟨hypothesis, explained, ofHypothesis⟩, named⟩,
            listed, stored, isTenant, isId⟩
      · rw [(traceOf_unexplained missing).2.2.2.2]
        rfl

theorem nodup_of_aligned (keyed : tables.Keyed) (aligned : tables.Aligned tenantId)
    (decision : Decision) (decided : tables.Decided tenantId decision) (nodeType : NodeType) :
    (((readSource tenantId now tables).traceOf decision).idsOf nodeType).Nodup := by
  cases found : (readSource tenantId now tables).hypothesisOf decision with
  | none =>
      obtain ⟨anomalies, patterns, contexts, evidence, observations⟩ := traceOf_unexplained found
      cases nodeType with
      | report => exact List.nodup_nil
      | decision => exact List.nodup_singleton _
      | recommendation => exact nodup_toList _
      | confidence => exact nodup_toList _
      | hypothesis => exact nodup_toList _
      | anomaly => simp [DecisionTrace.idsOf, ReportSource.traceOf, anomalies]
      | pattern => simp [DecisionTrace.idsOf, ReportSource.traceOf, patterns]
      | context => simp [DecisionTrace.idsOf, ReportSource.traceOf, contexts]
      | evidence => simp [DecisionTrace.idsOf, ReportSource.traceOf, evidence]
      | observation => simp [DecisionTrace.idsOf, ReportSource.traceOf, observations]
  | some hypothesis =>
      have explained := (hypothesisOf_explained keyed decided found).1
      exact (nodup_traceOf keyed found (aligned.observations hypothesis explained)).mpr
        (aligned.once hypothesis explained) nodeType

/-- The two assemblers agree on a report: its traces list the artifacts that the gateway's trace of it has
as nodes, and no trace lists one twice. -/
def TracesAgree (std : Stdlib) (state : ReportState) (tenantId reportId : Uuid) : Prop :=
  ∃ trace, getTrace std state tenantId reportId = some trace ∧
    (∀ nodeType ≠ NodeType.report, ∀ id, id ∈ trace.idsOf nodeType ↔
      ∃ listed ∈ listedTraces trace.root.content, id ∈ listedIds std nodeType listed) ∧
    ∀ listed ∈ listedTraces trace.root.content, ∀ nodeType, (listedIds std nodeType listed).Nodup

theorem getTrace_written {env : ReportEnv} {state : ReportState} {report : Report Document}
    (created : (generate env tenantId "json" now state).1 = .ok (report, .created)) :
    ∃ trace, getTrace env.std (generate env tenantId "json" now state).2 tenantId report.id =
        some trace ∧
      (∀ nodeType ≠ NodeType.report, ∀ id, id ∈ trace.idsOf nodeType ↔
        id ∈ (tenantReads state.tables tenantId).idsOf nodeType) ∧
      listedTraces trace.root.content =
        (readSource tenantId now state.tables).traces.map (DecisionTrace.view env.toViewFormats) := by
  have ended := generate_cases env tenantId "json" now state
  generalize generate env tenantId "json" now state = ran at ended created ⊢
  obtain ⟨answer, after⟩ := ran
  obtain rfl : answer = .ok (report, .created) := created
  cases ended with
  | created _ payload row rendered converted fresh =>
      obtain ⟨document, isDocument, -, rfl⟩ := rendering_spec rendered
      have stores := Report.toRow_stores converted
      have only : ∀ other ∈ state.reports ++ [row], other.id = row.id → other = row := by
        intro other member same
        rcases List.mem_append.mp member with old | new
        · exact absurd same (fresh other old)
        · exact List.mem_singleton.mp new
      have found := find_report only (List.mem_append_right _ List.mem_cons_self)
      rw [stores.id, stores.tenantId] at found
      obtain ⟨trace, isTrace, root, nodes⟩ : ∃ trace, getTrace env.std
          { state.writeArtifact _ payload with reports := state.reports ++ [row] } tenantId _ =
            some trace ∧ trace.root = row ∧ _ := getTrace_found found
      rw [extractDecisionIds_rendered isDocument stores.content] at nodes
      refine ⟨trace, isTrace, nodes, ?_⟩
      rw [root]
      rw [← Except.ok.inj isDocument] at stores
      exact listedTraces_renderJson stores.content

theorem tracesAgree_iff_walks {env : ReportEnv} {state : ReportState} {report : Report Document}
    (created : (generate env tenantId "json" now state).1 = .ok (report, .created)) :
    TracesAgree env.std (generate env tenantId "json" now state).2 tenantId report.id ↔
      (∀ nodeType ≠ NodeType.report, SameIds state.tables tenantId now nodeType) ∧
        ∀ decision, state.tables.Decided tenantId decision → ∀ nodeType,
          (((readSource tenantId now state.tables).traceOf decision).idsOf nodeType).Nodup := by
  obtain ⟨trace, isTrace, nodes, listed⟩ := getTrace_written created
  have listsId : ∀ nodeType id, (∃ view ∈ listedTraces trace.root.content,
      id ∈ listedIds env.std nodeType view) ↔
        ∃ decision, state.tables.Decided tenantId decision ∧
          id ∈ ((readSource tenantId now state.tables).traceOf decision).idsOf nodeType := by
    intro nodeType id
    rw [listed, ReportSource.traces]
    simp only [List.mem_map, exists_exists_and_eq_and, listedIds_view, mem_decisions_readSource]
  have listsOnce : (∀ view ∈ listedTraces trace.root.content, ∀ nodeType,
      (listedIds env.std nodeType view).Nodup) ↔
        ∀ decision, state.tables.Decided tenantId decision → ∀ nodeType,
          (((readSource tenantId now state.tables).traceOf decision).idsOf nodeType).Nodup := by
    rw [listed, ReportSource.traces]
    simp only [List.forall_mem_map, listedIds_view, mem_decisions_readSource]
  constructor
  · rintro ⟨other, isOther, same, once⟩
    obtain rfl := Option.some.inj (isTrace.symm.trans isOther)
    refine ⟨fun nodeType artifact id => ?_, listsOnce.mp once⟩
    rw [← nodes nodeType artifact, same nodeType artifact, listsId]
  · rintro ⟨same, once⟩
    refine ⟨trace, isTrace, fun nodeType artifact id => ?_, listsOnce.mpr once⟩
    rw [nodes nodeType artifact, listsId]
    exact same nodeType artifact id

/-- **The two trace assemblers agree** on a JSON report that was just written exactly when the rows of its
tenant are aligned. -/
theorem traces_agree_iff (env : ReportEnv) (tenantId : Uuid) (now : Timestamp) (state : ReportState)
    (keyed : state.tables.Keyed) (report : Report Document)
    (created : (generate env tenantId "json" now state).1 = .ok (report, .created)) :
    TracesAgree env.std (generate env tenantId "json" now state).2 tenantId report.id ↔
      state.tables.Aligned tenantId := by
  rw [tracesAgree_iff_walks created]
  constructor
  · rintro ⟨same, once⟩
    exact aligned_of_sameIds now keyed same once
  · intro aligned
    exact ⟨sameIds_of_aligned keyed aligned, nodup_of_aligned keyed aligned⟩

/-- A decision on an offer for a crash, of which a hypothesis names some anomalies. -/
def crashReported (anomalies : List Anomaly) : ReportState where
  tables :=
    { reportedTables [{ reportedDecision 30 10 with recommendationId := 31 }] with
      recommendations := [crashOffer 21]
      confidences := [crashConfidence 21 5 0]
      hypotheses := [{ crashHypothesis "candidate" with anomalyIds := anomalies.map Anomaly.id }]
      anomalies := anomalies
      contexts := [crashContext] }
  reports := []
  files := fun _ => none

theorem crashReported_keyed {anomalies : List Anomaly} (distinct : (anomalies.map Anomaly.id).Nodup) :
    (crashReported anomalies).tables.Keyed where
  decisions := List.nodup_singleton _
  recommendations := List.nodup_singleton _
  contexts := List.nodup_singleton _
  confidences := List.nodup_singleton _
  hypotheses := List.nodup_singleton _
  anomalies := distinct
  patterns := List.nodup_nil
  evidence := List.nodup_nil

theorem crashReported_aligned : (crashReported [crashAnomaly]).tables.Aligned 1 := by
  have anomalyOf : ∀ hypothesis anomaly,
      (crashReported [crashAnomaly]).tables.AnomalyOf 1 hypothesis anomaly → anomaly = crashAnomaly :=
    fun _ _ ofHypothesis => List.mem_singleton.mp ofHypothesis.1
  have contextOf : ∀ hypothesis context,
      (crashReported [crashAnomaly]).tables.ContextOf 1 hypothesis context → context = crashContext :=
    fun _ _ ofHypothesis => List.mem_singleton.mp ofHypothesis.1
  refine
    { confidences := fun confidence stored _ _ => ?_
      hypotheses := fun hypothesis explained => ?_
      patterns := fun _ _ _ stored => nomatch stored
      contexts := fun _ _ _ ofHypothesis => nomatch ofHypothesis.1
      observations := fun _ _ _ ofHypothesis => nomatch ofHypothesis.1
      once := fun hypothesis explained => ?_ }
  · obtain rfl := List.mem_singleton.mp stored
    exact ⟨by decide +kernel, _, ⟨List.mem_singleton_self _, rfl⟩, rfl⟩
  · obtain rfl := List.mem_singleton.mp explained.1
    decide +kernel
  · obtain rfl := List.mem_singleton.mp explained.1
    exact
      { anomalies := List.pairwise_singleton _ _
        patterns := fun first second isFirst isSecond differ =>
          absurd ((anomalyOf _ _ isFirst).trans (anomalyOf _ _ isSecond).symm) differ
        contexts := fun first second isFirst isSecond differ =>
          absurd ((anomalyOf _ _ isFirst).trans (anomalyOf _ _ isSecond).symm) differ
        evidence := fun context isContext => contextOf _ _ isContext ▸ List.pairwise_singleton _ _
        sharedEvidence := fun first second isFirst isSecond differ =>
          absurd ((contextOf _ _ isFirst).trans (contextOf _ _ isSecond).symm) differ
        observations := fun _ isEvidence => nomatch isEvidence.1
        sharedObservations := fun _ _ isFirst => nomatch isFirst.1 }

/-- The traces of its report. -/
theorem crashReported_agrees :
    ∃ reportId, TracesAgree reportSample.std (generate reportSample 1 "json"
      ((1767225600 + 43200) * second) (crashReported [crashAnomaly])).2 1 reportId := by
  have answer : ((generate reportSample 1 "json" ((1767225600 + 43200) * second)
      (crashReported [crashAnomaly])).1.toOption.map Prod.snd) = some .created := by
    decide +kernel
  obtain ⟨report, created⟩ := exists_created answer
  exact ⟨report.id, (traces_agree_iff reportSample 1 ((1767225600 + 43200) * second)
    (crashReported [crashAnomaly]) (crashReported_keyed (List.nodup_singleton _)) report
    created).mpr crashReported_aligned⟩

/-- With two anomalies in one context, the trace of the decision lists the context twice. -/
theorem crashReported_repeats :
    ¬ ∀ (env : ReportEnv) (tenantId : Uuid) (now : Timestamp) (state : ReportState),
      state.tables.Keyed → ∀ report : Report Document,
      (generate env tenantId "json" now state).1 = .ok (report, .created) →
      TracesAgree env.std (generate env tenantId "json" now state).2 tenantId report.id := by
  intro agree
  have answer : ((generate reportSample 1 "json" ((1767225600 + 43200) * second)
      (crashReported [crashAnomaly, { crashAnomaly with id := 6 }])).1.toOption.map Prod.snd) =
        some .created := by
    decide +kernel
  obtain ⟨report, created⟩ := exists_created answer
  have walks := (tracesAgree_iff_walks created).mp
    (agree reportSample 1 _ _ (crashReported_keyed (by decide)) report created)
  have once := walks.2 { reportedDecision 30 10 with recommendationId := 31 }
    ⟨List.mem_singleton_self _, rfl⟩ .context
  revert once
  decide +kernel

end Agreement

end CosMonitor
