/-
**The cognitive timeline — the events of a tenant from twelve readers, sorted by the text of their time.**

Each source lists its newest rows. A source without a reader, or whose reader fails, is skipped, and so is a row
that is no object or has no time. The events are sorted by their texts, the latest first unless asked otherwise.

* `timelineSources`, `titleDetail`, `timelineEvent`: the sources, and the event of a row;
* `buildCognitiveTimeline`: the loop over the sources, its counts, and the sort;
* `addSources_collects`: what the loop has collected and counted;
* `timeline_ordered`: where the times are UTC texts, the events are in the order of their instants that was asked
  for, and the total is the sum of the counts by layer, and by concept, and the number of rows that were kept;
* `default_not_chronological`: without an order the latest event comes first.
-/

import CosMonitor.Base.Dates
import CosMonitor.Base.Stdlib
import CosMonitor.Foundation.Result
import CosMonitor.Foundation.Sorting
import CosMonitor.Foundation.Tally

namespace CosMonitor

open Result Sorting

/-! ### Sources -/

section Sources

/-- What an event is about. -/
inductive TimelineConcept where
  | observation
  | evidence
  | context
  | pattern
  | anomaly
  | hypothesis
  | insight
  | recommendation
  | decision
  | report
  | confidence
  | audit
  deriving DecidableEq, Repr

/-- The layer of an event. -/
inductive TimelineLayer where
  | perception
  | reasoning
  | action
  | memory
  | confidence
  deriving DecidableEq, Repr

/-- A source: its concept and layer, the key of its rows in the payload, and the field of their time. -/
structure TimelineSource where
  concept : TimelineConcept
  layer : TimelineLayer
  responseKey : String
  tsField : String
  deriving DecidableEq, Repr

/-- `_SOURCES`. -/
def timelineSources : List TimelineSource :=
  [⟨.observation, .perception, "observations", "captured_at"⟩,
    ⟨.evidence, .perception, "evidence", "organized_at"⟩,
    ⟨.context, .perception, "contexts", "activated_at"⟩,
    ⟨.pattern, .reasoning, "patterns", "detected_at"⟩,
    ⟨.anomaly, .reasoning, "anomalies", "detected_at"⟩,
    ⟨.hypothesis, .reasoning, "hypotheses", "generated_at"⟩,
    ⟨.insight, .reasoning, "insights", "generated_at"⟩,
    ⟨.recommendation, .action, "recommendations", "proposed_at"⟩,
    ⟨.decision, .action, "decisions", "committed_at"⟩,
    ⟨.report, .memory, "reports", "generated_at"⟩,
    ⟨.confidence, .confidence, "confidence", "computed_at"⟩,
    ⟨.audit, .memory, "entries", "timestamp"⟩]

/-- The list method of a reader, for a tenant and a limit; `none` is any exception. -/
abbrev TimelineReader := Uuid → Int → Option Json

/-- The readers of a call; a source may have none. -/
abbrev TimelineReaders := TimelineConcept → Option TimelineReader

/-- `for item in value`. -/
def iterate : Json → Except PyError (List Json)
  | .arr items => .ok items
  | .obj fields => .ok (fields.map fun field => .str field.1)
  | .str text => .ok (text.toList.map fun character => .str (String.singleton character))
  | .null | .bool _ | .int _ | .float _ => .error .typeError

/-- The rows of a payload; a payload that is no object has none. -/
def payloadItems (responseKey : String) (payload : Json) : Except PyError (List Json) :=
  if payload.isDict then iterate ((payload.lookup responseKey).getD (.arr [])) else .ok []

/-- The rows of a source. -/
def sourceItems (readers : TimelineReaders) (tenantId : Uuid) (limit : Int) (source : TimelineSource) :
    Except PyError (List Json) :=
  match readers source.concept with
  | none => .ok []
  | some list =>
      match list tenantId limit with
      | none => .ok []
      | some payload => payloadItems source.responseKey payload

end Sources

/-! ### Events -/

section Events

/-- A single cognitive event of a tenant. -/
structure TimelineEvent where
  tenantId : Uuid
  layer : TimelineLayer
  concept : TimelineConcept
  id : String
  timestamp : String
  title : String
  detail : String
  targetType : Json
  targetId : Option String
  status : Json
  deriving DecidableEq, Repr

variable (std : Stdlib)

/-- `str(item.get(name))`, as a format string writes it. -/
def shownField (item : Json) (name : String) : String :=
  std.str (item.get name)

/-- `str(item.get(name, fallback))`. -/
def shownFieldOr (item : Json) (name fallback : String) : String :=
  std.str ((item.lookup name).getD (.str fallback))

/-- `_short`: the first eighty characters. -/
def shortText (value : Json) : String :=
  match value with
  | .null => ""
  | other =>
      let text := std.str other
      if text.length ≤ 80 then text else String.ofList (text.toList.take 80) ++ "..."

/-- `text.strip()`. -/
def stripText (text : String) : String :=
  String.ofList (stripChars text.toList)

/-- `_title_detail`: title, detail and status of a row. -/
def titleDetail (concept : TimelineConcept) (item : Json) : String × String × Json :=
  match concept with
  | .observation =>
      ("Observation: " ++ shownFieldOr std item "fact_type" "?",
        stripText (shortText std (item.get "fact_value") ++ " " ++ shownFieldOr std item "unit" "" ++
          " (quality=" ++ shownField std item "quality_class" ++ ")"), .null)
  | .evidence =>
      ("Evidence: " ++ shownFieldOr std item "metric" "?",
        "unit=" ++ shownField std item "unit" ++ ", quality=" ++ shownField std item "quality_class", .null)
  | .context =>
      ("Context activated",
        "coherence=" ++ shownField std item "coherence_score" ++ ", models=" ++
          shownField std item "competing_models", .null)
  | .pattern =>
      ("Pattern: " ++ shownFieldOr std item "pattern_type" "?",
        "strength=" ++ shownField std item "strength_measure" ++ ", frequency=" ++
          shownField std item "frequency", .null)
  | .anomaly =>
      ("Anomaly: " ++ shownFieldOr std item "anomaly_class" "?",
        "deviation=" ++ shownField std item "deviation_score" ++ " (tol=" ++
          shownField std item "tolerance_threshold" ++ ")", .null)
  | .hypothesis =>
      ("Hypothesis (" ++ shownField std item "status" ++ ")",
        shortText std ((item.get "statement").or (item.get "rationale")), item.get "status")
  | .insight =>
      ("Insight",
        shortText std ((item.get "mental_model_update").or (item.get "prior_understanding")), .null)
  | .recommendation =>
      ("Recommendation (" ++ shownField std item "status" ++ ")",
        "confidence=" ++ shownField std item "confidence_score", item.get "status")
  | .decision =>
      ("Decision (" ++ shownField std item "status" ++ ")",
        "risk=" ++ shownField std item "risk_tolerance", item.get "status")
  | .report =>
      ("Report (" ++ shownFieldOr std item "model_used" "?" ++ ")",
        shownField std item "period_start" ++ ".." ++ shownField std item "period_end", .null)
  | .confidence =>
      ("Confidence: " ++ shownFieldOr std item "target_type" "?",
        "alpha=" ++ shownField std item "alpha" ++ ", support=" ++
          shownField std item "evidential_support", .null)
  | .audit =>
      (stripText (shownFieldOr std item "cognitive_concept" "?" ++ " " ++ shownFieldOr std item "action" ""),
        "layer=" ++ shownField std item "cognitive_layer", .null)

/-- The row is an object with a time. -/
def TimelineSource.keeps (source : TimelineSource) (item : Json) : Bool :=
  item.isDict && item.get source.tsField != .null

/-- The event of a row. -/
def timelineEvent (tenantId : Uuid) (source : TimelineSource) (item : Json) : Option TimelineEvent :=
  if source.keeps item then
    let (title, detail, status) := titleDetail std source.concept item
    some {
      tenantId
      layer := source.layer
      concept := source.concept
      id := shownFieldOr std item "id" ""
      timestamp := shownField std item source.tsField
      title
      detail
      targetType := item.get "target_type"
      targetId :=
        if item.get "target_id" = .null then none else some (shownField std item "target_id")
      status }
  else none

end Events

/-! ### The timeline -/

section Build

/-- What the loop over the sources has collected. -/
structure TimelineState where
  events : List TimelineEvent
  perLayer : List (TimelineLayer × Nat)
  perConcept : List (TimelineConcept × Nat)
  deriving DecidableEq, Repr

/-- The chronological reconstruction of a tenant. -/
structure CognitiveTimelineReport where
  tenantId : Uuid
  events : List TimelineEvent
  total : Nat
  perLayerCounts : List (TimelineLayer × Nat)
  perConceptCounts : List (TimelineConcept × Nat)
  ascending : Bool
  deriving DecidableEq, Repr

variable (std : Stdlib) (readers : TimelineReaders) (tenantId : Uuid) (limit : Int)

/-- Append an event and count it. -/
def TimelineState.add (state : TimelineState) (event : TimelineEvent) : TimelineState where
  events := state.events ++ [event]
  perLayer := Tally.increment event.layer state.perLayer
  perConcept := Tally.increment event.concept state.perConcept

/-- The loop over the rows of a source. -/
def addItems (source : TimelineSource) (state : TimelineState) (items : List Json) : TimelineState :=
  items.foldl
    (fun state item =>
      match timelineEvent std tenantId source item with
      | some event => state.add event
      | none => state) state

/-- One round of the loop over the sources. -/
def addSource (state : TimelineState) (source : TimelineSource) : Except PyError TimelineState := do
  let items ← sourceItems readers tenantId limit source
  return addItems std tenantId source state items

/-- `events.sort(key=timestamp, reverse=not ascending)`. -/
def sortEvents (ascending : Bool) (events : List TimelineEvent) : List TimelineEvent :=
  if ascending then sortBy TimelineEvent.timestamp events
  else sortByDesc TimelineEvent.timestamp events

/-- `build_cognitive_timeline`; the default of `ascending` is `False`. -/
def buildCognitiveTimeline (ascending : Bool) : Except PyError CognitiveTimelineReport := do
  let state ← timelineSources.foldlM (addSource std readers tenantId limit) ⟨[], [], []⟩
  return {
    tenantId
    events := sortEvents ascending state.events
    total := (sortEvents ascending state.events).length
    perLayerCounts := state.perLayer
    perConceptCounts := state.perConcept
    ascending }

end Build

/-! ### What the loop collects -/

section Collected

variable {std : Stdlib} {readers : TimelineReaders} {tenantId : Uuid} {limit : Int}

/-- The rows of a source that become events, if its rows can be listed. -/
def keptItems (readers : TimelineReaders) (tenantId : Uuid) (limit : Int) (source : TimelineSource) :
    List Json :=
  ((sourceItems readers tenantId limit source).toOption.getD []).filter source.keeps

/-- The counts of a state are those of its events. -/
def TimelineState.Counted (state : TimelineState) : Prop :=
  state.perLayer = Tally.count (state.events.map TimelineEvent.layer) [] ∧
    state.perConcept = Tally.count (state.events.map TimelineEvent.concept) []

theorem TimelineState.Counted.add {state : TimelineState} (counted : state.Counted)
    (event : TimelineEvent) : (state.add event).Counted := by
  obtain ⟨layers, concepts⟩ := counted
  constructor
  · simp [TimelineState.add, Tally.count, layers]
  · simp [TimelineState.add, Tally.count, concepts]

theorem addItems_collects {source : TimelineSource} {state : TimelineState} (counted : state.Counted)
    (items : List Json) :
    (addItems std tenantId source state items).Counted ∧
      (addItems std tenantId source state items).events =
        state.events ++ items.filterMap (timelineEvent std tenantId source) := by
  induction items generalizing state with
  | nil => exact ⟨counted, (List.append_nil _).symm⟩
  | cons item rest ih =>
      rcases found : timelineEvent std tenantId source item with - | event
      · have next := ih counted
        rw [List.filterMap_cons, found]
        unfold addItems at next ⊢
        rw [List.foldl_cons, found]
        exact next
      · obtain ⟨kept, same⟩ := ih (counted.add event)
        rw [List.filterMap_cons, found]
        unfold addItems at kept same ⊢
        rw [List.foldl_cons, found]
        refine ⟨kept, same.trans ?_⟩
        rw [TimelineState.add, List.append_assoc, List.singleton_append]

/-- **The loop over the sources** collects the events of the rows that are kept, and counts each once. -/
theorem addSources_collects {sources : List TimelineSource} {state : TimelineState}
    (counted : state.Counted)
    (lists : ∀ source ∈ sources, ∃ items, sourceItems readers tenantId limit source = .ok items) :
    ∃ final, sources.foldlM (addSource std readers tenantId limit) state = .ok final ∧ final.Counted ∧
      final.events = state.events ++ sources.flatMap fun source =>
        (keptItems readers tenantId limit source).filterMap (timelineEvent std tenantId source) := by
  induction sources generalizing state with
  | nil => exact ⟨state, rfl, counted, (List.append_nil _).symm⟩
  | cons source rest ih =>
      obtain ⟨⟨items, listed⟩, others⟩ := List.forall_mem_cons.mp lists
      obtain ⟨countedNext, added⟩ := addItems_collects counted items
      obtain ⟨final, ran, kept, same⟩ := ih countedNext others
      refine ⟨final, ?_, kept, ?_⟩
      · rw [List.foldlM_cons, addSource, listed]
        exact ran
      · have sourceEvents : (keptItems readers tenantId limit source).filterMap
            (timelineEvent std tenantId source) = items.filterMap (timelineEvent std tenantId source) := by
          unfold keptItems
          rw [listed, List.filterMap_filter]
          refine List.filterMap_congr fun item _ => ?_
          unfold timelineEvent
          split <;> rfl
        rw [same, added, List.flatMap_cons, sourceEvents, List.append_assoc]

theorem timelineEvent_kept {source : TimelineSource} {item : Json} (kept : source.keeps item = true) :
    ∃ event, timelineEvent std tenantId source item = some event := by
  unfold timelineEvent
  rw [if_pos kept]
  exact ⟨_, rfl⟩

theorem length_kept {source : TimelineSource} {items : List Json}
    (kept : ∀ item ∈ items, source.keeps item = true) :
    (items.filterMap (timelineEvent std tenantId source)).length = items.length := by
  induction items with
  | nil => rfl
  | cons item rest ih =>
      obtain ⟨first, others⟩ := List.forall_mem_cons.mp kept
      obtain ⟨event, found⟩ := timelineEvent_kept first
      rw [List.filterMap_cons, found, List.length_cons, ih others, List.length_cons]

end Collected

/-! ### The order of the events -/

section Order

variable {std : Stdlib} {readers : TimelineReaders} {tenantId : Uuid} {limit : Int}

/-- The sources list rows whose times are UTC texts. -/
def UtcSources (readers : TimelineReaders) (tenantId : Uuid) (limit : Int) : Prop :=
  ∀ source ∈ timelineSources, ∃ items, sourceItems readers tenantId limit source = .ok items ∧
    ∀ item ∈ items, source.keeps item = true →
      ∃ time : UtcDatetime, item.get source.tsField = .str time.isoformat

/-- The times are in ascending or in descending order. -/
def InOrder (ascending : Bool) (times : List UtcDatetime) : Prop :=
  times.Pairwise fun first second =>
    if ascending then first.instant ≤ second.instant else second.instant ≤ first.instant

/-- The events of the rows that are kept. -/
def timelineEvents (std : Stdlib) (readers : TimelineReaders) (tenantId : Uuid) (limit : Int) :
    List TimelineEvent :=
  timelineSources.flatMap fun source =>
    (keptItems readers tenantId limit source).filterMap (timelineEvent std tenantId source)

theorem UtcSources.times (utc : UtcSources readers tenantId limit) {event : TimelineEvent}
    (member : event ∈ timelineEvents std readers tenantId limit) :
    ∃ time : UtcDatetime, event.timestamp = time.isoformat := by
  obtain ⟨source, sourceIn, inSource⟩ := List.mem_flatMap.mp member
  obtain ⟨item, kept, found⟩ := List.mem_filterMap.mp inSource
  obtain ⟨items, listed, timed⟩ := utc source sourceIn
  unfold keptItems at kept
  rw [listed] at kept
  obtain ⟨itemIn, keeps⟩ := List.mem_filter.mp kept
  obtain ⟨time, same⟩ := timed item itemIn keeps
  refine ⟨time, ?_⟩
  unfold timelineEvent at found
  rw [if_pos keeps] at found
  rw [← Option.some.inj found]
  show std.str (item.get source.tsField) = _
  rw [same]
  rfl

theorem length_timelineEvents :
    (timelineEvents std readers tenantId limit).length =
      (timelineSources.map fun source => (keptItems readers tenantId limit source).length).sum := by
  unfold timelineEvents
  rw [List.length_flatMap]
  refine congrArg List.sum (List.map_congr_left fun source _ => length_kept fun item member => ?_)
  exact (List.mem_filter.mp member).2

theorem sortEvents_perm (ascending : Bool) (events : List TimelineEvent) :
    (sortEvents ascending events).Perm events := by
  cases ascending with
  | true => exact sortBy_perm _ events
  | false => exact sortByDesc_perm _ events

theorem exists_map_eq {First Second Value : Type} {read : First → Value} {write : Second → Value}
    {items : List First} (written : ∀ item ∈ items, ∃ other, read item = write other) :
    ∃ others : List Second, items.map read = others.map write := by
  induction items with
  | nil => exact ⟨[], rfl⟩
  | cons item rest ih =>
      obtain ⟨⟨other, same⟩, later⟩ := List.forall_mem_cons.mp written
      obtain ⟨others, sameRest⟩ := ih later
      exact ⟨other :: others, congrArg₂ List.cons same sameRest⟩

/-- **Events sorted by their texts are sorted by their instants.** -/
theorem sortEvents_inOrder {events : List TimelineEvent}
    (timed : ∀ event ∈ events, ∃ time : UtcDatetime, event.timestamp = time.isoformat)
    (ascending : Bool) :
    ∃ times, (sortEvents ascending events).map TimelineEvent.timestamp =
        times.map UtcDatetime.isoformat ∧ InOrder ascending times := by
  obtain ⟨times, same⟩ := exists_map_eq fun event member =>
    timed event ((sortEvents_perm ascending events).mem_iff.mp member)
  refine ⟨times, same, ?_⟩
  cases ascending with
  | true =>
      have sorted : ((sortEvents true events).map TimelineEvent.timestamp).Pairwise
          fun first second => first ≤ second :=
        List.pairwise_map.mpr (pairwise_sortBy TimelineEvent.timestamp events)
      rw [same, List.pairwise_map] at sorted
      exact sorted.imp UtcDatetime.isoformat_le_iff.mp
  | false =>
      have sorted : ((sortEvents false events).map TimelineEvent.timestamp).Pairwise
          fun first second => second ≤ first :=
        List.pairwise_map.mpr (pairwise_sortByDesc TimelineEvent.timestamp events)
      rw [same, List.pairwise_map] at sorted
      exact sorted.imp UtcDatetime.isoformat_le_iff.mp

/-- What a timeline promises: the events of the rows that are kept, in order, and counted by layer and by concept. -/
structure TimelinePromise (std : Stdlib) (readers : TimelineReaders) (tenantId : Uuid) (limit : Int)
    (ascending : Bool) (report : CognitiveTimelineReport) : Prop where
  events : report.events.Perm (timelineEvents std readers tenantId limit)
  order : ∃ times, report.events.map TimelineEvent.timestamp = times.map UtcDatetime.isoformat ∧
    InOrder ascending times
  layers : ∀ layer, (report.perLayerCounts.lookup layer).getD 0 =
    (report.events.map TimelineEvent.layer).count layer
  concepts : ∀ concept, (report.perConceptCounts.lookup concept).getD 0 =
    (report.events.map TimelineEvent.concept).count concept
  byLayer : report.total = Tally.total report.perLayerCounts
  byConcept : report.total = Tally.total report.perConceptCounts
  kept : report.total =
    (timelineSources.map fun source => (keptItems readers tenantId limit source).length).sum

/-- **The timeline of UTC sources** is returned, in the order that was asked for, and its total is the sum of the
counts by layer, the sum of the counts by concept, and the number of rows that were kept. -/
theorem timeline_ordered (std : Stdlib) (readers : TimelineReaders) (tenantId : Uuid) (limit : Int)
    (ascending : Bool) (utc : UtcSources readers tenantId limit) :
    ∃ report, buildCognitiveTimeline std readers tenantId limit ascending = .ok report ∧
      TimelinePromise std readers tenantId limit ascending report := by
  have lists : ∀ source ∈ timelineSources, ∃ items,
      sourceItems readers tenantId limit source = .ok items := by
    intro source member
    obtain ⟨items, listed, -⟩ := utc source member
    exact ⟨items, listed⟩
  have start : TimelineState.Counted ⟨[], [], []⟩ := ⟨rfl, rfl⟩
  obtain ⟨final, ran, ⟨layers, concepts⟩, collected⟩ := addSources_collects start lists
  have same : final.events = timelineEvents std readers tenantId limit := collected
  have sorted := sortEvents_perm ascending final.events
  refine ⟨_, bind_eq_ok.mpr ⟨final, ran, rfl⟩, ?_, ?_, ?_, ?_, ?_, ?_, ?_⟩
  · rw [← same]
    exact sorted
  · refine sortEvents_inOrder (fun event member => ?_) ascending
    rw [same] at member
    exact utc.times member
  · intro layer
    show (final.perLayer.lookup layer).getD 0 = _
    rw [layers, Tally.lookup_counts, (sorted.map TimelineEvent.layer).count_eq]
    exact Nat.zero_add _
  · intro concept
    show (final.perConcept.lookup concept).getD 0 = _
    rw [concepts, Tally.lookup_counts, (sorted.map TimelineEvent.concept).count_eq]
    exact Nat.zero_add _
  · show (sortEvents ascending final.events).length = Tally.total final.perLayer
    rw [layers, Tally.total_counts, sorted.length_eq, List.length_map]
    exact (Nat.zero_add _).symm
  · show (sortEvents ascending final.events).length = Tally.total final.perConcept
    rw [concepts, Tally.total_counts, sorted.length_eq, List.length_map]
    exact (Nat.zero_add _).symm
  · show (sortEvents ascending final.events).length = _
    rw [sorted.length_eq, same, length_timelineEvents]

/-- Noon of the first day of 2026, and half a second later. -/
def noon : UtcDatetime :=
  ⟨2026, 1, 1, 12, 0, 0, 0, by decide, by decide, by decide, by decide, by decide, by decide, by decide⟩

def afterNoon : UtcDatetime :=
  ⟨2026, 1, 1, 12, 0, 0, 500000, by decide, by decide, by decide, by decide, by decide, by decide,
    by decide⟩

/-- Two observations, and a reader of evidence that fails. -/
def noonReaders : TimelineReaders
  | .observation => some fun _ _ => some (.obj [("observations", .arr
      [.obj [("id", .int 1), ("captured_at", .str noon.isoformat)],
        .obj [("id", .int 2), ("captured_at", .str afterNoon.isoformat)],
        .obj [("id", .int 3)]])])
  | .evidence => some fun _ _ => none
  | _ => none

theorem noonReaders_silent {source : TimelineSource} (other : source.concept ≠ .observation)
    (tenantId : Uuid) (limit : Int) : sourceItems noonReaders tenantId limit source = .ok [] := by
  obtain ⟨concept, layer, responseKey, tsField⟩ := source
  cases concept with
  | observation => exact absurd rfl other
  | _ => rfl

theorem noonReaders_utc (tenantId : Uuid) (limit : Int) : UtcSources noonReaders tenantId limit := by
  refine List.forall_mem_cons.mpr ⟨⟨_, rfl, ?_⟩, ?_⟩
  · intro item member keeps
    rcases List.mem_cons.mp member with rfl | later
    · exact ⟨noon, rfl⟩
    rcases List.mem_cons.mp later with rfl | last
    · exact ⟨afterNoon, rfl⟩
    rw [List.mem_singleton.mp last] at keeps
    cases keeps
  · intro source member
    have other : ∀ source ∈ timelineSources.tail, source.concept ≠ .observation := by decide
    exact ⟨[], noonReaders_silent (other source member) tenantId limit, fun _ inside => nomatch inside⟩

/-- Two events are counted; a row without a time and a failing reader are not. -/
theorem noon_timeline : ∃ report,
    buildCognitiveTimeline .constant noonReaders 1 20 true = .ok report ∧
      TimelinePromise .constant noonReaders 1 20 true report :=
  timeline_ordered .constant noonReaders 1 20 true (noonReaders_utc 1 20)

/-- **Without an order the latest event comes first.** -/
theorem default_not_chronological :
    ¬ ∀ (std : Stdlib) (readers : TimelineReaders) (tenantId : Uuid) (limit : Int) (ascending : Bool),
      UtcSources readers tenantId limit →
      ∃ report, buildCognitiveTimeline std readers tenantId limit ascending = .ok report ∧
        ∃ times, report.events.map TimelineEvent.timestamp = times.map UtcDatetime.isoformat ∧
          InOrder true times := by
  intro chronological
  obtain ⟨report, built, times, same, ordered⟩ :=
    chronological .constant noonReaders 1 20 false (noonReaders_utc 1 20)
  have texts : (buildCognitiveTimeline .constant noonReaders 1 20 false).toOption.map
      (fun report => report.events.map TimelineEvent.timestamp) =
        some [afterNoon.isoformat, noon.isoformat] := by
    decide +kernel
  rw [built] at texts
  have latestFirst : times.map UtcDatetime.isoformat = [afterNoon.isoformat, noon.isoformat] :=
    same.symm.trans (Option.some.inj texts)
  have sorted : ([afterNoon.isoformat, noon.isoformat] : List String).Pairwise (· ≤ ·) := by
    rw [← latestFirst]
    exact List.pairwise_map.mpr (ordered.imp UtcDatetime.isoformat_le_iff.mpr)
  have below : afterNoon.isoformat ≤ noon.isoformat :=
    (List.pairwise_cons.mp sorted).1 _ (List.mem_singleton_self _)
  exact absurd (UtcDatetime.isoformat_le_iff.mp below) (by decide)

end Order

end CosMonitor
