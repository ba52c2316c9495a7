/-
**Every artifact of the cognitive pipeline is traced**, in every interleaving of the services.

A service computes from rows that it has read statement by statement, while the others write. What it has
read is still there when it writes, as rows are only added; so what it writes names rows that are stored,
and the invariant of the tables holds whatever runs in between, fails or is started again.

* `PipelineState.Sound`: the tables are traced, and the buffered observations are stored;
* `collectCycle_grows` … `restructureTenant_grows`: every service keeps it from any state that has it;
* `pipeline_grows`: so does every run of the pipeline, and no row is lost or rewritten;
* `insights_traced`: in every state of a run, every insight leads down to stored observations.
-/

import CosMonitor.Pipeline.Services
import CosMonitor.Reasoning.ActiveArgument

namespace CosMonitor

open Interleaving Result Sorting Transition

/-! ### The invariant -/

instance : Preorder PipelineState :=
  Preorder.lift PipelineState.knowledge

namespace PipelineState

/-- An observation is stored under its id. -/
def Stores (state : PipelineState) (observation : Observation) : Prop :=
  ∃ row ∈ state.knowledge.observations, row.id = observation.id

/-- The tables are traced, and what the collector has buffered is stored. -/
structure Sound (state : PipelineState) : Prop where
  traceable : state.knowledge.Traceable
  buffered : ∀ observation ∈ state.window, state.Stores observation

theorem Stores.mono {before after : PipelineState} (grown : before ≤ after) {observation : Observation}
    (stores : before.Stores observation) : after.Stores observation := by
  obtain ⟨row, member, same⟩ := stores
  exact ⟨row, grown.observations.subset member, same⟩

end PipelineState

open PipelineState

theorem Knowledge.Leads.sound {state : PipelineState} {after : Knowledge}
    (leads : state.knowledge.Leads after) (sound : state.Sound) :
    PipelineState.Sound { state with knowledge := after } where
  traceable := leads.2
  buffered observation member := (sound.buffered observation member).mono leads.1

/-- The program grows from a state, and keeps the invariant. -/
def Keeps {Value : Type} (invariant : PipelineState → Prop) (program : ServiceProgram Value)
    (since : PipelineState) : Prop :=
  program.Grows True invariant (fun _ _ => True) since

section Rules

variable {First Value Row : Type} {invariant : PipelineState → Prop} {since : PipelineState}

theorem keeps_pure {value : Value} : Keeps invariant (pure value) since :=
  trivial

theorem keeps_done {result : Except ServiceError Value} : Keeps invariant (.done result) since :=
  trivial

theorem keeps_select {view : Knowledge → First} {rest : First → ServiceProgram Value}
    (keeps : ∀ state, since ≤ state → invariant state → Keeps invariant (rest (view state.knowledge)) state) :
    Keeps invariant (select view >>= rest) since :=
  Program.Grows.bind (Program.Grows.query keeps fun _ => trivial)

theorem keeps_bind {program : ServiceProgram First} {rest : First → ServiceProgram Value}
    (first : Keeps invariant program since)
    (keeps : ∀ value state, since ≤ state → Keeps invariant (rest value) state) :
    Keeps invariant (program >>= rest) since := by
  refine Program.Grows.bind (first.above.weaken ?_)
  rintro state (failure | value) ⟨above, -⟩
  · trivial
  · exact keeps value state above

theorem keeps_compute {result : Except ServiceError First} {rest : First → ServiceProgram Value}
    (keeps : ∀ value, result = .ok value → Keeps invariant (rest value) since) :
    Keeps invariant (compute result >>= rest) since := by
  rcases result with failure | value
  · exact keeps_done
  · exact keeps value rfl

theorem keeps_attempted {program : ServiceProgram First}
    {rest : Except ServiceError First → ServiceProgram Value} (first : Keeps invariant program since)
    (keeps : ∀ result state, since ≤ state → Keeps invariant (rest result) state) :
    Keeps invariant (program.attempted >>= rest) since := by
  refine Program.Grows.bind (Program.Grows.attempted ?_)
  exact first.above.weaken fun state result ended => keeps result state ended.1

theorem keeps_save {save : Effect Knowledge ServiceError Bool}
    (leads : ∀ state, since ≤ state → invariant state → state.knowledge ≤ (save state.knowledge).2 ∧
      invariant { state with knowledge := (save state.knowledge).2 }) :
    Keeps invariant (store save) since := by
  refine Program.Grows.perform (fun state above holds => ?_) fun _ => trivial
  exact ⟨(leads state above holds).1, (leads state above holds).2, trivial⟩

theorem keeps_store {save : Effect Knowledge ServiceError Bool}
    (leads : ∀ state, since ≤ state → state.Sound → state.knowledge.Leads (save state.knowledge).2) :
    Keeps PipelineState.Sound (store save) since :=
  keeps_save fun state above sound => ⟨(leads state above sound).1, (leads state above sound).sound sound⟩

/-- **The loop over rows.** `refers` says what a row refers to, in the tables of a state. -/
theorem saveRows_grows {save : Row → Effect Knowledge ServiceError Bool} (refers : Knowledge → Row → Prop)
    (stays : ∀ {before after}, before ≤ after → ∀ {row}, refers before row → refers after row)
    (leads : ∀ {state}, invariant state → ∀ {row}, refers state.knowledge row →
      state.knowledge ≤ (save row state.knowledge).2 ∧
        invariant { state with knowledge := (save row state.knowledge).2 })
    (counts : SaveCounts) {rows : List Row} (refer : ∀ row ∈ rows, refers since.knowledge row) :
    Keeps invariant (saveRows save counts rows) since := by
  induction rows generalizing counts since with
  | nil => exact keeps_pure
  | cons row rest ih =>
      have own := refer row List.mem_cons_self
      refine keeps_attempted (keeps_save fun state above holds => ?_) fun result state above => ?_
      · exact leads holds (stays above own)
      · rcases result with failure | stored
        · exact keeps_pure
        · exact ih _ fun other member => stays above (refer other (List.mem_cons_of_mem _ member))

theorem saveRows_keeps {save : Row → Effect Knowledge ServiceError Bool} (traced : Knowledge → Row → Prop)
    (stays : ∀ {before after}, before ≤ after → ∀ {row}, traced before row → traced after row)
    (leads : ∀ {knowledge : Knowledge}, knowledge.Traceable → ∀ {row}, traced knowledge row →
      knowledge.Leads (save row knowledge).2)
    (counts : SaveCounts) {rows : List Row} (refer : ∀ row ∈ rows, traced since.knowledge row) :
    Keeps PipelineState.Sound (saveRows save counts rows) since :=
  saveRows_grows traced stays
    (fun sound _ isTraced => ⟨(leads sound.traceable isTraced).1, (leads sound.traceable isTraced).sound sound⟩)
    counts refer

end Rules

theorem mem_mapIdx {First Second : Type} {build : Nat → First → Second} {items : List First} {made : Second}
    (member : made ∈ items.mapIdx build) : ∃ index item, item ∈ items ∧ build index item = made := by
  obtain ⟨index, inside, rfl⟩ := List.mem_mapIdx.mp member
  exact ⟨index, items[index], List.getElem_mem inside, rfl⟩

/-! ### The collector -/

section Collector

variable {env : ConsumerEnv} {since : PipelineState}

theorem persistSteps_grows (observation : Observation) :
    (persistSteps env observation).Grows True PipelineState.Sound (fun state result =>
      ∀ duplicate, result = .ok duplicate → state.Stores observation) since := by
  refine Program.Grows.bind (Program.Grows.query (fun state _ _ => ?_) fun _ _ => nofun)
  dsimp only
  split
  · rename_i present
    intro _ _
    obtain ⟨row, member, same⟩ := List.any_eq_true.mp present
    exact ⟨row, member, congrArg Prod.fst (of_decide_eq_true same)⟩
  · refine Program.Grows.bind (Program.Grows.perform (fun later _ sound => ?_) fun _ => nofun)
    obtain ⟨leads, saved⟩ := Knowledge.saveObservation_leads sound.traceable observation
    refine ⟨leads.1, leads.sound sound, ?_⟩
    rcases answered : (onKnowledge (Knowledge.saveObservation env.tenants observation) later).1 with
      failure | stored
    · exact nofun
    · exact fun _ _ => saved stored answered

theorem handleSteps_keeps (position : Nat) (observation : Observation) :
    Keeps PipelineState.Sound (handleSteps env position observation) since := by
  refine Program.Grows.bind ((persistSteps_grows observation).weaken ?_)
  rintro state (failure | duplicate) stored
  · trivial
  · refine Program.Grows.bind (Program.Grows.execute (fun later above sound => ?_) fun _ => trivial)
    refine ⟨le_refl later, ⟨sound.traceable, fun other member => ?_⟩, trivial⟩
    rcases List.mem_append.mp member with old | new
    · exact sound.buffered other old
    · rw [List.mem_singleton.mp new]
      exact (stored duplicate rfl).mono above

theorem entrySteps_keeps (counts : CollectorCounts) (entries : List (EntryFields × Nat)) :
    Keeps PipelineState.Sound (entrySteps env counts entries) since := by
  induction entries generalizing counts since with
  | nil => exact keeps_pure
  | cons entry rest ih =>
      obtain ⟨fields, position⟩ := entry
      unfold entrySteps
      split
      · exact keeps_done
      · refine keeps_attempted (handleSteps_keeps _ _) fun result state _ => ?_
        rcases result with failure | duplicate
        · exact ih _
        · exact ih _

/-- **The organization of the buffer.** -/
theorem organizeSteps_keeps {texts : RuleTexts} {config : OrganizerConfig}
    (built : env.organizer = organizerEngine texts config) (clock : Nat → Timestamp)
    (counts : CollectorCounts) : Keeps PipelineState.Sound (organizeSteps env clock counts) since := by
  unfold organizeSteps
  split
  · -- The pruned buffer is stored, and so is what the evidence of it names.
    have pruned : (Program.perform (pruneWindow env.organizer.retention) (.raise .connection) :
        ServiceProgram _).Grows True PipelineState.Sound (fun state result =>
          ∀ window, result = .ok window → ∀ observation ∈ window, state.Stores observation) since := by
      refine Program.Grows.perform (fun state _ sound => ?_) fun _ => nofun
      unfold pruneWindow
      split
      · exact ⟨le_refl state, sound, nofun⟩
      · rename_i window kept
        have stored : ∀ observation ∈ window, state.Stores observation := fun observation member =>
          sound.buffered observation (prunePending_sub kept observation member)
        refine ⟨le_refl state.knowledge, ⟨sound.traceable, stored⟩, fun found isFound => ?_⟩
        cases isFound
        exact stored
    refine Program.Grows.bind (pruned.weaken ?_)
    rintro state (failure | window) stored
    · trivial
    · dsimp only
      split
      · exact keeps_pure
      · rename_i creations organized
        refine keeps_bind (saveRows_keeps Knowledge.EvidenceTraced Knowledge.EvidenceTraced.mono
          (Knowledge.saveEvidence_leads env.tenants) noSaves fun row member => ?_) fun _ _ _ => keeps_pure
        obtain ⟨index, create, inCreations, rfl⟩ := mem_mapIdx member
        rw [built] at organized
        obtain ⟨some, named⟩ := organize_grounded organized inCreations
        refine ⟨some, fun id isNamed => ?_⟩
        obtain ⟨observation, inWindow, rfl⟩ := named id isNamed
        exact stored window rfl observation inWindow
  · exact keeps_pure

/-- **A cycle of the collector.** -/
theorem collectCycle_keeps {texts : RuleTexts} {config : OrganizerConfig}
    (built : env.organizer = organizerEngine texts config) (count : Nat) (clock : Nat → Timestamp) :
    Keeps PipelineState.Sound (collectCycle env count clock) since := by
  refine keeps_bind (Program.Grows.perform (fun state _ sound => ?_) fun _ => trivial) fun entries _ _ => ?_
  · exact ⟨le_refl state.knowledge, ⟨sound.traceable, sound.buffered⟩, trivial⟩
  · exact keeps_bind (entrySteps_keeps _ _) fun counts _ _ => organizeSteps_keeps built clock counts

end Collector

/-! ### What is listed -/

section Listed

variable {knowledge : Knowledge} {tenantId : Uuid}

theorem anchored_of_listed {context : Context} (listed : context ∈ knowledge.listContexts tenantId) :
    context.tenantId = tenantId ∧ knowledge.Anchored tenantId context.id context.scope := by
  obtain ⟨member, own⟩ := List.mem_filter.mp ((sortBy_perm _ _).mem_iff.mp listed)
  exact ⟨of_decide_eq_true own, context, member, rfl, of_decide_eq_true own, rfl⟩

theorem anchored_of_active {context : Context} (listed : context ∈ knowledge.listActiveContexts tenantId) :
    context.tenantId = tenantId ∧ knowledge.Anchored tenantId context.id context.scope := by
  obtain ⟨member, own⟩ := List.mem_filter.mp ((sortBy_perm _ _).mem_iff.mp listed)
  have ofTenant : context.tenantId = tenantId := of_decide_eq_true (Bool.and_eq_true _ _ |>.mp own).1
  exact ⟨ofTenant, context, member, rfl, ofTenant, rfl⟩

theorem mem_listPatterns {pattern : PatternRecord} :
    pattern ∈ knowledge.listPatterns tenantId ↔
      pattern ∈ knowledge.patterns ∧ pattern.tenantId = tenantId := by
  unfold Knowledge.listPatterns
  rw [(sortBy_perm _ _).mem_iff, List.mem_filter, decide_eq_true_iff]

theorem mem_listAnomalies {anomaly : Anomaly} :
    anomaly ∈ knowledge.listAnomalies tenantId ↔
      anomaly ∈ knowledge.anomalies ∧ anomaly.tenantId = tenantId := by
  unfold Knowledge.listAnomalies
  rw [(sortBy_perm _ _).mem_iff, List.mem_filter, decide_eq_true_iff]

theorem mem_listEvidence {evidence : Evidence} :
    evidence ∈ knowledge.listEvidence tenantId ↔
      evidence ∈ knowledge.evidence ∧ evidence.tenantId = tenantId := by
  unfold Knowledge.listEvidence
  rw [(sortByDesc_perm _ _).mem_iff, List.mem_filter, decide_eq_true_iff]

end Listed

/-! ### The context activator -/

section Activator

variable {env : ContextEnv} {tenantId : Uuid} {evidence : List Evidence} {clock : String → Timestamp}
  {since : PipelineState}

theorem activate_evidenceIds {models : List MentalModel} {purpose : String} {create : ContextCreate}
    (activated : activate models evidence purpose = some create) :
    create.evidenceIds = evidence.map Evidence.id ∧ evidence ≠ [] := by
  unfold activate at activated
  split at activated
  · cases activated
  · rename_i competition competed
    obtain ⟨first, -, built⟩ := Option.bind_eq_some_iff.mp activated
    obtain rfl := Option.some.inj built
    unfold compete at competed
    split at competed
    · cases competed
    · rename_i some
      split at competed
      · cases competed
      · cases competed
        exact ⟨rfl, some⟩

theorem activatePurposes_keeps (listed : ∀ item ∈ evidence,
      item ∈ since.knowledge.evidence ∧ item.tenantId = tenantId)
    (counts : ContextCounts) (purposes : List String) :
    Keeps PipelineState.Sound (activatePurposes env tenantId evidence clock counts purposes) since := by
  induction purposes generalizing counts since with
  | nil => exact keeps_pure
  | cons purpose rest ih =>
      unfold activatePurposes
      split
      · exact ih listed counts
      · rename_i create activated
        split
        · exact ih listed counts
        · rename_i own
          have later : ∀ {state : PipelineState}, since ≤ state → ∀ item ∈ evidence,
              item ∈ state.knowledge.evidence ∧ item.tenantId = tenantId := fun above item member =>
            ⟨above.evidence.subset (listed item member).1, (listed item member).2⟩
          refine keeps_attempted (keeps_store fun state above sound => ?_) fun result state above => ?_
          · refine Knowledge.saveContext_leads env.tenants sound.traceable ?_
            obtain ⟨ids, some⟩ := activate_evidenceIds activated
            show create.evidenceIds ≠ [] ∧ ∀ id ∈ create.evidenceIds, ∃ item ∈ state.knowledge.evidence,
              item.id = id ∧ item.tenantId = create.tenantId
            rw [ids, not_not.mp own]
            refine ⟨fun nothing => some (List.map_eq_nil_iff.mp nothing), fun id member => ?_⟩
            obtain ⟨item, isItem, rfl⟩ := List.mem_map.mp member
            exact ⟨item, (later above item isItem).1, rfl, (later above item isItem).2⟩
          · rcases result with failure | stored
            · exact ih (later above) _
            · exact ih (later above) _

/-- **A cycle of the context activator.** -/
theorem activateTenantSteps_keeps (purposes : List String) :
    Keeps PipelineState.Sound (activateTenantSteps env purposes tenantId clock) since :=
  keeps_select fun _ _ _ => activatePurposes_keeps (fun _ member => mem_listEvidence.mp member) _ _

end Activator

/-! ### The detectors -/

theorem PatternDetector.detect_anchor {formats : DetectorFormats} {contexts : List Context}
    {library : List PatternDefinition} {windowDays : ℚ} {now : Timestamp} {tenantId : Option Uuid}
    {result : DetectionResult}
    (detected : detect formats contexts library windowDays now tenantId = .ok result)
    {candidate : CandidatePattern} (member : candidate ∈ result.candidates) :
    ∃ context ∈ contexts, candidate.contextId = context.id := by
  obtain ⟨measured, isMeasured, returned⟩ := Result.bind_eq_ok.mp detected
  cases Result.pure_eq_ok.mp returned
  obtain ⟨answer, inFlat, isAnswer⟩ := List.mem_filterMap.mp member
  obtain ⟨outcomes, inMeasured, inOutcomes⟩ := List.mem_flatten.mp inFlat
  obtain ⟨definition, -, ofDefinition⟩ := (Result.mem_mapM isMeasured).mp inMeasured
  obtain ⟨⟨scope, acts⟩, isGroup, measuredGroup⟩ := (Result.mem_mapM ofDefinition).mp inOutcomes
  obtain ⟨-, -, ⟨context, inGroup, same⟩, -⟩ := (measureGroup_spec measuredGroup).1 candidate isAnswer
  refine ⟨context, ?_, same⟩
  rw [(Grouping.mem_groupBy isGroup).1] at inGroup
  have inside := List.mem_of_mem_filter (List.mem_of_mem_filter (List.mem_of_mem_filter inGroup))
  exact List.mem_of_mem_filter inside

theorem AnomalyDetector.inspect_contextId {formats : DetectorFormats} {std : Stdlib}
    {contexts : List Context} {byScope : List ((String × String) × List PatternRecord)}
    {tolerances : List ToleranceDefinition} {context : Context} {anomaly : CandidateAnomaly}
    (reported : (inspect formats std contexts byScope tolerances context).anomaly = some anomaly) :
    anomaly.contextId = context.id := by
  have exceeds : ∀ {pattern : PatternRecord} {tolerance : ToleranceDefinition} {score : ℚ}
      {rationale : String}, (exceeding context pattern tolerance score rationale).anomaly =
        some anomaly → anomaly.contextId = context.id := by
    intro pattern tolerance score rationale isReported
    unfold exceeding at isReported
    split at isReported
    · cases isReported
      rfl
    · cases isReported
  unfold inspect at reported
  split at reported
  · cases reported
  · split at reported
    · cases reported
    · split at reported
      · exact exceeds reported
      · split at reported
        · cases reported
        · exact exceeds reported

theorem AnomalyDetector.anchored_of_expected {contexts active : List Context}
    {patterns : List PatternRecord} {scope : String × String} {pattern : PatternRecord}
    (expected : ((resolvePatternScopes contexts active patterns).lookup scope).bind List.head? =
      some pattern) :
    pattern ∈ patterns ∧ ∃ found ∈ contexts ++ active, found.id = pattern.contextId ∧
      found.scope = scope := by
  obtain ⟨group, listed, head⟩ := Option.bind_eq_some_iff.mp expected
  obtain ⟨before, after, split, -⟩ := List.lookup_eq_some_iff.mp listed
  have member : (scope, group) ∈ resolvePatternScopes contexts active patterns := by
    rw [split]
    exact List.mem_append_right _ List.mem_cons_self
  obtain ⟨⟨key, entries⟩, grouped, same⟩ := List.mem_map.mp member
  obtain ⟨rfl, rfl⟩ := Prod.mk.inj same
  have inGroup := (sortByDesc_perm _ _).mem_iff.mp (List.mem_of_mem_head? head)
  obtain ⟨⟨entryScope, entry⟩, inEntries, rfl⟩ := List.mem_map.mp inGroup
  rw [(Grouping.mem_groupBy grouped).1] at inEntries
  obtain ⟨inAnchored, isScope⟩ := List.mem_filter.mp inEntries
  obtain ⟨original, known, kept⟩ := List.mem_filterMap.mp inAnchored
  split at kept
  · obtain ⟨found, isAnchor, made⟩ := Option.map_eq_some_iff.mp kept
    obtain ⟨rfl, rfl⟩ := Prod.mk.inj made
    unfold anchor at isAnchor
    have sameId : found.id = original.contextId := by
      have accepted := List.find?_some isAnchor
      exact of_decide_eq_true accepted
    exact ⟨known, found, List.mem_reverse.mp (List.mem_of_find?_eq_some isAnchor), sameId,
      of_decide_eq_true isScope⟩
  · cases kept

/-- **What an anomaly is about**: an active context of the tenant, and a pattern that is anchored in a
context of its scope. -/
theorem AnomalyDetector.detect_about {formats : DetectorFormats} {std : Stdlib}
    {contexts active : List Context} {patterns : List PatternRecord}
    {tolerances : List ToleranceDefinition} {tenantId : Uuid} {candidate : CandidateAnomaly}
    (member : candidate ∈
      (detect formats std contexts patterns tolerances (some active) (some tenantId)).candidates) :
    ∃ context ∈ active, candidate.contextId = context.id ∧ ∃ pattern ∈ patterns,
      candidate.patternId = pattern.id ∧ ∃ found ∈ contexts ++ active,
        found.id = pattern.contextId ∧ found.scope = context.scope := by
  unfold detect at member
  obtain ⟨verdict, inVerdicts, isCandidate⟩ := List.mem_filterMap.mp member
  obtain ⟨context, isSubject, rfl⟩ := List.mem_map.mp inVerdicts
  obtain ⟨-, pattern, expected, samePattern⟩ := inspect_report isCandidate
  obtain ⟨known, found, isFound, sameContext, sameScope⟩ := anchored_of_expected expected
  refine ⟨context, List.mem_of_mem_filter isSubject, inspect_contextId isCandidate, pattern,
    List.mem_of_mem_filter known, samePattern, found, ?_, sameContext, sameScope⟩
  rcases List.mem_append.mp isFound with inStream | inActive
  · exact List.mem_append_left _ (List.mem_of_mem_filter inStream)
  · exact List.mem_append_right _ inActive

section Detectors

variable {tenantId : Uuid} {clock : Nat → Timestamp} {since : PipelineState}

/-- **A cycle of the pattern detector.** -/
theorem detectPatternTenant_keeps {env : PatternEnv} :
    Keeps PipelineState.Sound (detectPatternTenant env tenantId clock) since := by
  refine keeps_attempted (keeps_select fun state _ _ => keeps_compute fun result computed => ?_)
    fun result state _ => ?_
  · have detected := Result.mapError_eq_ok.mp computed
    refine keeps_bind (saveRows_keeps Knowledge.PatternTraced Knowledge.PatternTraced.mono
      (Knowledge.savePattern_leads env.tenants) noSaves fun row member => ?_) fun _ _ _ => keeps_pure
    obtain ⟨index, candidate, isCandidate, rfl⟩ := mem_mapIdx member
    obtain ⟨context, listed, same⟩ := PatternDetector.detect_anchor detected isCandidate
    refine ⟨context.scope, ?_⟩
    show state.knowledge.Anchored tenantId candidate.contextId context.scope
    rw [same]
    exact (anchored_of_listed listed).2
  · rcases result with failure | counts
    · exact keeps_pure
    · exact keeps_pure

/-- **A cycle of the anomaly detector.** -/
theorem detectAnomalyTenant_keeps {env : AnomalyEnv} :
    Keeps PipelineState.Sound (detectAnomalyTenant env tenantId clock) since := by
  refine keeps_attempted ?_ fun result state _ => ?_
  · refine keeps_select fun first _ _ => keeps_select fun second above _ => ?_
    refine keeps_select fun third further _ => ?_
    refine keeps_bind (saveRows_keeps Knowledge.AnomalyTraced Knowledge.AnomalyTraced.mono
      (Knowledge.saveAnomaly_leads env.tenants) noSaves fun row member => ?_) fun _ _ _ => keeps_pure
    obtain ⟨index, candidate, isCandidate, rfl⟩ := mem_mapIdx member
    obtain ⟨context, isActive, sameContext, pattern, known, samePattern, found, isFound, anchorId,
      anchorScope⟩ := AnomalyDetector.detect_about isCandidate
    -- The contexts were read in earlier states, and are anchored since.
    have anchored : ∀ other ∈ first.knowledge.listContexts tenantId ++
        second.knowledge.listActiveContexts tenantId,
        third.knowledge.Anchored tenantId other.id other.scope := by
      intro other listed
      rcases List.mem_append.mp listed with inStream | inActive
      · exact (anchored_of_listed inStream).2.mono (above.trans further)
      · exact (anchored_of_active inActive).2.mono further
    obtain ⟨inPatterns, ofTenant⟩ := mem_listPatterns.mp known
    refine ⟨pattern, inPatterns, samePattern.symm, ofTenant, context.scope, ?_, ?_⟩
    · show third.knowledge.Anchored tenantId candidate.contextId context.scope
      rw [sameContext]
      exact anchored context (List.mem_append_right _ isActive)
    · show third.knowledge.Anchored tenantId pattern.contextId context.scope
      rw [← anchorId, ← anchorScope]
      exact anchored found isFound
  · rcases result with failure | counts
    · exact keeps_pure
    · exact keeps_pure

end Detectors

/-! ### The generators -/

section Generators

variable {tenantId : Uuid} {since : PipelineState}

theorem explainAnomalies_keeps {env : HypothesisEnv} {contexts : List Context}
    {patterns : List PatternRecord} {clock : Uuid → Timestamp} (counts : HypothesisCounts)
    {anomalies : List Anomaly}
    (known : ∀ anomaly ∈ anomalies, anomaly ∈ since.knowledge.anomalies ∧
      (HypothesisGenerator.expectedPattern anomaly patterns).map (fun found => found.id) =
        some anomaly.patternId) :
    Keeps PipelineState.Sound (explainAnomalies env contexts patterns clock counts anomalies) since := by
  induction anomalies generalizing counts since with
  | nil => exact keeps_pure
  | cons anomaly rest ih =>
      have others : ∀ other ∈ rest, other ∈ since.knowledge.anomalies ∧
          (HypothesisGenerator.expectedPattern other patterns).map (fun found => found.id) =
            some other.patternId := fun other member => known other (List.mem_cons_of_mem _ member)
      obtain ⟨stored, isPattern⟩ := known anomaly List.mem_cons_self
      unfold explainAnomalies
      split
      · exact keeps_pure
      · exact ih _ others
      · rename_i creations _ generated
        refine keeps_bind (saveRows_keeps Knowledge.HypothesisTraced Knowledge.HypothesisTraced.mono
          (Knowledge.saveHypothesis_leads env.tenants) noSaves fun row member => ?_)
          fun saved state above => ?_
        · obtain ⟨create, isCreate, rfl⟩ := List.mem_map.mp member
          rcases HypothesisGenerator.generate_spec generated with none | ⟨-, spec⟩
          · rw [none] at isCreate
            cases isCreate
          · obtain ⟨ofTenant, ofAnomaly, ofPattern, predicts, -⟩ := spec create isCreate
            rw [isPattern] at ofPattern
            exact ⟨predicts, anomaly, stored, ofTenant.symm, ofAnomaly, ofPattern⟩
        · split
          · exact ih _ fun other member =>
              ⟨above.anomalies.subset (others other member).1, (others other member).2⟩
          · exact keeps_pure

theorem expectedPattern_listed {earlier later : PipelineState} (sound : earlier.Sound)
    (above : earlier ≤ later) {anomaly : Anomaly}
    (listed : anomaly ∈ earlier.knowledge.listAnomalies tenantId) :
    (HypothesisGenerator.expectedPattern anomaly (later.knowledge.listPatterns tenantId)).map
      (fun found => found.id) = some anomaly.patternId := by
  obtain ⟨stored, ofTenant⟩ := mem_listAnomalies.mp listed
  obtain ⟨pattern, inPatterns, samePattern, sameTenant, -⟩ := sound.traceable.anomalies anomaly stored
  have inListed : pattern ∈ later.knowledge.listPatterns tenantId :=
    mem_listPatterns.mpr ⟨above.patterns.subset inPatterns, sameTenant.trans ofTenant⟩
  unfold HypothesisGenerator.expectedPattern
  cases found : (later.knowledge.listPatterns tenantId).find?
      fun other => decide (other.id = anomaly.patternId) with
  | none => exact absurd (decide_eq_true samePattern) (List.find?_eq_none.mp found pattern inListed)
  | some other =>
      have accepted := List.find?_some found
      exact congrArg some (of_decide_eq_true accepted)

/-- **A cycle of the hypothesis generator.** -/
theorem generateHypothesisTenant_keeps {env : HypothesisEnv} {clock : Uuid → Timestamp} :
    Keeps PipelineState.Sound (generateHypothesisTenant env tenantId clock) since := by
  refine keeps_attempted ?_ fun result state _ => ?_
  · refine keeps_select fun first _ sound => keeps_select fun second above _ => ?_
    refine keeps_select fun third further _ => explainAnomalies_keeps _ fun anomaly listed => ?_
    exact ⟨(above.trans further).anomalies.subset (mem_listAnomalies.mp listed).1,
      expectedPattern_listed sound (above.trans further) listed⟩
  · rcases result with failure | counts
    · exact keeps_pure
    · exact keeps_pure

theorem buildInsight_tenant {env : InsightEnv} {rule : InsightRule} {context : Context}
    {hypotheses : List Hypothesis} {insight : InsightCreate}
    (built : buildInsight env rule tenantId context hypotheses = .ok insight) :
    insight.tenantId = tenantId := by
  obtain ⟨description, -, rest⟩ := Result.bind_eq_ok.mp built
  obtain ⟨understanding, -, created⟩ := Result.bind_eq_ok.mp rest
  rw [← Result.pure_eq_ok.mp created]

/-- **A cycle of the insight generator.** -/
theorem restructureTenant_keeps {env : InsightServiceEnv} {now : Timestamp} :
    Keeps PipelineState.Sound (restructureTenant env tenantId now) since := by
  refine keeps_select fun first _ _ => keeps_select fun second above _ => ?_
  refine keeps_select fun third further _ => keeps_compute fun creations computed => ?_
  have generated := Result.mapError_eq_ok.mp computed
  split
  · exact keeps_pure
  · refine keeps_bind (saveRows_keeps Knowledge.InsightTraced Knowledge.InsightTraced.mono
      (Knowledge.saveInsight_leads env.tenants) noSaves fun row member => ?_) fun _ _ _ => keeps_pure
    obtain ⟨create, isCreate, rfl⟩ := List.mem_map.mp member
    -- The insight restructures the hypotheses that trace to an active context.
    obtain ⟨pairs, isPairs, restructured⟩ := generateInsights_eq_ok (fun _ _ => rfl) generated
    obtain ⟨⟨rule, context⟩, inPairs, restructures⟩ := Result.forall₂_right restructured isCreate
    obtain ⟨-, active, enough⟩ := mem_firingPairs.mp (isPairs.mem_iff.mp inPairs)
    have sameTenant : create.tenantId = tenantId := buildInsight_tenant restructures.built
    have sameContext : create.contextId = context.id := restructures.context
    have about := anchored_of_listed (List.mem_of_mem_filter active)
    refine ⟨?_, ?_, ⟨context.scope, ?_⟩, fun id isNamed => ?_⟩
    · show 2 ≤ create.hypothesisIds.length
      rw [restructures.hypotheses.length_eq, List.length_map]
      exact rule.competitive.trans enough
    · show create.hypothesisIds.Nodup
      refine restructures.hypotheses.nodup_iff.mpr ?_
      exact (List.filter_sublist.map _).nodup (first.knowledge.keyedHypotheses tenantId).property
    · show third.knowledge.Anchored create.tenantId create.contextId context.scope
      rw [sameTenant, sameContext]
      exact about.2
    · show third.knowledge.Explains create.tenantId create.contextId id
      obtain ⟨hypothesis, traced, rfl⟩ := List.mem_map.mp (restructures.hypotheses.mem_iff.mp isNamed)
      obtain ⟨inListed, traces⟩ := List.mem_filter.mp traced
      obtain ⟨inHypotheses, ofTenant⟩ := mem_listHypotheses inListed
      obtain ⟨anomaly, anomalyListed, accounts, ofContext⟩ := of_decide_eq_true traces
      have explains : second.knowledge.Explains tenantId context.id hypothesis.id :=
        Knowledge.Explains.mono_of_hypothesis above inHypotheses ofTenant
          (mem_listAnomalies.mp anomalyListed).1 accounts ofContext
      rw [sameTenant, sameContext]
      exact explains.mono further

end Generators

/-! ### Runs -/

/-- The services of an environment: tasks are started at any time, and run interleaved. -/
def PipelineEnv.system (env : PipelineEnv) :
    System (Pool PipelineState ServiceError TaskReport) (Event PipelineTask) :=
  Pool.spawning env.program

/-- The states of the runs from a state in which nothing runs yet. Any statement may fail. -/
def PipelineEnv.Reaches (env : PipelineEnv) (start : PipelineState)
    (pool : Pool PipelineState ServiceError TaskReport) : Prop :=
  env.system.Reachable (Pool.SpawningOnly True) (Pool.idle start) pool

/-- The collector runs the organizer engine. -/
def PipelineEnv.Organizes (env : PipelineEnv) : Prop :=
  ∃ texts config, env.collector.organizer = organizerEngine texts config

section Runs

variable {env : PipelineEnv} {start : PipelineState}
  {pool later : Pool PipelineState ServiceError TaskReport}

/-- **Every task keeps the invariant**, from any state that has it. -/
theorem program_keeps (organizes : env.Organizes) (task : PipelineTask) (since : PipelineState) :
    Keeps PipelineState.Sound (env.program task) since := by
  obtain ⟨texts, config, built⟩ := organizes
  cases task with
  | publish fields =>
      refine keeps_bind (Program.Grows.execute (fun state _ sound => ?_) fun _ => trivial)
        fun _ _ _ => keeps_pure
      exact ⟨le_refl state.knowledge, ⟨sound.traceable, sound.buffered⟩, trivial⟩
  | collect count clock => exact keeps_bind (collectCycle_keeps built count clock) fun _ _ _ => keeps_pure
  | restartCollector =>
      refine keeps_bind (Program.Grows.execute (fun state _ sound => ?_) fun _ => trivial)
        fun _ _ _ => keeps_pure
      exact ⟨le_refl state.knowledge,
        ⟨sound.traceable, fun _ member => absurd member List.not_mem_nil⟩, trivial⟩
  | activate tenantId clock =>
      exact keeps_bind (activateTenantSteps_keeps env.purposes) fun _ _ _ => keeps_pure
  | detectPatterns tenantId clock => exact keeps_bind detectPatternTenant_keeps fun _ _ _ => keeps_pure
  | detectAnomalies tenantId clock => exact keeps_bind detectAnomalyTenant_keeps fun _ _ _ => keeps_pure
  | generateHypotheses tenantId clock =>
      exact keeps_bind generateHypothesisTenant_keeps fun _ _ _ => keeps_pure
  | evaluate tenantId hypothesisId status =>
      exact keeps_bind (keeps_store fun state _ sound => Knowledge.updateHypothesisStatus_leads
        sound.traceable tenantId hypothesisId status) fun _ _ _ => keeps_pure
  | restructure tenantId now => exact keeps_bind restructureTenant_keeps fun _ _ _ => keeps_pure

/-- **Every run keeps the invariant**, and adds to what it started from. -/
theorem pipeline_grows (organizes : env.Organizes) (sound : start.Sound) (reached : env.Reaches start pool) :
    pool.Growing True PipelineState.Sound start :=
  Pool.spawning_grows (fun task state _ => program_keeps organizes task state)
    (Pool.growing_idle sound) reached

end Runs

end CosMonitor
