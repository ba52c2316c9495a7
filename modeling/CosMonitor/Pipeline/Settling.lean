/-
**A cycle that has completed is settled.**

The reasoning services run over and over on the same tables. What one cycle has stored carries ids that
depend on the rows it was computed from and not on the clock, so another cycle on the same rows finds
everything there. It adds no row, changes no row and counts every row as a duplicate.

* `Keyed`: a save that stores a row once, with the loop over rows that are there;
* `Inserting.keyed`: the saves of the services are such;
* `Settles`: after a cycle without errors, any later cycle on the same rows changes nothing;
* `anomalies_settle`, `hypotheses_settle`, `insights_settle`: the three services, by their loops;
* `reasoning_settles`: the three of them, in every state that any run leads to afterwards.
-/

import CosMonitor.Pipeline.Lineage

namespace CosMonitor

open Interleaving Result Sorting Table

/-! ### Saves by key -/

/-- A save that stores a row once: a row that it has returned for is present, and then it is skipped. -/
structure Keyed {Row : Type} (save : Row → Effect Knowledge ServiceError Bool)
    (present : Knowledge → Row → Prop) : Prop where
  returned : ∀ {row knowledge stored}, (save row knowledge).1 = .ok stored →
    present (save row knowledge).2 row
  again : ∀ {row knowledge}, present knowledge row → save row knowledge = (.ok false, knowledge)
  stays : ∀ {row other knowledge}, present knowledge row → present (save other knowledge).2 row

section Loop

variable {Row : Type} {save : Row → Effect Knowledge ServiceError Bool} {present : Knowledge → Row → Prop}
  {counts total : SaveCounts} {row : Row} {rows : List Row} {before after : PipelineState}

theorem store_attempted_alone : (store (save row)).attempted.alone before =
    ((.ok (save row before.knowledge).1 : Except ServiceError (Except ServiceError Bool)),
      { before with knowledge := (save row before.knowledge).2 }) :=
  rfl

theorem saveRows_saved {stored : Bool} (saved : (save row before.knowledge).1 = .ok stored) :
    (saveRows save counts (row :: rows)).alone before =
      (saveRows save (counts.saved stored) rows).alone
        { before with knowledge := (save row before.knowledge).2 } := by
  rw [saveRows, Program.alone_bind, Effect.bind_ran store_attempted_alone, saved]

theorem saveRows_raised {failure : ServiceError} (raised : (save row before.knowledge).1 = .error failure) :
    (saveRows save counts (row :: rows)).alone before =
      (.ok { counts with errors := counts.errors + 1 },
        { before with knowledge := (save row before.knowledge).2 }) := by
  rw [saveRows, Program.alone_bind, Effect.bind_ran store_attempted_alone, raised]
  rfl

theorem SaveCounts.saved_total (stored : Bool) :
    (counts.saved stored).stored + (counts.saved stored).duplicates = counts.stored + counts.duplicates + 1 ∧
      (counts.saved stored).errors = counts.errors := by
  cases stored
  · exact ⟨(Nat.add_assoc _ _ _).symm, rfl⟩
  · exact ⟨Nat.add_right_comm _ _ _, rfl⟩

theorem saveRows_spec (keyed : Keyed save present)
    (ran : (saveRows save counts rows).alone before = (.ok total, after)) :
    counts.errors ≤ total.errors ∧ (∀ other, present before.knowledge other → present after.knowledge other) ∧
      (total.errors = counts.errors → (∀ row ∈ rows, present after.knowledge row) ∧
        total.stored + total.duplicates = counts.stored + counts.duplicates + rows.length) := by
  induction rows generalizing counts before with
  | nil =>
      cases ran
      exact ⟨le_refl _, fun _ there => there, fun _ => ⟨fun _ => nofun, rfl⟩⟩
  | cons row rest ih =>
      rcases answered : (save row before.knowledge).1 with failure | stored
      · rw [saveRows_raised answered] at ran
        cases ran
        exact ⟨Nat.le_succ _, fun _ there => keyed.stays there, fun same => absurd same (Nat.succ_ne_self _)⟩
      · rw [saveRows_saved answered] at ran
        obtain ⟨more, stay, clean⟩ := ih ran
        obtain ⟨sum, same⟩ := counts.saved_total stored
        refine ⟨same ▸ more, fun other there => stay other (keyed.stays there), fun isClean => ?_⟩
        obtain ⟨others, length⟩ := clean (isClean.trans same.symm)
        refine ⟨fun other member => ?_, by rw [length, sum, List.length_cons]; omega⟩
        rcases List.mem_cons.mp member with rfl | later
        · exact stay other (keyed.returned answered)
        · exact others other later

/-- **The loop over rows that are present** changes nothing. -/
theorem saveRows_again (keyed : Keyed save present) (there : ∀ row ∈ rows, present before.knowledge row) :
    (saveRows save counts rows).alone before =
      (.ok { counts with duplicates := counts.duplicates + rows.length }, before) := by
  induction rows generalizing counts with
  | nil => rfl
  | cons row rest ih =>
      have skipped := keyed.again (there row List.mem_cons_self)
      have answered : (save row before.knowledge).1 = .ok false := congrArg Prod.fst skipped
      rw [saveRows_saved answered, skipped, ih fun other member => there other (List.mem_cons_of_mem _ member)]
      simp only [SaveCounts.saved, List.length_cons, Bool.false_eq_true, if_false]
      rw [Nat.add_right_comm, Nat.add_assoc]

end Loop

/-! ### Inserts by key -/

section Inserting

variable {Row : Type} {save : Row → Effect Knowledge ServiceError Bool} {id : Row → Uuid}
  {assign : Row → Except ServiceError Row} {table : Knowledge → List Row}

/-- A row can be stored, and its id is in the table. -/
def Present (id : Row → Uuid) (assign : Row → Except ServiceError Row) (table : Knowledge → List Row)
    (knowledge : Knowledge) (row : Row) : Prop :=
  (∃ assigned, assign row = .ok assigned) ∧ id row ∈ (table knowledge).map id

/-- A save that inserts into one table. -/
def Inserting (save : Row → Effect Knowledge ServiceError Bool) (id : Row → Uuid)
    (assign : Row → Except ServiceError Row) (table : Knowledge → List Row) : Prop :=
  ∀ row knowledge, ∃ refers,
    (∃ failure, insertReferring id (assign row) refers (table knowledge) = .error failure ∧
      save row knowledge = (.error failure, knowledge)) ∨
    ∃ stored after, insertReferring id (assign row) refers (table knowledge) = .ok (stored, table after) ∧
      save row knowledge = (.ok stored, after) ∧ (table after = table knowledge → after = knowledge)

theorem insertReferring_present {row assigned : Row} {refers : Row → Except ServiceError Unit}
    {rows : List Row} (isAssigned : assign row = .ok assigned) (sameId : id assigned = id row)
    (there : id row ∈ rows.map id) :
    insertReferring id (assign row) refers rows = .ok (false, rows) := by
  obtain ⟨other, member, same⟩ := List.mem_map.mp there
  rcases insertAbsent_cases id assigned rows with ⟨-, skipped⟩ | ⟨absent, -⟩
  · unfold insertReferring
    rw [isAssigned, Result.ok_bind, skipped]
    rfl
  · exact absurd (same.trans sameId.symm) (absent other member)

/-- **A save that inserts stores a row once.** -/
theorem Inserting.keyed (inserting : Inserting save id assign table)
    (sameId : ∀ {row assigned}, assign row = .ok assigned → id assigned = id row) :
    Keyed save (Present id assign table) where
  returned := by
    intro row knowledge stored answered
    obtain ⟨refers, ⟨failure, -, saved⟩ | ⟨answer, after, inserted, saved, -⟩⟩ := inserting row knowledge
    · rw [saved] at answered
      cases answered
    · rw [saved]
      rcases insertReferring_eq_ok inserted with ⟨-, same, assigned, isAssigned, there⟩ |
        ⟨-, assigned, isAssigned, -, -, same⟩
      · refine ⟨⟨assigned, isAssigned⟩, ?_⟩
        rw [same, ← sameId isAssigned]
        exact there
      · refine ⟨⟨assigned, isAssigned⟩, ?_⟩
        rw [same, ← sameId isAssigned, List.map_append]
        exact List.mem_append_right _ List.mem_cons_self
  again := by
    rintro row knowledge ⟨⟨assigned, isAssigned⟩, there⟩
    obtain ⟨refers, ⟨failure, raised, -⟩ | ⟨answer, after, inserted, saved, unchanged⟩⟩ :=
      inserting row knowledge
    · rw [insertReferring_present isAssigned (sameId isAssigned) there] at raised
      cases raised
    · rw [insertReferring_present isAssigned (sameId isAssigned) there, Except.ok.injEq,
        Prod.mk.injEq] at inserted
      rw [saved, ← inserted.1, unchanged inserted.2.symm]
  stays := by
    rintro row other knowledge ⟨assigned, there⟩
    obtain ⟨refers, ⟨failure, -, saved⟩ | ⟨answer, after, inserted, saved, -⟩⟩ := inserting other knowledge
    · rw [saved]
      exact ⟨assigned, there⟩
    · rw [saved]
      refine ⟨assigned, ?_⟩
      rcases insertReferring_eq_ok inserted with ⟨-, same, -⟩ | ⟨-, added, -, -, -, same⟩
      · rw [same]
        exact there
      · rw [same, List.map_append]
        exact List.mem_append_left _ there

end Inserting

namespace Knowledge

variable (tenants : List Uuid)

theorem saveAnomaly_inserting :
    Inserting (saveAnomaly tenants) Anomaly.id Anomaly.toRow Knowledge.anomalies := by
  intro anomaly knowledge
  unfold saveAnomaly
  dsimp only
  split
  · rename_i failure raised
    exact ⟨_, .inl ⟨failure, raised, rfl⟩⟩
  · rename_i stored anomalies inserted
    refine ⟨_, .inr ⟨stored, _, inserted, rfl, fun same => ?_⟩⟩
    cases knowledge
    cases same
    rfl

theorem saveHypothesis_inserting :
    Inserting (saveHypothesis tenants) Hypothesis.id Hypothesis.toRow Knowledge.hypotheses := by
  intro hypothesis knowledge
  unfold saveHypothesis
  dsimp only
  split
  · rename_i failure raised
    exact ⟨_, .inl ⟨failure, raised, rfl⟩⟩
  · rename_i stored hypotheses inserted
    refine ⟨_, .inr ⟨stored, _, inserted, rfl, fun same => ?_⟩⟩
    cases knowledge
    cases same
    rfl

theorem saveInsight_inserting :
    Inserting (saveInsight tenants) (fun row => row.id) InsightRecord.toRow Knowledge.insights := by
  intro insight knowledge
  unfold saveInsight
  dsimp only
  split
  · rename_i failure raised
    exact ⟨_, .inl ⟨failure, raised, rfl⟩⟩
  · rename_i stored insights inserted
    refine ⟨_, .inr ⟨stored, _, inserted, rfl, fun same => ?_⟩⟩
    cases knowledge
    cases same
    rfl

theorem saveAnomaly_keyed : Keyed (saveAnomaly tenants) (Present Anomaly.id Anomaly.toRow Knowledge.anomalies) :=
  (saveAnomaly_inserting tenants).keyed fun assigned => (Anomaly.toRow_spec assigned).1

theorem saveHypothesis_keyed :
    Keyed (saveHypothesis tenants) (Present Hypothesis.id Hypothesis.toRow Knowledge.hypotheses) :=
  (saveHypothesis_inserting tenants).keyed fun assigned => (Hypothesis.toRow_spec assigned).1

theorem saveInsight_keyed :
    Keyed (saveInsight tenants) (Present (fun row => row.id) InsightRecord.toRow Knowledge.insights) :=
  (saveInsight_inserting tenants).keyed fun assigned => (InsightRecord.toRow_spec assigned).1

end Knowledge

/-! ### Settled cycles -/

/-- After a cycle without errors a cycle at another time changes nothing, in every state above, as long as
the rows that the service reads are those that the first cycle has read. -/
def Settles {Clock Counts Input : Type} (cycle : Clock → ServiceProgram Counts) (errors : Counts → Nat)
    (again : Counts → Counts) (reads : Knowledge → Input) : Prop :=
  ∀ {clock other : Clock} {before after later : PipelineState} {counts : Counts},
    (cycle clock).alone before = (.ok counts, after) → errors counts = 0 →
    after.knowledge ≤ later.knowledge → reads later.knowledge = reads before.knowledge →
    (cycle other).alone later = (.ok (again counts), later)

section Alone

variable {First Value : Type} {state : PipelineState}

theorem attempted_alone {program : ServiceProgram Value} :
    (program.attempted : ServiceProgram (Except ServiceError Value)).alone state =
      (.ok (program.alone state).1, (program.alone state).2) := by
  induction program generalizing state with
  | done result => rfl
  | statement write next failed ih _ => exact ih state

end Alone

/-! ### The anomaly detector -/

theorem Anomaly.toRow_returns {anomaly : Anomaly} : (∃ row, anomaly.toRow = .ok row) ↔
    (∃ score, Column.numeric 8 4 anomaly.deviationScore = .ok score) ∧
      (∃ threshold, Column.numeric 8 4 anomaly.toleranceThreshold = .ok threshold) ∧
        ∃ name, Column.varchar 50 anomaly.anomalyClass = .ok name := by
  constructor
  · rintro ⟨row, assigned⟩
    obtain ⟨score, scored, assigned⟩ := Result.bind_eq_ok.mp assigned
    obtain ⟨threshold, tolerated, assigned⟩ := Result.bind_eq_ok.mp assigned
    obtain ⟨name, named, -⟩ := Result.bind_eq_ok.mp assigned
    exact ⟨⟨score, scored⟩, ⟨threshold, tolerated⟩, name, named⟩
  · rintro ⟨⟨score, scored⟩, ⟨threshold, tolerated⟩, name, named⟩
    exact ⟨_, Result.bind_eq_ok.mpr ⟨score, scored, Result.bind_eq_ok.mpr ⟨threshold, tolerated,
      Result.bind_eq_ok.mpr ⟨name, named, rfl⟩⟩⟩⟩

section Anomalies

variable {env : AnomalyEnv} {tenantId : Uuid} {clock other : Nat → Timestamp} {knowledge : Knowledge}
  {before after : PipelineState} {counts : AnomalyCounts}

variable (clock) in
theorem anomalyRows_present {candidates : List AnomalyDetector.CandidateAnomaly}
    (there : ∀ row ∈ candidates.mapIdx (fun index candidate =>
        buildAnomaly env.std (candidate.toCreate tenantId (clock index))),
      Present Anomaly.id Anomaly.toRow Knowledge.anomalies knowledge row) :
    ∀ row ∈ candidates.mapIdx (fun index candidate =>
        buildAnomaly env.std (candidate.toCreate tenantId (other index))),
      Present Anomaly.id Anomaly.toRow Knowledge.anomalies knowledge row := by
  intro row member
  obtain ⟨index, inside, rfl⟩ := List.mem_mapIdx.mp member
  obtain ⟨stored, isThere⟩ := there _ (List.mem_mapIdx.mpr ⟨index, inside, rfl⟩)
  have columns := Anomaly.toRow_returns.mp stored
  exact ⟨Anomaly.toRow_returns.mpr columns, isThere⟩

theorem detectAnomalySteps_alone {result : AnomalyDetector.DetectionResult}
    (detected : AnomalyDetector.detect env.formats env.std (before.knowledge.listContexts tenantId)
      (before.knowledge.listPatterns tenantId) env.tolerances
      (some (before.knowledge.listActiveContexts tenantId)) (some tenantId) = result) :
    (detectAnomalySteps env tenantId clock).alone before =
      (saveRows (Knowledge.saveAnomaly env.tenants) noSaves (result.candidates.mapIdx fun index candidate =>
        buildAnomaly env.std (candidate.toCreate tenantId (clock index))) >>= fun saved => pure {
          totalAnomalies := saved.stored
          totalDuplicates := saved.duplicates
          totalContextsWithoutPattern := result.contextsWithoutPattern
          totalContextsWithoutTolerance := result.contextsWithoutTolerance
          errors := saved.errors }).alone before := by
  rw [← detected]
  rfl

theorem detectAnomalySteps_returned
    (ran : (detectAnomalyTenant env tenantId clock).alone before = (.ok counts, after))
    (clean : counts.errors = 0) :
    (detectAnomalySteps env tenantId clock).alone before = (.ok counts, after) := by
  rw [detectAnomalyTenant, Program.alone_bind, Effect.bind_ran attempted_alone] at ran
  rcases answered : (detectAnomalySteps env tenantId clock).alone before with ⟨failure | found, ended⟩
  · rw [answered] at ran
    cases ran
    cases clean
  · rw [answered] at ran
    cases ran
    rfl

theorem detectAnomalyTenant_returns
    (ran : (detectAnomalySteps env tenantId clock).alone before = (.ok counts, after)) :
    (detectAnomalyTenant env tenantId clock).alone before = (.ok counts, after) := by
  rw [detectAnomalyTenant, Program.alone_bind, Effect.bind_ran attempted_alone, ran]
  rfl

variable (env tenantId) in
/-- **The anomaly detector settles.** -/
theorem anomalies_settle : Settles (detectAnomalyTenant env tenantId) AnomalyCounts.errors
    (fun counts => { counts with
      totalAnomalies := 0
      totalDuplicates := counts.totalAnomalies + counts.totalDuplicates })
    (fun knowledge => (knowledge.listContexts tenantId, knowledge.listActiveContexts tenantId,
      knowledge.listPatterns tenantId)) := by
  intro clock other before after later counts ran clean grown same
  obtain ⟨sameContexts, sameActive, samePatterns⟩ : _ ∧ _ ∧ _ := by simpa only [Prod.mk.injEq] using same
  have steps := detectAnomalySteps_returned ran clean
  rw [detectAnomalySteps_alone rfl, Program.alone_bind] at steps
  obtain ⟨saved, between, loop, returned⟩ := Effect.bind_returned.mp steps
  cases returned
  obtain ⟨-, -, stores⟩ := saveRows_spec (Knowledge.saveAnomaly_keyed env.tenants) loop
  obtain ⟨there, length⟩ := stores clean
  refine detectAnomalyTenant_returns ?_
  rw [detectAnomalySteps_alone rfl, Program.alone_bind, sameContexts, sameActive, samePatterns]
  refine Effect.bind_returned.mpr ⟨_, later, saveRows_again (Knowledge.saveAnomaly_keyed env.tenants) ?_, ?_⟩
  · refine anomalyRows_present clock fun row member => ?_
    obtain ⟨assigned, isThere⟩ := there row member
    exact ⟨assigned, (grown.anomalies.map _).subset isThere⟩
  · have noErrors : saved.errors = 0 := clean
    rw [List.length_mapIdx] at length ⊢
    dsimp only
    rw [length, noErrors]
    rfl

end Anomalies

/-! ### The hypothesis generator -/

theorem Hypothesis.toRow_returns {hypothesis : Hypothesis} : (∃ row, hypothesis.toRow = .ok row) ↔
    (∃ text, Column.text hypothesis.description = .ok text) ∧
      (∃ value, Column.jsonb (.arr (hypothesis.predictedConsequences.map .str)) = .ok value) ∧
        (∃ text, Column.text hypothesis.falsificationCriterion = .ok text) ∧
          ∃ status, Column.varchar 20 hypothesis.status = .ok status := by
  constructor
  · rintro ⟨row, assigned⟩
    obtain ⟨description, described, assigned⟩ := Result.bind_eq_ok.mp assigned
    obtain ⟨consequences, predicted, assigned⟩ := Result.bind_eq_ok.mp assigned
    obtain ⟨falsification, falsified, assigned⟩ := Result.bind_eq_ok.mp assigned
    obtain ⟨status, judged, -⟩ := Result.bind_eq_ok.mp assigned
    exact ⟨⟨description, described⟩, ⟨consequences, predicted⟩, ⟨falsification, falsified⟩, status, judged⟩
  · rintro ⟨⟨description, described⟩, ⟨consequences, predicted⟩, ⟨falsification, falsified⟩, status, judged⟩
    exact ⟨_, Result.bind_eq_ok.mpr ⟨description, described, Result.bind_eq_ok.mpr ⟨consequences, predicted,
      Result.bind_eq_ok.mpr ⟨falsification, falsified, Result.bind_eq_ok.mpr ⟨status, judged, rfl⟩⟩⟩⟩⟩

/-- A creation request at another time. -/
def HypothesisCreate.Redated (create original : HypothesisCreate) : Prop :=
  create = { original with generatedAt := create.generatedAt }

section Hypotheses

variable {env : HypothesisEnv} {tenantId : Uuid}
  {template : String → List (String × Json) → Except PyError String} {moment again : Timestamp}
  {anomaly : Anomaly} {contexts : List Context} {patterns : List PatternRecord}
  {library : List HypothesisTemplate} {creations : List HypothesisCreate} {knowledge : Knowledge}
  {before after : PipelineState} {clock other : Uuid → Timestamp} {counts total : HypothesisCounts}

variable (again) in
theorem instantiate_again {facts : List (String × Json)} {pattern : Option PatternRecord}
    {chosen : HypothesisTemplate} {create : HypothesisCreate}
    (made : HypothesisGenerator.instantiate ⟨template, moment⟩ anomaly facts pattern chosen = .ok create) :
    ∃ remade, HypothesisGenerator.instantiate ⟨template, again⟩ anomaly facts pattern chosen = .ok remade ∧
      remade.Redated create := by
  unfold HypothesisGenerator.instantiate at made ⊢
  obtain ⟨description, described, made⟩ := Result.bind_eq_ok.mp made
  obtain ⟨consequences, predicted, made⟩ := Result.bind_eq_ok.mp made
  obtain ⟨falsification, falsified, made⟩ := Result.bind_eq_ok.mp made
  cases Result.pure_eq_ok.mp made
  exact ⟨_, Result.bind_eq_ok.mpr ⟨description, described, Result.bind_eq_ok.mpr ⟨consequences, predicted,
    Result.bind_eq_ok.mpr ⟨falsification, falsified, rfl⟩⟩⟩, rfl⟩

variable (again) in
/-- **The same explanations are generated at any time.** -/
theorem generate_again
    (generated : HypothesisGenerator.generate ⟨template, moment⟩ anomaly contexts patterns library =
      .ok creations) :
    ∃ others, HypothesisGenerator.generate ⟨template, again⟩ anomaly contexts patterns library = .ok others ∧
      List.Forall₂ HypothesisCreate.Redated others creations := by
  rcases resolved : HypothesisGenerator.anomalyScope anomaly contexts with - | scope
  · rw [HypothesisGenerator.generate_unresolved resolved] at generated ⊢
    cases generated
    exact ⟨[], rfl, .nil⟩
  · by_cases covered : HypothesisGenerator.matchingTemplates anomaly.anomalyClass scope library = []
    · rw [HypothesisGenerator.generate_uncovered resolved covered] at generated ⊢
      cases generated
      exact ⟨[], rfl, .nil⟩
    · rw [HypothesisGenerator.generate_covered resolved covered] at generated ⊢
      obtain ⟨made, instantiated, enough⟩ := Result.bind_eq_ok.mp generated
      obtain ⟨others, remade, redated⟩ := Result.mapM_related
        (fun _ _ _ instantiates => instantiate_again again instantiates)
        (Result.mapError_eq_ok.mp instantiated)
      split at enough
      · rename_i several
        cases enough
        refine ⟨others, Result.bind_eq_ok.mpr ⟨others, Result.mapError_eq_ok.mpr remade, ?_⟩, redated⟩
        rw [redated.length_eq, if_pos several]
      · cases enough

theorem hypothesisRows_present {others : List HypothesisCreate}
    (redated : List.Forall₂ HypothesisCreate.Redated others creations)
    (there : ∀ row ∈ creations.map (buildHypothesis env.std),
      Present Hypothesis.id Hypothesis.toRow Knowledge.hypotheses knowledge row) :
    ∀ row ∈ others.map (buildHypothesis env.std),
      Present Hypothesis.id Hypothesis.toRow Knowledge.hypotheses knowledge row := by
  intro row member
  obtain ⟨create, isCreate, rfl⟩ := List.mem_map.mp member
  obtain ⟨original, isOriginal, same⟩ := Result.forall₂_left redated isCreate
  obtain ⟨stored, isThere⟩ := there _ (List.mem_map_of_mem isOriginal)
  have columns := Hypothesis.toRow_returns.mp stored
  rw [same]
  exact ⟨Hypothesis.toRow_returns.mpr columns, isThere⟩

theorem Present.hypothesis_mono {earlier later : Knowledge} {row : Hypothesis}
    (there : Present Hypothesis.id Hypothesis.toRow Knowledge.hypotheses earlier row)
    (grown : earlier ≤ later) : Present Hypothesis.id Hypothesis.toRow Knowledge.hypotheses later row := by
  obtain ⟨assigned, isThere⟩ := there
  obtain ⟨stored, storedIn, sameId⟩ := List.mem_map.mp isThere
  obtain ⟨found, foundIn, same⟩ := grown.hypothesis storedIn
  refine ⟨assigned, List.mem_map.mpr ⟨found, foundIn, ?_⟩⟩
  rw [Hypothesis.field_eq same Hypothesis.id fun _ => rfl, sameId]

section Loop

variable {anomalies : List Anomaly}

theorem explainAnomalies_raised {failure : GenerationError}
    (raised : HypothesisGenerator.generate ⟨env.template, clock anomaly.id⟩ anomaly contexts patterns
      env.templates = .error failure) :
    (explainAnomalies env contexts patterns clock counts (anomaly :: anomalies)).alone before =
      (.ok { counts with errors := counts.errors + 1 }, before) := by
  rw [explainAnomalies, raised]
  rfl

theorem explainAnomalies_none
    (generated : HypothesisGenerator.generate ⟨env.template, clock anomaly.id⟩ anomaly contexts patterns
      env.templates = .ok []) :
    explainAnomalies env contexts patterns clock counts (anomaly :: anomalies) =
      explainAnomalies env contexts patterns clock
        { counts with totalAnomaliesNoTemplates := counts.totalAnomaliesNoTemplates + 1 } anomalies := by
  rw [explainAnomalies, generated]

theorem explainAnomalies_some (some : creations ≠ [])
    (generated : HypothesisGenerator.generate ⟨env.template, clock anomaly.id⟩ anomaly contexts patterns
      env.templates = .ok creations) :
    explainAnomalies env contexts patterns clock counts (anomaly :: anomalies) =
      saveRows (Knowledge.saveHypothesis env.tenants) noSaves (creations.map (buildHypothesis env.std)) >>=
        fun saved => if saved.errors = 0 then
            explainAnomalies env contexts patterns clock (counts.saved saved) anomalies
          else pure (counts.saved saved) := by
  rw [explainAnomalies, generated]
  rcases creations with - | ⟨create, rest⟩
  · exact absurd rfl some
  · rfl

/-- **The loop over the anomalies.** Where it has counted no error, the loop at another time finds every
hypothesis there. -/
theorem explainAnomalies_again
    (ran : (explainAnomalies env contexts patterns clock counts anomalies).alone before = (.ok total, after))
    (clean : total.errors = 0) :
    counts.errors = 0 ∧
      (∀ row, Present Hypothesis.id Hypothesis.toRow Knowledge.hypotheses before.knowledge row →
        Present Hypothesis.id Hypothesis.toRow Knowledge.hypotheses after.knowledge row) ∧
      ∃ found missed,
        total.totalHypotheses + total.totalDuplicates =
          counts.totalHypotheses + counts.totalDuplicates + found ∧
        total.totalAnomaliesNoTemplates = counts.totalAnomaliesNoTemplates + missed ∧
        ∀ later more, after.knowledge ≤ later.knowledge →
          (explainAnomalies env contexts patterns other more anomalies).alone later =
            (.ok { more with
              totalDuplicates := more.totalDuplicates + found
              totalAnomaliesNoTemplates := more.totalAnomaliesNoTemplates + missed }, later) := by
  induction anomalies generalizing counts before with
  | nil =>
      cases ran
      exact ⟨clean, fun _ there => there, 0, 0, rfl, rfl, fun _ _ _ => rfl⟩
  | cons anomaly rest ih =>
      rcases generated : HypothesisGenerator.generate ⟨env.template, clock anomaly.id⟩ anomaly contexts
          patterns env.templates with failure | creations
      · rw [explainAnomalies_raised generated] at ran
        cases ran
        cases clean
      · obtain ⟨others, regenerated, redated⟩ := generate_again (other anomaly.id) generated
        by_cases none : creations = []
        · subst none
          cases redated
          rw [explainAnomalies_none generated] at ran
          obtain ⟨noErrors, stays, found, missed, sum, without, reruns⟩ := ih ran
          refine ⟨noErrors, stays, found, missed + 1, sum, ?_, fun later more above => ?_⟩
          · rw [without, Nat.add_assoc, Nat.add_comm 1]
          · rw [explainAnomalies_none regenerated, reruns later _ above, Nat.add_assoc, Nat.add_comm 1]
        · rw [explainAnomalies_some none generated, Program.alone_bind] at ran
          obtain ⟨saved, between, loop, ran⟩ := Effect.bind_returned.mp ran
          obtain ⟨-, kept, stores⟩ := saveRows_spec (Knowledge.saveHypothesis_keyed env.tenants) loop
          split at ran
          · rename_i allSaved
            obtain ⟨there, length⟩ := stores allSaved
            obtain ⟨noErrors, stays, found, missed, sum, without, reruns⟩ := ih ran
            have some : others ≠ [] := fun nothing => by
              rw [nothing] at redated
              cases redated
              exact none rfl
            refine ⟨Nat.eq_zero_of_add_eq_zero_right noErrors, fun row isThere => stays row (kept row isThere),
              creations.length + found, missed, ?_, without, fun later more above => ?_⟩
            · simp only [HypothesisCounts.saved] at sum
              simp only [noSaves, List.length_map] at length
              omega
            · have present : ∀ row ∈ others.map (buildHypothesis env.std),
                  Present Hypothesis.id Hypothesis.toRow Knowledge.hypotheses later.knowledge row :=
                hypothesisRows_present redated fun row member => (stays row (there row member)).hypothesis_mono above
              rw [explainAnomalies_some some regenerated, Program.alone_bind,
                Effect.bind_ran (saveRows_again (Knowledge.saveHypothesis_keyed env.tenants) present)]
              show (explainAnomalies env contexts patterns other (more.saved _) rest).alone later = _
              rw [reruns later _ above, List.length_map, redated.length_eq]
              simp only [HypothesisCounts.saved, noSaves, Nat.add_zero, Nat.zero_add, Nat.add_assoc]
          · rename_i failed
            cases ran
            exact absurd (Nat.eq_zero_of_add_eq_zero_left clean) failed

end Loop

theorem generateHypothesisSteps_returned
    (ran : (generateHypothesisTenant env tenantId clock).alone before = (.ok counts, after))
    (clean : counts.errors = 0) :
    (generateHypothesisSteps env tenantId clock).alone before = (.ok counts, after) := by
  rw [generateHypothesisTenant, Program.alone_bind, Effect.bind_ran attempted_alone] at ran
  rcases answered : (generateHypothesisSteps env tenantId clock).alone before with ⟨failure | found, ended⟩
  · rw [answered] at ran
    cases ran
    cases clean
  · rw [answered] at ran
    cases ran
    rfl

theorem generateHypothesisTenant_returns
    (ran : (generateHypothesisSteps env tenantId clock).alone before = (.ok counts, after)) :
    (generateHypothesisTenant env tenantId clock).alone before = (.ok counts, after) := by
  rw [generateHypothesisTenant, Program.alone_bind, Effect.bind_ran attempted_alone, ran]
  rfl

theorem generateHypothesisSteps_alone : (generateHypothesisSteps env tenantId clock).alone before =
    (explainAnomalies env (before.knowledge.listContexts tenantId) (before.knowledge.listPatterns tenantId)
      clock ⟨0, 0, 0, 0⟩ (before.knowledge.listAnomalies tenantId)).alone before :=
  rfl

variable (env tenantId) in
/-- **The hypothesis generator settles.** -/
theorem hypotheses_settle : Settles (generateHypothesisTenant env tenantId) HypothesisCounts.errors
    (fun counts => { counts with
      totalHypotheses := 0
      totalDuplicates := counts.totalHypotheses + counts.totalDuplicates })
    (fun knowledge => (knowledge.listAnomalies tenantId, knowledge.listContexts tenantId,
      knowledge.listPatterns tenantId)) := by
  intro clock other before after later counts ran clean grown same
  obtain ⟨sameAnomalies, sameContexts, samePatterns⟩ : _ ∧ _ ∧ _ := by
    simpa only [Prod.mk.injEq] using same
  have steps := generateHypothesisSteps_returned ran clean
  rw [generateHypothesisSteps_alone] at steps
  obtain ⟨-, -, found, missed, sum, without, reruns⟩ := explainAnomalies_again steps clean
  refine generateHypothesisTenant_returns ?_
  rw [generateHypothesisSteps_alone, sameAnomalies, sameContexts, samePatterns, reruns later _ grown]
  rw [Nat.zero_add] at without
  simp only [sum, without, clean, Nat.zero_add]

end Hypotheses

/-! ### The insight generator -/

theorem InsightRecord.toRow_returns {insight : InsightRecord} : (∃ row, insight.toRow = .ok row) ↔
    (∃ text, Column.text insight.description = .ok text) ∧
      (∃ text, Column.text (insight.priorUnderstanding.getD "") = .ok text) ∧
        ∃ value, Column.jsonb insight.mentalModelUpdate = .ok value := by
  constructor
  · rintro ⟨row, assigned⟩
    obtain ⟨description, described, assigned⟩ := Result.bind_eq_ok.mp assigned
    obtain ⟨understanding, understood, assigned⟩ := Result.bind_eq_ok.mp assigned
    obtain ⟨update, updated, -⟩ := Result.bind_eq_ok.mp assigned
    exact ⟨⟨description, described⟩, ⟨understanding, understood⟩, update, updated⟩
  · rintro ⟨⟨description, described⟩, ⟨understanding, understood⟩, update, updated⟩
    exact ⟨_, Result.bind_eq_ok.mpr ⟨description, described,
      Result.bind_eq_ok.mpr ⟨understanding, understood, Result.bind_eq_ok.mpr ⟨update, updated, rfl⟩⟩⟩⟩

/-- A creation request at another time. -/
def InsightCreate.Redated (create original : InsightCreate) : Prop :=
  create = { original with generatedAt := create.generatedAt }

section Insights

variable {env : InsightServiceEnv} {tenantId : Uuid}
  {template : String → List (String × Json) → Except PyError String} {moment again : Timestamp}
  {order otherOrder : SetOrder} {rules : List InsightRule}
  {known : TenantKnowledge} {creations others : List InsightCreate} {knowledge : Knowledge}

variable (again) in
theorem buildInsight_again {rule : InsightRule} {context : Context} {hypotheses : List Hypothesis}
    {insight : InsightCreate}
    (built : buildInsight ⟨template, moment⟩ rule tenantId context hypotheses = .ok insight) :
    ∃ rebuilt, buildInsight ⟨template, again⟩ rule tenantId context hypotheses = .ok rebuilt ∧
      rebuilt.Redated insight := by
  unfold buildInsight at built ⊢
  obtain ⟨description, described, built⟩ := Result.bind_eq_ok.mp built
  obtain ⟨understanding, understood, built⟩ := Result.bind_eq_ok.mp built
  cases Result.pure_eq_ok.mp built
  exact ⟨_, Result.bind_eq_ok.mpr ⟨description, described,
    Result.bind_eq_ok.mpr ⟨understanding, understood, rfl⟩⟩, rfl⟩

/-- Every request of a list is one of another list, at another time perhaps. -/
def InsightCreate.Among (others creations : List InsightCreate) : Prop :=
  ∃ ordered, others.Perm ordered ∧ List.Forall₂ InsightCreate.Redated ordered creations

variable (again otherOrder) in
/-- **The same insights are generated at any time**, in whatever order the sets are read. -/
theorem generateInsights_again
    (generated : known.generateInsights order ⟨template, moment⟩ tenantId rules = .ok creations) :
    ∃ others, known.generateInsights otherOrder ⟨template, again⟩ tenantId rules = .ok others ∧
      InsightCreate.Among others creations := by
  obtain ⟨ordered, rebuilt, redated⟩ := Result.mapM_related
    (fun _ _ _ built => buildInsight_again again built) generated
  have reordered : known.Reordered known := ⟨List.Perm.refl _, List.Perm.refl _, List.Perm.refl _⟩
  obtain ⟨others, mapped, perm⟩ := Result.mapM_perm (reordered.restructurings order otherOrder rules) rebuilt
  exact ⟨others, mapped, ordered, perm, redated⟩

theorem insightRows_present (among : InsightCreate.Among others creations)
    (there : ∀ row ∈ creations.map (materializeInsight env.std),
      Present (fun row => row.id) InsightRecord.toRow Knowledge.insights knowledge row) :
    ∀ row ∈ others.map (materializeInsight env.std),
      Present (fun row => row.id) InsightRecord.toRow Knowledge.insights knowledge row := by
  intro row member
  obtain ⟨create, isCreate, rfl⟩ := List.mem_map.mp member
  obtain ⟨ordered, perm, redated⟩ := among
  obtain ⟨original, isOriginal, same⟩ := Result.forall₂_left redated (perm.mem_iff.mp isCreate)
  obtain ⟨stored, isThere⟩ := there _ (List.mem_map_of_mem isOriginal)
  have columns := InsightRecord.toRow_returns.mp stored
  rw [same]
  exact ⟨InsightRecord.toRow_returns.mpr columns, isThere⟩

section Cycle

variable {now : Timestamp} {before after : PipelineState} {counts : InsightCounts}

/-- What a service knows of a tenant. -/
def knownOf (tenantId : Uuid) (knowledge : Knowledge) : TenantKnowledge :=
  tenantKnowledge (knowledge.keyedHypotheses tenantId) (knowledge.keyedAnomalies tenantId)
    (knowledge.keyedContexts tenantId)

theorem restructureTenant_alone : (restructureTenant env tenantId now).alone before =
    (compute (((knownOf tenantId before.knowledge).generateInsights env.order ⟨env.template, now⟩ tenantId
      env.rules).mapError .python) >>= fun creations =>
        if creations.isEmpty then pure ⟨0, 0, 1, 0⟩
        else saveRows (Knowledge.saveInsight env.tenants) noSaves
          (creations.map (materializeInsight env.std)) >>= fun saved =>
            pure ⟨saved.stored, saved.duplicates, 0, saved.errors⟩).alone before :=
  rfl

theorem compute_alone {First Value : Type} {value : First} {rest : First → ServiceProgram Value}
    {state : PipelineState} : (compute (.ok value) >>= rest).alone state = (rest value).alone state :=
  rfl

theorem restructureTenant_returned
    (ran : (restructureTenant env tenantId now).alone before = (.ok counts, after)) :
    ∃ creations, (knownOf tenantId before.knowledge).generateInsights env.order ⟨env.template, now⟩ tenantId
        env.rules = .ok creations ∧
      (creations = [] ∧ counts = ⟨0, 0, 1, 0⟩ ∧ after = before ∨
        creations ≠ [] ∧ ∃ saved, (saveRows (Knowledge.saveInsight env.tenants) noSaves
            (creations.map (materializeInsight env.std))).alone before = (.ok saved, after) ∧
          counts = ⟨saved.stored, saved.duplicates, 0, saved.errors⟩) := by
  rw [restructureTenant_alone] at ran
  rcases generated : (knownOf tenantId before.knowledge).generateInsights env.order ⟨env.template, now⟩
      tenantId env.rules with failure | creations
  · rw [generated] at ran
    cases ran
  · rw [generated, Except.mapError, compute_alone] at ran
    refine ⟨creations, rfl, ?_⟩
    split at ran
    · rename_i empty
      cases ran
      exact .inl ⟨List.isEmpty_iff.mp empty, rfl, rfl⟩
    · rename_i some
      rw [Program.alone_bind] at ran
      obtain ⟨saved, between, loop, returned⟩ := Effect.bind_returned.mp ran
      cases returned
      exact .inr ⟨fun nothing => some (List.isEmpty_iff.mpr nothing), saved, loop, rfl⟩

variable (env tenantId) in
/-- **The insight generator settles**, also when the sets are read in another order. -/
theorem insights_settle :
    Settles (fun time : Timestamp × SetOrder => restructureTenant { env with order := time.2 } tenantId time.1)
      InsightCounts.errors
      (fun counts => { counts with
        totalInsights := 0
        totalDuplicates := counts.totalInsights + counts.totalDuplicates })
      (knownOf tenantId) := by
  intro clock other before after later counts ran clean grown same
  obtain ⟨creations, generated, cases⟩ := restructureTenant_returned ran
  obtain ⟨others, regenerated, among⟩ := generateInsights_again other.1 other.2 generated
  obtain ⟨ordered, perm, redated⟩ := id among
  dsimp only
  rw [restructureTenant_alone, same]
  dsimp only
  rw [regenerated, Except.mapError, compute_alone]
  rcases cases with ⟨rfl, rfl, rfl⟩ | ⟨some, saved, loop, rfl⟩
  · cases redated
    obtain rfl := perm.eq_nil
    rfl
  · obtain ⟨-, -, stores⟩ := saveRows_spec (Knowledge.saveInsight_keyed env.tenants) loop
    obtain ⟨there, length⟩ := stores clean
    have several : ¬ others.isEmpty = true := fun empty => by
      rw [List.isEmpty_iff.mp empty] at perm
      obtain rfl := perm.symm.eq_nil
      cases redated
      exact some rfl
    have present : ∀ row ∈ others.map (materializeInsight env.std),
        Present (fun row => row.id) InsightRecord.toRow Knowledge.insights later.knowledge row := by
      refine insightRows_present among fun row member => ?_
      obtain ⟨assigned, isThere⟩ := there row member
      exact ⟨assigned, (grown.insights.map _).subset isThere⟩
    have noErrors : saved.errors = 0 := clean
    rw [if_neg several, Program.alone_bind,
      Effect.bind_ran (saveRows_again (Knowledge.saveInsight_keyed env.tenants) present)]
    rw [List.length_map] at length ⊢
    rw [perm.length_eq, redated.length_eq]
    dsimp only
    rw [length, noErrors]
    rfl

end Cycle

end Insights

/-- **The reasoning services settle.** A cycle without errors has stored all that the rows which it has read
give rise to: whatever runs afterwards, a cycle on the same rows, at any time, finds all of it there and
changes nothing. -/
theorem reasoning_settles (anomalies : AnomalyEnv) (hypotheses : HypothesisEnv) (insights : InsightServiceEnv)
    (tenantId : Uuid) :
    Settles (detectAnomalyTenant anomalies tenantId) AnomalyCounts.errors
        (fun counts => { counts with
          totalAnomalies := 0
          totalDuplicates := counts.totalAnomalies + counts.totalDuplicates })
        (fun knowledge => (knowledge.listContexts tenantId, knowledge.listActiveContexts tenantId,
          knowledge.listPatterns tenantId)) ∧
      Settles (generateHypothesisTenant hypotheses tenantId) HypothesisCounts.errors
        (fun counts => { counts with
          totalHypotheses := 0
          totalDuplicates := counts.totalHypotheses + counts.totalDuplicates })
        (fun knowledge => (knowledge.listAnomalies tenantId, knowledge.listContexts tenantId,
          knowledge.listPatterns tenantId)) ∧
      Settles
        (fun time : Timestamp × SetOrder =>
          restructureTenant { insights with order := time.2 } tenantId time.1)
        InsightCounts.errors
        (fun counts => { counts with
          totalInsights := 0
          totalDuplicates := counts.totalInsights + counts.totalDuplicates })
        (knownOf tenantId) :=
  ⟨anomalies_settle anomalies tenantId, hypotheses_settle hypotheses tenantId,
    insights_settle insights tenantId⟩

/-- A deviation of the first tenant. -/
def lockoutAnomaly (id : Uuid) (detectedAt : Timestamp) : Anomaly where
  id
  tenantId := 1
  contextId := 20
  patternId := 30
  deviationScore := 1
  toleranceThreshold := 0
  anomalyClass := "point"
  detectedAt

/-- Two lockouts before they are explained. -/
def unexplainedState : PipelineState :=
  { lockoutState with knowledge := { lockoutKnowledge with
      anomalies := [lockoutAnomaly 40 3, lockoutAnomaly 41 9]
      anomaliesKeyed := by decide } }

/-- The lockouts after they are explained. -/
def rivalExplained : PipelineState :=
  ((generateHypothesisTenant rivalEnv 1 fun _ => 20).alone unexplainedState).2

/-- The first cycle stores four hypotheses, and the second one finds them. -/
theorem reasoning_settles_rival :
    (generateHypothesisTenant rivalEnv 1 fun _ => 20).alone unexplainedState =
        (.ok ⟨4, 0, 0, 0⟩, rivalExplained) ∧
      (generateHypothesisTenant rivalEnv 1 fun _ => 30).alone rivalExplained =
        (.ok ⟨0, 4, 0, 0⟩, rivalExplained) := by
  have stored : (generateHypothesisTenant rivalEnv 1 fun _ => 20).alone unexplainedState =
      (.ok ⟨4, 0, 0, 0⟩, rivalExplained) := by
    refine Prod.ext ?_ (by rw [rivalExplained])
    decide +kernel
  have same : (rivalExplained.knowledge.listAnomalies 1, rivalExplained.knowledge.listContexts 1,
      rivalExplained.knowledge.listPatterns 1) = (unexplainedState.knowledge.listAnomalies 1,
        unexplainedState.knowledge.listContexts 1, unexplainedState.knowledge.listPatterns 1) := by
    decide +kernel
  exact ⟨stored, (reasoning_settles sharedPipeline.anomalies rivalEnv sharedPipeline.insights 1).2.1 stored
    rfl (le_refl _) same⟩

end CosMonitor
