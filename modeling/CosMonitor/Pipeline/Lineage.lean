/-
**Where an insight comes from.**

What the invariant of the pipeline says of an insight, written out down to the observations, and what it
says of the rows of a run. Both are about every state that any interleaving of the services leads to, with
any statements that failed and any services that were started again.

* `Knowledge.TracesDown`: an insight with its hypotheses, anomalies, patterns, contexts, evidence and
  observations;
* `Traceable.tracesDown`: in traced tables every insight has them, as the keys make the rows one;
* `insights_traced`: so it has in every state of a run;
* `history_kept`: no run loses a row or rewrites one.
-/

import CosMonitor.Pipeline.Provenance

namespace CosMonitor

open Interleaving Result Table Transition

namespace Knowledge

variable (knowledge : Knowledge)

/-- A context rests on evidence of its tenant, and the evidence on observations. -/
def Rests (context : Context) : Prop :=
  context.evidenceIds ≠ [] ∧ ∀ id ∈ context.evidenceIds, ∃ evidence ∈ knowledge.evidence,
    evidence.id = id ∧ evidence.tenantId = context.tenantId ∧ knowledge.EvidenceTraced evidence

/-- An anomaly of a context is a deviation from a pattern of the tenant, which was detected in a context of
the same scope. -/
def Deviates (context : Context) (anomaly : Anomaly) : Prop :=
  anomaly.contextId = context.id ∧ anomaly.tenantId = context.tenantId ∧
    ∃ pattern ∈ knowledge.patterns, pattern.id = anomaly.patternId ∧ pattern.tenantId = context.tenantId ∧
      ∃ found ∈ knowledge.contexts.rows, found.id = pattern.contextId ∧
        found.tenantId = context.tenantId ∧ found.scope = context.scope ∧ knowledge.Rests found

/-- **An insight leads down to what was observed.** It restructures several hypotheses, each of which
explains one anomaly of the context of the insight. -/
def TracesDown (insight : InsightRecord) : Prop :=
  2 ≤ insight.hypothesisIds.length ∧ insight.hypothesisIds.Nodup ∧
    ∃ context ∈ knowledge.contexts.rows, context.id = insight.contextId ∧
      context.tenantId = insight.tenantId ∧ knowledge.Rests context ∧
      ∀ id ∈ insight.hypothesisIds, ∃ hypothesis ∈ knowledge.hypotheses, hypothesis.id = id ∧
        hypothesis.tenantId = insight.tenantId ∧ hypothesis.predictedConsequences ≠ [] ∧
        ∃ anomaly ∈ knowledge.anomalies, hypothesis.anomalyIds = [anomaly.id] ∧
          hypothesis.patternIds = [anomaly.patternId] ∧ knowledge.Deviates context anomaly

variable {knowledge}

theorem Traceable.rests (traceable : knowledge.Traceable) {context : Context}
    (stored : context ∈ knowledge.contexts.rows) : knowledge.Rests context := by
  obtain ⟨some, named⟩ := traceable.contexts context stored
  refine ⟨some, fun id member => ?_⟩
  obtain ⟨evidence, evidenceIn, sameId, sameTenant⟩ := named id member
  exact ⟨evidence, evidenceIn, sameId, sameTenant, traceable.evidence evidence evidenceIn⟩

theorem Traceable.deviates (traceable : knowledge.Traceable) {context : Context} {anomaly : Anomaly}
    (contextIn : context ∈ knowledge.contexts.rows) (anomalyIn : anomaly ∈ knowledge.anomalies)
    (about : anomaly.contextId = context.id) : knowledge.Deviates context anomaly := by
  obtain ⟨pattern, patternIn, isPattern, ofTenant, scope, own, expected⟩ :=
    traceable.anomalies anomaly anomalyIn
  obtain ⟨row, rowIn, rowId, rowTenant, rowScope⟩ := own
  -- The context of the anomaly is the one with the same id.
  have keyed := knowledge.contexts.idUnique
  rw [UniqueOn, List.filter_true] at keyed
  obtain rfl : row = context := List.inj_on_of_nodup_map keyed rowIn contextIn (rowId.trans about)
  obtain ⟨found, foundIn, foundId, foundTenant, foundScope⟩ := expected
  refine ⟨about, rowTenant.symm, pattern, patternIn, isPattern, ofTenant.trans rowTenant.symm, found,
    foundIn, foundId, foundTenant.trans rowTenant.symm, foundScope.trans rowScope.symm, ?_⟩
  exact traceable.rests foundIn

/-- **Every stored insight leads down to what was observed.** -/
theorem Traceable.tracesDown (traceable : knowledge.Traceable) {insight : InsightRecord}
    (stored : insight ∈ knowledge.insights) : knowledge.TracesDown insight := by
  obtain ⟨several, distinct, ⟨scope, anchored⟩, explained⟩ := traceable.insights insight stored
  obtain ⟨context, contextIn, contextId, contextTenant, -⟩ := anchored
  refine ⟨several, distinct, context, contextIn, contextId, contextTenant, traceable.rests contextIn, ?_⟩
  intro id member
  obtain ⟨hypothesis, hypothesisIn, hypothesisId, ofTenant, anomaly, anomalyIn, accounts, about⟩ :=
    explained id member
  obtain ⟨predicts, cause, causeIn, -, causes, expects⟩ := traceable.hypotheses hypothesis hypothesisIn
  -- The hypothesis names one anomaly, so it is the one about the context.
  rw [causes, List.mem_singleton] at accounts
  obtain rfl : anomaly = cause :=
    List.inj_on_of_nodup_map knowledge.anomaliesKeyed anomalyIn causeIn accounts
  refine ⟨hypothesis, hypothesisIn, hypothesisId, ofTenant, predicts, anomaly, anomalyIn, causes, expects, ?_⟩
  exact traceable.deviates contextIn anomalyIn (about.trans contextId.symm)

end Knowledge

section Runs

variable {env : PipelineEnv} {start : PipelineState}
  {pool later : Pool PipelineState ServiceError TaskReport}

/-- **Every insight of every run is traced.** -/
theorem insights_traced (organizes : env.Organizes) (sound : start.Sound)
    (reached : env.Reaches start pool) :
    pool.shared.Sound ∧ ∀ insight ∈ pool.shared.knowledge.insights,
      pool.shared.knowledge.TracesDown insight := by
  have growing := pipeline_grows organizes sound reached
  exact ⟨growing.shared, fun insight stored => growing.shared.traceable.tracesDown stored⟩

/-- **No run loses a row or rewrites one**, apart from the flag of a context and the status of a
hypothesis. -/
theorem history_kept (organizes : env.Organizes) (sound : start.Sound)
    (reached : env.Reaches start pool)
    (further : env.system.Reachable (Pool.SpawningOnly True) pool later) :
    pool.shared.knowledge.Grown later.shared.knowledge := by
  have growing := pipeline_grows organizes sound reached
  have since : pool.Growing True PipelineState.Sound pool.shared :=
    ⟨le_refl _, growing.shared, growing.programs⟩
  exact (Pool.spawning_grows (fun task state _ => program_keeps organizes task state) since further).above

end Runs

/-! ### An insight over two hypotheses -/

/-- The lockout of an account, organized, in an active context that is off the schedule of its pattern. -/
def lockoutKnowledge : Knowledge where
  observations := [lockoutObservation]
  evidence := [{
    id := 10, tenantId := 1, observationIds := [80], organizationType := "correlation"
    description := "", qualityClass := .q1, weight := ⟨1, by decide +kernel⟩, organizedAt := 0 }]
  contexts := {
    rows := [{
      id := 20, tenantId := 1, evidenceIds := [10], mentalModelId := "auth_compromise"
      purpose := "security", coherenceScore := ⟨1, by decide +kernel⟩
      competingModels := [], activatedAt := 1, isActive := true }]
    idUnique := by decide
    activeUnique := by decide
    purposeFits := by decide }
  patterns := [{
    id := 30, tenantId := 1, contextId := 20, patternType := "temporal", description := ""
    strengthMeasure := 1, frequency := "daily", detectedAt := 2, isActive := true }]
  anomalies := []
  hypotheses := []
  insights := []
  evidenceKeyed := by decide
  patternsKeyed := by decide
  anomaliesKeyed := by decide
  hypothesesKeyed := by decide
  insightsKeyed := by decide

theorem lockoutKnowledge_traceable : lockoutKnowledge.Traceable where
  evidence := by simp [lockoutKnowledge, Knowledge.EvidenceTraced, lockoutObservation]
  contexts := by simp [lockoutKnowledge, Knowledge.ContextTraced]
  patterns row stored := by
    rw [List.mem_singleton.mp stored]
    exact ⟨("auth_compromise", "security"), _, List.mem_cons_self, rfl, rfl, rfl⟩
  anomalies := by
    rintro _ ⟨⟩
  hypotheses := by
    rintro _ ⟨⟩
  insights := by
    rintro _ ⟨⟩

/-- The bus is empty, and the collector has buffered the lockout. -/
def lockoutState : PipelineState where
  bus := ⟨[], 0, []⟩
  window := [lockoutObservation]
  knowledge := lockoutKnowledge

theorem lockoutState_sound : lockoutState.Sound where
  traceable := lockoutKnowledge_traceable
  buffered _ member := ⟨_, member, rfl⟩

/-- An explanation of a lockout. -/
def rivalTemplate (description : String) (described : stripChars description.toList ≠ []) :
    HypothesisTemplate where
  templateId := description
  scopeAnomalyClass := .point
  scopeMentalModels := ["auth_compromise"]
  scopePurposes := []
  descriptionTemplate := description
  consequenceTemplates := ["one more lockout"]
  falsificationTemplates := ["no lockout"]
  coherenceEstimate := ⟨1, one_isUnit⟩
  described
  predicts := List.cons_ne_nil _ _
  falsifiable := List.cons_ne_nil _ _

/-- A hypothesis generator with two explanations. -/
def rivalEnv : HypothesisEnv where
  std := countingStd
  tenants := [1]
  template := fun text _ => .ok text
  templates := [rivalTemplate "retries" (by decide), rivalTemplate "probing" (by decide)]

/-- Services of the first tenants, with the collector that is shared. -/
def sharedPipeline : PipelineEnv where
  collector := sharedEnv
  activator := { std := sharedStd, dumps := fun _ => "", tenants := [1, 2], models := [] }
  purposes := []
  patterns := {
    std := sharedStd, tenants := [1, 2], formats := plainDetector, library := [], windowDays := 7 }
  anomalies := {
    std := sharedStd, tenants := [1, 2], formats := plainDetector
    tolerances := [scheduleDeviation "auth_compromise"] }
  hypotheses := rivalEnv
  insights := {
    std := sharedStd, tenants := [1, 2]
    order := ⟨fun texts => texts.dedup, fun _ => List.Perm.refl _⟩
    template := fun text _ => .ok text
    rules := [{ competitiveFrame with
      descriptionTemplate := "rivals", priorUnderstandingTemplate := "apart"
      described := by decide, understood := by decide }] }

theorem sharedPipeline_organizes : sharedPipeline.Organizes :=
  ⟨sharedTexts, {}, rfl⟩

/-- The anomaly is detected and explained while the collector starts again. -/
def explainingRun : List (Event PipelineTask) :=
  [.start (.detectAnomalies 1 fun _ => 3), .start .restartCollector] ++
    List.replicate 4 (.turn ⟨0, false⟩) ++ [.start (.generateHypotheses 1 fun _ => 4), .turn ⟨1, false⟩] ++
    List.replicate 5 (.turn ⟨2, false⟩)

/-- The explanations are restructured while one of them is judged. -/
def judgingRun : List (Event PipelineTask) :=
  [.start (.restructure 1 5), .turn ⟨3, false⟩, .start (.evaluate 1 6754 "falsified"), .turn ⟨4, false⟩] ++
    List.replicate 3 (.turn ⟨3, false⟩)

theorem judgingRun_reaches : ∃ pool later, sharedPipeline.Reaches lockoutState pool ∧
    sharedPipeline.system.Reachable (Pool.SpawningOnly True) pool later ∧
    pool.shared.knowledge.hypotheses.map Hypothesis.status = ["candidate", "candidate"] ∧
    later.shared.knowledge.hypotheses.map Hypothesis.status = ["falsified", "candidate"] ∧
    later.shared.knowledge.insights.map InsightRecord.hypothesisIds = [[6741, 6754]] := by
  have executed : ((sharedPipeline.system.run (Pool.idle lockoutState) explainingRun).bind fun pool =>
      (sharedPipeline.system.run pool judgingRun).map fun later =>
        decide (pool.shared.knowledge.hypotheses.map Hypothesis.status = ["candidate", "candidate"] ∧
          later.shared.knowledge.hypotheses.map Hypothesis.status = ["falsified", "candidate"] ∧
          later.shared.knowledge.insights.map InsightRecord.hypothesisIds = [[6741, 6754]])) = some true := by
    decide +kernel
  obtain ⟨pool, explaining, rest⟩ := Option.bind_eq_some_iff.mp executed
  obtain ⟨later, judging, holds⟩ := Option.map_eq_some_iff.mp rest
  exact ⟨pool, later, System.run_reachable explaining fun _ _ _ _ _ _ => trivial,
    System.run_reachable judging fun _ _ _ _ _ _ => trivial, of_decide_eq_true holds⟩

/-- The insight of the run leads down to the lockout. -/
theorem insights_traced_judged : ∃ pool, sharedPipeline.Reaches lockoutState pool ∧
    pool.shared.knowledge.insights.map InsightRecord.hypothesisIds = [[6741, 6754]] ∧
    ∀ insight ∈ pool.shared.knowledge.insights, pool.shared.knowledge.TracesDown insight := by
  obtain ⟨pool, later, reached, further, -, -, insights⟩ := judgingRun_reaches
  have all : sharedPipeline.Reaches lockoutState later := Relation.ReflTransGen.trans reached further
  exact ⟨later, all, insights, (insights_traced sharedPipeline_organizes lockoutState_sound all).2⟩

/-- The verdict and the restructuring have rewritten nothing else. -/
theorem history_kept_judged : ∃ pool later : Pool PipelineState ServiceError TaskReport,
    pool.shared.knowledge.hypotheses.map Hypothesis.status = ["candidate", "candidate"] ∧
    later.shared.knowledge.hypotheses.map Hypothesis.status = ["falsified", "candidate"] ∧
    pool.shared.knowledge.Grown later.shared.knowledge := by
  obtain ⟨pool, later, reached, further, before, after, -⟩ := judgingRun_reaches
  exact ⟨pool, later, before, after,
    history_kept sharedPipeline_organizes lockoutState_sound reached further⟩

end CosMonitor
