/-
**The propose and the commit cycles, statement by statement.**

Any number of tasks of both services run next to each other and next to the services that write the
tables they read. A task holds what it has read; every statement of it is one step, and it can fail
between any two of them.

* `ActionState`: the tables, and the tasks between two of their statements;
* `advance`: the next statement of a task;
* `pipeline`: the system of all steps;
* `pipeline_step`: everything a step can do to the tables and to the tasks.
-/

import CosMonitor.Action.DecisionService
import CosMonitor.Action.RecommendationService
import CosMonitor.Foundation.Transition

namespace CosMonitor

open Table

/-! ### States -/

/-- The tables of the action layer and those that it reads, with their primary keys. -/
structure ActionTables where
  understanding : Understanding
  confidences : List Confidence
  recommendations : List Recommendation
  decisions : List Decision
  confidencesKeyed : (confidences.map Confidence.id).Nodup
  recommendationsKeyed : (recommendations.map Recommendation.id).Nodup
  decisionsKeyed : (decisions.map Decision.id).Nodup

namespace ActionTables

/-- `save_confidence`. -/
def saveConfidence (now : Timestamp) (confidence : Confidence) (tables : ActionTables) :
    ActionTables :=
  { tables with
    confidences := (CosMonitor.saveConfidence now confidence tables.confidences).2
    confidencesKeyed := insertAbsent_nodup _ tables.confidencesKeyed }

/-- `save_recommendation`: an insert that a stored id leaves alone. -/
def saveRecommendation (recommendation : Recommendation) (tables : ActionTables) : ActionTables :=
  { tables with
    recommendations := (insertAbsent Recommendation.id recommendation tables.recommendations).2
    recommendationsKeyed := insertAbsent_nodup _ tables.recommendationsKeyed }

/-- `save_decision`: an insert that a stored id leaves alone. -/
def saveDecision (decision : Decision) (tables : ActionTables) : ActionTables :=
  { tables with
    decisions := (insertAbsent Decision.id decision tables.decisions).2
    decisionsKeyed := insertAbsent_nodup _ tables.decisionsKeyed }

end ActionTables

/-- The task of a tenant between two of its statements. -/
inductive ActionTask where
  | hypothesesRead (tenantId : Uuid) (hypotheses : List Hypothesis)
  | anomaliesRead (tenantId : Uuid) (hypotheses : List Hypothesis) (anomalies : List Anomaly)
  | formulating (tenantId : Uuid) (hypotheses : List Hypothesis) (anomalies : List Anomaly)
      (contexts : List Context)
  | offering (recommendation : Recommendation) (tenantId : Uuid) (hypotheses : List Hypothesis)
      (anomalies : List Anomaly) (contexts : List Context)
  | recommendationsRead (tenantId : Uuid) (recommendations : List Recommendation)
  | committing (recommendations : List Recommendation) (confidences : List Confidence)

/-- The tables and the running tasks. -/
structure ActionState extends ActionTables where
  tasks : List ActionTask

/-- The tables without a running task. -/
def ActionTables.idle (tables : ActionTables) : ActionState where
  toActionTables := tables
  tasks := []

/-- What the two services are deployed with. -/
structure ActionDeployment where
  std : Stdlib
  formats : TextFormats
  actionSpace : List ActionSpaceEntry
  service : DecisionService

/-- What a task goes on with; `none` is a task that has ended. -/
def ActionState.resume (state : ActionState) (index : Nat) : Option ActionTask → ActionState
  | some task => { state with tasks := state.tasks.set index task }
  | none => { state with tasks := state.tasks.eraseIdx index }

/-! ### Steps -/

/-- The next statement of a task. -/
def advance (deployment : ActionDeployment) (now : Timestamp) (state : ActionState) (index : Nat) :
    ActionTask → ActionState
  | .hypothesesRead tenantId hypotheses =>
      state.resume index (some (.anomaliesRead tenantId hypotheses
        (listAnomalies tenantId state.understanding.anomalies)))
  | .anomaliesRead tenantId hypotheses anomalies =>
      state.resume index (some (.formulating tenantId hypotheses anomalies
        (listContexts tenantId state.understanding.contexts)))
  | .formulating _ [] _ _ => state.resume index none
  | .formulating tenantId (hypothesis :: rest) anomalies contexts =>
      -- The statement is `get_confidence`; the formulation is pure.
      match formulateHypothesis deployment.std deployment.formats deployment.actionSpace tenantId
          state.confidences anomalies contexts now hypothesis with
      | .error _ => state.resume index none
      | .ok none => state.resume index (some (.formulating tenantId rest anomalies contexts))
      | .ok (some recommendation) =>
          state.resume index (some (.offering recommendation tenantId rest anomalies contexts))
  | .offering recommendation tenantId hypotheses anomalies contexts =>
      { state with toActionTables := state.saveRecommendation recommendation }.resume index
        (some (.formulating tenantId hypotheses anomalies contexts))
  | .recommendationsRead tenantId recommendations =>
      state.resume index (some (.committing recommendations
        (listConfidence tenantId 500 0 state.confidences)))
  | .committing [] _ => state.resume index none
  | .committing (recommendation :: rest) confidences =>
      match commitRecommendation deployment.std deployment.service confidences now recommendation with
      | .error _ => state.resume index none
      | .ok none => state.resume index (some (.committing rest confidences))
      | .ok (some decision) =>
          { state with toActionTables := state.saveDecision decision }.resume index
            (some (.committing rest confidences))

/-- What can happen next. -/
inductive ActionEvent where
  /-- the other services write the tables that the propose cycle reads -/
  | understand (understanding : Understanding)
  /-- `save_confidence` -/
  | calibrate (now : Timestamp) (confidence : Confidence)
  /-- a propose cycle reaches a tenant: `list_hypotheses` -/
  | propose (tenantId : Uuid)
  /-- a commit cycle reaches a tenant: `list_recommendations` -/
  | decide (tenantId : Uuid)
  /-- the next statement of a task -/
  | advance (index : Nat) (now : Timestamp)
  /-- a task fails -/
  | fail (index : Nat)

/-- Any interleaving of the tasks and of the services around them. -/
def pipeline (deployment : ActionDeployment) : Transition.System ActionState ActionEvent where
  step := fun state event =>
    match event with
    | .understand understanding => some { state with understanding }
    | .calibrate now confidence =>
        some { state with toActionTables := state.saveConfidence now confidence }
    | .propose tenantId =>
        some { state with tasks := state.tasks ++
          [.hypothesesRead tenantId (listHypotheses tenantId 500 0 state.understanding.hypotheses)] }
    | .decide tenantId =>
        some { state with tasks := state.tasks ++
          [.recommendationsRead tenantId (listRecommendations tenantId state.recommendations)] }
    | .advance index now =>
        (state.tasks[index]?).map fun task => advance deployment now state index task
    | .fail index => some (state.resume index none)

/-! ### What a step can do -/

/-- The offer that a task is about to store. -/
def ActionTask.offers : ActionTask → List Recommendation
  | .offering recommendation _ _ _ _ => [recommendation]
  | _ => []

/-- The recommendations that a task has still to commit. -/
def ActionTask.listed : ActionTask → List Recommendation
  | .recommendationsRead _ recommendations | .committing recommendations _ => recommendations
  | _ => []

/-- The confidences that a task commits with. -/
def ActionTask.known : ActionTask → List Confidence
  | .committing _ confidences => confidences
  | _ => []

/-- Where a task has its rows from, after a step: from a task before it, or from the tables. -/
structure ActionTask.Follows (deployment : ActionDeployment) (before : ActionState)
    (task : ActionTask) : Prop where
  offers : ∀ recommendation ∈ task.offers, (∃ old ∈ before.tasks, recommendation ∈ old.offers) ∨
    ∃ tenantId hypothesis confidence,
      getConfidence tenantId .hypothesis hypothesis.id before.confidences = some confidence ∧
      OfferedFor deployment.std hypothesis confidence recommendation
  listed : ∀ recommendation ∈ task.listed, (∃ old ∈ before.tasks, recommendation ∈ old.listed) ∨
    recommendation ∈ before.recommendations
  known : ∀ confidence ∈ task.known, (∃ old ∈ before.tasks, confidence ∈ old.known) ∨
    confidence ∈ before.confidences

/-- Everything a step can do to the tables and to the tasks. -/
structure PipelineStep (deployment : ActionDeployment) (before after : ActionState) : Prop where
  confidences : after.confidences = before.confidences ∨ ∃ now confidence,
    after.confidences = (saveConfidence now confidence before.confidences).2
  recommendations : after.recommendations = before.recommendations ∨
    ∃ task ∈ before.tasks, ∃ recommendation ∈ task.offers,
      after.recommendations =
        (insertAbsent Recommendation.id recommendation before.recommendations).2
  decisions : after.decisions = before.decisions ∨
    ∃ task ∈ before.tasks, ∃ recommendation ∈ task.listed, ∃ now decision,
      commitRecommendation deployment.std deployment.service task.known now recommendation =
        .ok (some decision) ∧
      after.decisions = (insertAbsent Decision.id decision before.decisions).2
  tasks : ∀ task ∈ after.tasks, task.Follows deployment before

section Step

variable {deployment : ActionDeployment} {before after : ActionState}

theorem ActionTask.Follows.old {task : ActionTask} (member : task ∈ before.tasks) :
    task.Follows deployment before where
  offers := fun _ offered => .inl ⟨task, member, offered⟩
  listed := fun _ isListed => .inl ⟨task, member, isListed⟩
  known := fun _ isKnown => .inl ⟨task, member, isKnown⟩

theorem ActionTask.Follows.reading {task : ActionTask} (offers : task.offers = [])
    (listed : task.listed = []) (known : task.known = []) : task.Follows deployment before where
  offers := by simp [offers]
  listed := by simp [listed]
  known := by simp [known]

theorem follows_resume {state : ActionState} {index : Nat} {next : Option ActionTask}
    (same : state.tasks = before.tasks) (goesOn : ∀ task ∈ next, task.Follows deployment before) :
    ∀ task ∈ (state.resume index next).tasks, task.Follows deployment before := by
  intro task member
  cases next with
  | none =>
      have old : task ∈ state.tasks := List.mem_of_mem_eraseIdx member
      rw [same] at old
      exact .old old
  | some other =>
      rcases List.mem_or_eq_of_mem_set member with old | rfl
      · rw [same] at old
        exact .old old
      · exact goesOn task rfl

theorem PipelineStep.of_resume {index : Nat} {next : Option ActionTask}
    (goesOn : ∀ task ∈ next, task.Follows deployment before) :
    PipelineStep deployment before (before.resume index next) where
  confidences := .inl (by cases next <;> rfl)
  recommendations := .inl (by cases next <;> rfl)
  decisions := .inl (by cases next <;> rfl)
  tasks := follows_resume rfl goesOn

theorem ActionTask.Follows.rest {recommendation : Recommendation} {rest : List Recommendation}
    {confidences : List Confidence}
    (member : ActionTask.committing (recommendation :: rest) confidences ∈ before.tasks) :
    (ActionTask.committing rest confidences).Follows deployment before where
  offers := by simp [ActionTask.offers]
  listed := fun _ isListed => .inl ⟨_, member, List.mem_cons_of_mem _ isListed⟩
  known := fun _ isKnown => .inl ⟨_, member, isKnown⟩

theorem advance_step {task : ActionTask} (now : Timestamp) (index : Nat)
    (member : task ∈ before.tasks) :
    PipelineStep deployment before (advance deployment now before index task) := by
  match task with
  | .hypothesesRead tenantId hypotheses =>
      show PipelineStep deployment before (before.resume index (some _))
      refine .of_resume fun next isNext => ?_
      obtain rfl := Option.some.inj isNext
      exact .reading rfl rfl rfl
  | .anomaliesRead tenantId hypotheses anomalies =>
      show PipelineStep deployment before (before.resume index (some _))
      refine .of_resume fun next isNext => ?_
      obtain rfl := Option.some.inj isNext
      exact .reading rfl rfl rfl
  | .formulating tenantId [] anomalies contexts =>
      show PipelineStep deployment before (before.resume index none)
      exact .of_resume fun next absent => by cases absent
  | .formulating tenantId (hypothesis :: rest) anomalies contexts =>
      unfold advance
      dsimp only
      split
      · exact .of_resume fun next absent => by cases absent
      · refine .of_resume fun next isNext => ?_
        obtain rfl := Option.some.inj isNext
        exact .reading rfl rfl rfl
      · rename_i recommendation returned
        obtain ⟨confidence, found, offered⟩ := formulateHypothesis_returned returned
        refine .of_resume fun next isNext => ?_
        obtain rfl := Option.some.inj isNext
        refine ⟨fun other isOffer => .inr ?_, by simp [ActionTask.listed], by simp [ActionTask.known]⟩
        obtain rfl := List.mem_singleton.mp isOffer
        exact ⟨tenantId, hypothesis, confidence, found, offered⟩
  | .offering recommendation tenantId hypotheses anomalies contexts =>
      exact {
        confidences := .inl rfl
        recommendations := .inr ⟨_, member, recommendation, List.mem_singleton_self _, rfl⟩
        decisions := .inl rfl
        tasks := by
          refine follows_resume rfl fun next isNext => ?_
          obtain rfl := Option.some.inj isNext
          exact .reading rfl rfl rfl }
  | .recommendationsRead tenantId recommendations =>
      show PipelineStep deployment before (before.resume index (some _))
      refine .of_resume fun next isNext => ?_
      obtain rfl := Option.some.inj isNext
      refine ⟨by simp [ActionTask.offers], fun _ isListed => .inl ⟨_, member, isListed⟩, ?_⟩
      intro confidence isKnown
      have inside := List.mem_of_mem_drop (List.mem_of_mem_take isKnown)
      rw [List.mem_insertionSort] at inside
      exact .inr (List.mem_of_mem_filter inside)
  | .committing [] confidences =>
      show PipelineStep deployment before (before.resume index none)
      exact .of_resume fun next absent => by cases absent
  | .committing (recommendation :: rest) confidences =>
      unfold advance
      dsimp only
      split
      · exact .of_resume fun next absent => by cases absent
      · refine .of_resume fun next isNext => ?_
        obtain rfl := Option.some.inj isNext
        exact .rest member
      · rename_i decision returned
        exact {
          confidences := .inl rfl
          recommendations := .inl rfl
          decisions := .inr ⟨_, member, recommendation, List.mem_cons_self, now, decision, returned,
            rfl⟩
          tasks := by
            refine follows_resume rfl fun next isNext => ?_
            obtain rfl := Option.some.inj isNext
            exact .rest member }

/-- **Everything a step can do.** -/
theorem pipeline_step {event : ActionEvent}
    (stepped : (pipeline deployment).step before event = some after) :
    PipelineStep deployment before after := by
  match event with
  | .understand understanding =>
      cases stepped
      exact ⟨.inl rfl, .inl rfl, .inl rfl, fun _ member => .old member⟩
  | .calibrate now confidence =>
      cases stepped
      exact ⟨.inr ⟨now, confidence, rfl⟩, .inl rfl, .inl rfl, fun _ member => .old member⟩
  | .propose tenantId =>
      cases stepped
      refine ⟨.inl rfl, .inl rfl, .inl rfl, fun task member => ?_⟩
      rcases List.mem_append.mp member with old | new
      · exact .old old
      · obtain rfl := List.mem_singleton.mp new
        exact .reading rfl rfl rfl
  | .decide tenantId =>
      cases stepped
      refine ⟨.inl rfl, .inl rfl, .inl rfl, fun task member => ?_⟩
      rcases List.mem_append.mp member with old | new
      · exact .old old
      · obtain rfl := List.mem_singleton.mp new
        refine ⟨by simp [ActionTask.offers], fun recommendation isListed => .inr ?_,
          by simp [ActionTask.known]⟩
        exact (mem_listRecommendations.mp isListed).1
  | .advance index now =>
      obtain ⟨task, found, rfl⟩ := Option.map_eq_some_iff.mp stepped
      exact advance_step now index (List.mem_of_getElem? found)
  | .fail index =>
      cases stepped
      exact .of_resume fun next absent => by cases absent

end Step

/-! ### A service that crashed -/

/-- The anomaly of a service that crashed. -/
def crashAnomaly : Anomaly where
  id := 4
  tenantId := 1
  contextId := 3
  patternId := 50
  deviationScore := 2
  toleranceThreshold := 1
  anomalyClass := "point"
  detectedAt := 0

/-- Its active context. -/
def crashContext : Context where
  id := 3
  tenantId := 1
  evidenceIds := [2]
  mentalModelId := "service_failure"
  purpose := "infrastructure_health"
  coherenceScore := ⟨1, one_isUnit⟩
  competingModels := []
  activatedAt := 0
  isActive := true

/-- A hypothesis about the crash. -/
def crashHypothesis (status : String) : Hypothesis where
  id := 5
  tenantId := 1
  anomalyIds := [4]
  patternIds := [50]
  description := "the service crashed"
  predictedConsequences := ["requests fail"]
  falsificationCriterion := "requests succeed"
  coherenceScore := ⟨1 / 2, half_isUnit⟩
  status
  generatedAt := 0

/-- A calibration of a hypothesis of tenant 1. -/
def crashConfidence (id hypothesisId : Uuid) (computedAt : Timestamp) : Confidence where
  id
  tenantId := 1
  targetType := .hypothesis
  targetId := hypothesisId
  evidentialSupport := ⟨1, one_isUnit⟩
  explanatoryCoherence := ⟨1, one_isUnit⟩
  historicalCalibration := ⟨1, one_isUnit⟩
  confidenceScore := ⟨4 / 5, fourFifths_isUnit⟩
  alpha := ⟨1 / 2, half_isUnit⟩
  calibrationJustification := {
    judgment := "likely"
    alpha := 1 / 2
    M := 10
    L0 := 0
    evidentialSupport := 1
    logOdds := 0
    supporting := []
    opposing := []
    explanatoryCoherence := 1
    explains := []
    contradicts := []
    calibrationError := 0
    history := none
    historicalCalibration := 1
    finalConfidence := 4 / 5 }
  calibrationErrorEstimate := ⟨0, zero_isUnit⟩
  evidenceIds := []
  computedAt

/-- The catalogue and the default thresholds. -/
def defaultDeployment : ActionDeployment where
  std := countingStd
  formats := {
    repr := fun _ => ""
    fixed4 := fun _ => ""
    justification := fun _ => "" }
  actionSpace := actionSpaceLibrary
  service := {
    minConfidenceForCommit := .finite (3 / 4)
    minConfidenceIrreversible := .finite (9 / 10) }

/-- A tenant whose service crashed, before any calibration. -/
def crashTables : ActionTables where
  understanding := {
    hypotheses := [crashHypothesis "candidate"]
    anomalies := [crashAnomaly]
    contexts := [crashContext] }
  confidences := []
  recommendations := []
  decisions := []
  confidencesKeyed := List.nodup_nil
  recommendationsKeyed := List.nodup_nil
  decisionsKeyed := List.nodup_nil

end CosMonitor
