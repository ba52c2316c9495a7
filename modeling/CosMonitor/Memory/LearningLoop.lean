/-
**The H3 learning loop — submitted outcomes, and the workers that learn from them.**

* `submitOutcomesWithRevision`: an outcome revision and the decision's outcomes in one transaction;
* `computeSignals`: what a run reads and computes: the decision as it is now, and the reports of its
  readers, which are inputs here;
* `LoopPhase` and `loopStep`: a run of `run_h3_learning_loop_for_decision`, one step for each of its
  statements. A step that raises rolls the transaction back, and an ordinary exception is then handed
  to `fail_execution` before it reaches the caller.
-/

import CosMonitor.Action.Decision
import CosMonitor.Foundation.Transition
import CosMonitor.Learning.ExecutionSteps
import CosMonitor.Memory.Consolidation
import CosMonitor.Memory.Ledger

set_option linter.unusedSectionVars false

namespace CosMonitor

/-! ### Signals -/

/-- The refinement of a pattern. -/
structure PatternRefinementResult where
  patternId : Uuid
  contextId : Uuid
  recommendedAction : String
  recommendedStrength : ℚ
  currentStrength : ℚ
  linkedDecisions : Nat
  corroborated : Nat
  contradicted : Nat
  inconclusive : Nat
  contradictionRatio : ℚ

/-- The revision of a context. -/
structure ContextRevisionResult where
  contextId : Uuid
  recommendedRevision : String
  suggestedCompetitor : Option String
  linkedDecisions : Nat
  corroborated : Nat
  contradicted : Nat
  inconclusive : Nat
  contradictionRatio : ℚ
  hasCompetingModels : Bool

/-- The transformation of an insight. -/
structure InsightTransformationResult where
  insightId : Uuid
  transformationKind : String
  description : String
  priorUnderstanding : Option String
  mentalModelUpdate : Option Json
  linkedRecommendations : Nat
  linkedDecisionsWithOutcomes : Nat
  corroborated : Nat
  contradicted : Nat
  inconclusive : Nat

/-- What the readers of a run report, and the artifacts that its decision is traced to. -/
structure LearningReports where
  patterns : List PatternRefinementResult
  contexts : List ContextRevisionResult
  insights : List InsightTransformationResult
  affectedPatterns : List Uuid
  affectedContexts : List Uuid
  affectedInsights : List Uuid

/-- A signal with its target and its provenance. -/
structure SignalTuple where
  targetType : MemoryTarget
  targetId : Uuid
  signal : Option Json
  provenance : Json

/-- An optional text in a JSON document. -/
def optionalText (text : Option String) : Json :=
  (text.map Json.str).getD .null

/-- The signal of a pattern. -/
def patternSignal (tenantId decisionId : Uuid) (result : PatternRefinementResult) : SignalTuple where
  targetType := .pattern
  targetId := result.patternId
  signal := some (.obj
    [("pattern_id", .str (uuidText result.patternId)),
      ("recommended_action", .str result.recommendedAction),
      ("recommended_strength", .float result.recommendedStrength),
      ("current_strength", .float result.currentStrength),
      ("linked_decisions", .int result.linkedDecisions),
      ("corroborated", .int result.corroborated),
      ("contradicted", .int result.contradicted),
      ("inconclusive", .int result.inconclusive),
      ("contradiction_ratio", .float result.contradictionRatio)])
  provenance := .obj
    [("pattern_id", .str (uuidText result.patternId)),
      ("context_id", .str (uuidText result.contextId)),
      ("tenant_id", .str (uuidText tenantId)),
      ("source", .str "pattern_refinement"),
      ("decision_id", .str (uuidText decisionId))]

/-- The signal of a context. -/
def contextSignal (tenantId decisionId : Uuid) (result : ContextRevisionResult) : SignalTuple where
  targetType := .context
  targetId := result.contextId
  signal := some (.obj
    [("context_id", .str (uuidText result.contextId)),
      ("recommended_revision", .str result.recommendedRevision),
      ("suggested_competitor", optionalText result.suggestedCompetitor),
      ("linked_decisions", .int result.linkedDecisions),
      ("corroborated", .int result.corroborated),
      ("contradicted", .int result.contradicted),
      ("inconclusive", .int result.inconclusive),
      ("contradiction_ratio", .float result.contradictionRatio),
      ("has_competing_models", .bool result.hasCompetingModels)])
  provenance := .obj
    [("context_id", .str (uuidText result.contextId)),
      ("tenant_id", .str (uuidText tenantId)),
      ("source", .str "context_revision"),
      ("decision_id", .str (uuidText decisionId))]

/-- The signal of an insight. -/
def insightSignal (tenantId decisionId : Uuid) (result : InsightTransformationResult) :
    SignalTuple where
  targetType := .insight
  targetId := result.insightId
  signal := some (.obj
    [("insight_id", .str (uuidText result.insightId)),
      ("transformation_kind", .str result.transformationKind),
      ("description", .str result.description),
      ("prior_understanding", optionalText result.priorUnderstanding),
      ("mental_model_update", result.mentalModelUpdate.getD .null),
      ("linked_recommendations", .int result.linkedRecommendations),
      ("linked_decisions_with_outcomes", .int result.linkedDecisionsWithOutcomes),
      ("corroborated", .int result.corroborated),
      ("contradicted", .int result.contradicted),
      ("inconclusive", .int result.inconclusive)])
  provenance := .obj
    [("insight_id", .str (uuidText result.insightId)),
      ("tenant_id", .str (uuidText tenantId)),
      ("source", .str "insight_transformation"),
      ("decision_id", .str (uuidText decisionId))]

/-- `_compute_learning_signals`: the consolidation of the decision, then the artifacts that it
affected. -/
def computeLearningSignals (tenantId decisionId : Uuid) (consolidation : ConsolidationResult)
    (reports : LearningReports) : List SignalTuple :=
  { targetType := .decision
    targetId := decisionId
    signal := consolidationSignal consolidation decisionId
    provenance := .obj
      [("decision_id", .str (uuidText decisionId)),
        ("tenant_id", .str (uuidText tenantId)),
        ("source", .str "outcome_consolidation")] } ::
    ((reports.patterns.filter fun result => decide (result.patternId ∈ reports.affectedPatterns)).map
        (patternSignal tenantId decisionId) ++
      (reports.contexts.filter fun result => decide (result.contextId ∈ reports.affectedContexts)).map
        (contextSignal tenantId decisionId) ++
      (reports.insights.filter fun result => decide (result.insightId ∈ reports.affectedInsights)).map
        (insightSignal tenantId decisionId))

theorem computeLearningSignals_decision {tenantId decisionId : Uuid}
    {consolidation : ConsolidationResult} {reports : LearningReports} {tuple : SignalTuple}
    (member : tuple ∈ computeLearningSignals tenantId decisionId consolidation reports)
    (target : tuple.targetType = .decision) :
    tuple.targetId = decisionId ∧ tuple.signal = consolidationSignal consolidation decisionId := by
  rcases List.mem_cons.mp member with rfl | artifact
  · exact ⟨rfl, rfl⟩
  · rcases List.mem_append.mp artifact with others | insight
    · rcases List.mem_append.mp others with pattern | context
      · obtain ⟨result, -, rfl⟩ := List.mem_map.mp pattern
        cases target
      · obtain ⟨result, -, rfl⟩ := List.mem_map.mp context
        cases target
    · obtain ⟨result, -, rfl⟩ := List.mem_map.mp insight
      cases target

/-! ### Exceptions -/

/-- An exception of a run. -/
inductive LoopException where
  | decisionNotFound (decisionId : Uuid)
  | python (error : PyError)
  | database (error : DbError)
  /-- raised outside the code; an exception that is not ordinary is no `Exception`, as a
  cancellation -/
  | outside (text : String) (ordinary : Bool)
  deriving DecidableEq

/-- The exception is an `Exception`. -/
def LoopException.isOrdinary : LoopException → Bool
  | outside _ ordinary => ordinary
  | decisionNotFound _ | python _ | database _ => true

/-- `str(e)`; `describe` is the text of the exceptions of Python and of the driver. -/
def LoopException.text (describe : LoopException → String) : LoopException → String
  | decisionNotFound decisionId => "Decision " ++ uuidText decisionId ++ " not found"
  | outside text _ => text
  | other => describe other

/-! ### The decision of a run -/

/-- The row of a decision. -/
def findDecision (tenantId decisionId : Uuid) (decisions : List Decision) : Option Decision :=
  decisions.find? fun decision => decide (decision.id = decisionId ∧ decision.tenantId = tenantId)

/-- `_DecisionView`: what the loop passes on has no outcome status. -/
def learningView (id tenantId : Uuid) (expectedOutcomes : List Json)
    (actualOutcomes : Option (List Json)) : DecisionView where
  id
  tenantId
  expectedOutcomes
  actualOutcomes
  outcomeStatus := none

/-- The signals of a run for a decision, from the decision as it is in the table. -/
def computeSignals (std : Stdlib) (tenantId decisionId : Uuid) (reports : LearningReports)
    (decisions : List Decision) : Except LoopException (List SignalTuple) :=
  match findDecision tenantId decisionId decisions with
  | none => .error (.decisionNotFound decisionId)
  | some decision =>
      match buildConsolidation std (learningView decision.id decision.tenantId
        decision.expectedOutcomes decision.actualOutcomes) with
      | .error failure => .error (.python failure)
      | .ok consolidation => .ok (computeLearningSignals tenantId decisionId consolidation reports)

/-! ### Runs -/

/-- The execution that a run works on, and the revision it was called for. -/
structure LearningRun where
  revision : OutcomeRevision
  execution : LearningExecution
  deriving DecidableEq

/-- How a run ended. -/
inductive LoopOutcome where
  | skipped
  | completed (executionId : Uuid) (persisted : List LearningMemoryRecord)
  /-- the exception that stopped the run, and the one that reached the caller -/
  | raised (original reached : LoopException)
  deriving DecidableEq

/-- Where a worker is in `run_h3_learning_loop_for_decision`. -/
inductive LoopPhase where
  | idle
  | begun (run : LearningRun)
  | persisting (run : LearningRun) (remaining : List SignalTuple)
      (persisted : List LearningMemoryRecord)
  | completed (run : LearningRun) (persisted : List LearningMemoryRecord)
  /-- rolled back, and about to call `fail_execution` -/
  | marking (run : LearningRun) (exception : LoopException)
  | ended (outcome : LoopOutcome)

/-- The run whose transaction is open. -/
def LoopPhase.openRun : LoopPhase → Option LearningRun
  | begun run | persisting run _ _ | completed run _ => some run
  | idle | marking _ _ | ended _ => none

/-- How the run of a worker ended. -/
def LoopPhase.outcome : LoopPhase → Option LoopOutcome
  | ended outcome => some outcome
  | idle | begun _ | persisting .. | completed .. | marking .. => none

/-- The database, and where the workers are. -/
structure LoopState (Worker : Type) where
  store : StoreState Worker
  ledger : LedgerState Worker
  decisions : List Decision
  phases : Worker → LoopPhase

/-- The steps of the workers, and the submissions of outcomes. -/
inductive LoopAction (Worker : Type) where
  | submit (tenantId decisionId : Uuid) (actualOutcomes : List Json) (executedAt : Option Timestamp)
      (now : Timestamp) (fresh : Uuid)
  | begin (worker : Worker) (revision : OutcomeRevision) (now : Timestamp) (fresh : Uuid)
  | compute (worker : Worker) (reports : LearningReports)
  | persist (worker : Worker) (now : Timestamp) (fresh : Uuid)
  | complete (worker : Worker) (now : Timestamp)
  | commit (worker : Worker)
  /-- a reader, the driver or a cancellation raises, before the step that it stops has an effect -/
  | interrupt (worker : Worker) (text : String) (ordinary : Bool)
  | markFailed (worker : Worker) (now : Timestamp)

/-- The worker that takes a step. -/
def LoopAction.worker {Worker : Type} : LoopAction Worker → Option Worker
  | submit .. => none
  | begin worker .. | compute worker _ | persist worker .. | complete worker _ | commit worker
  | interrupt worker .. | markFailed worker _ => some worker

section Steps

variable {Worker : Type} [DecidableEq Worker] [Fintype Worker]

namespace LoopState

/-- Put the phase of a worker. -/
def setPhase (state : LoopState Worker) (worker : Worker) (phase : LoopPhase) : LoopState Worker :=
  { state with phases := Function.update state.phases worker phase }

/-- Roll the transaction of a worker back. -/
def rollback (state : LoopState Worker) (worker : Worker) : LoopState Worker :=
  { state with
    store := rollbackTransaction worker state.store
    ledger := state.ledger.rollback worker }

end LoopState

/-- `submit_outcomes_with_revision`: the revision and the decision's outcomes, or neither. -/
def submitOutcomesWithRevision (tenantId decisionId : Uuid) (actualOutcomes : List Json)
    (executedAt : Option Timestamp) (now : Timestamp) (fresh : Uuid) (state : LoopState Worker) :
    Except LoopException (OutcomeRevision × LoopState Worker) :=
  match jsonb (.arr actualOutcomes) with
  | .error failure => .error (.database failure)
  | .ok _ =>
      if ∃ revision ∈ state.store.revisions, revision.id = fresh then
        .error (.database (.uniqueViolation "outcome_revisions_pkey"))
      else if (findDecision tenantId decisionId state.decisions).isNone then
        .error (.decisionNotFound decisionId)
      else
        let revision : OutcomeRevision := {
          id := fresh
          tenantId
          decisionId
          actualOutcomes
          executedAt
          createdAt := now }
        .ok (revision, { state with
          store := { state.store with revisions := state.store.revisions ++ [revision] }
          decisions := state.decisions.map fun decision =>
            if decision.id = decisionId ∧ decision.tenantId = tenantId then
              { decision with
                actualOutcomes := some actualOutcomes
                outcomeStatus := "observed"
                executedAt := executedAt <|> decision.executedAt }
            else decision })

/-- What the `except` clause does first: roll back, and go on to `fail_execution` when the exception
is an `Exception`. -/
def raiseInRun (worker : Worker) (run : LearningRun) (exception : LoopException)
    (state : LoopState Worker) : LoopState Worker :=
  (state.rollback worker).setPhase worker
    (if exception.isOrdinary then .marking run exception else .ended (.raised exception exception))

/-- What a run was called for. -/
def OutcomeRevision.request (revision : OutcomeRevision) : ExecutionRequest where
  tenantId := revision.tenantId
  decisionId := revision.decisionId
  outcomeRevisionId := revision.id

/-- The call of a run with a revision that was submitted. A run without an execution rolls its session
back and returns. -/
def beginRun (policy : BindPolicy) (worker : Worker) (revision : OutcomeRevision) (now : Timestamp)
    (fresh : Uuid) (state : LoopState Worker) : Option (LoopState Worker) :=
  match beginPhase2 policy worker revision.request now fresh state.store with
  | none => none
  | some (.error failure, store) =>
      some (({ state with store }).setPhase worker
        (.ended (.raised (.database failure) (.database failure))))
  | some (.ok none, store) =>
      some (({ state with store := rollbackTransaction worker store }).setPhase worker
        (.ended .skipped))
  | some (.ok (some execution), store) =>
      some (({ state with store }).setPhase worker (.begun { revision, execution }))

/-- Persist one signal of a run. -/
def persistSignal (std : Stdlib) (worker : Worker) (run : LearningRun) (tuple : SignalTuple)
    (now : Timestamp) (fresh : Uuid) (state : LoopState Worker) :
    Answer (Option LearningMemoryRecord) (LedgerState Worker) :=
  persistInSession std worker ((state.store.seen worker).map (·.id))
    { tenantId := run.revision.tenantId
      targetType := tuple.targetType
      targetId := tuple.targetId
      signal := tuple.signal
      provenance := tuple.provenance
      executionId := some run.execution.id } now fresh state.ledger

/-- Run one step; `none` while it has to wait, or when the worker is elsewhere. -/
def loopStep (std : Stdlib) (describe : LoopException → String) (policy : BindPolicy)
    (state : LoopState Worker) : LoopAction Worker → Option (LoopState Worker)
  | .submit tenantId decisionId actualOutcomes executedAt now fresh =>
      match submitOutcomesWithRevision tenantId decisionId actualOutcomes executedAt now fresh
        state with
      | .error _ => some state
      | .ok (_, next) => some next
  | .begin worker revision now fresh =>
      if revision ∈ state.store.revisions then
        match state.phases worker with
        | .idle | .ended _ => beginRun policy worker revision now fresh state
        | .begun _ | .persisting .. | .completed .. | .marking .. => none
      else none
  | .compute worker reports =>
      match state.phases worker with
      | .begun run =>
          match computeSignals std run.revision.tenantId run.revision.decisionId reports
            state.decisions with
          | .error exception => some (raiseInRun worker run exception state)
          | .ok tuples => some (state.setPhase worker (.persisting run tuples []))
      | .idle | .persisting .. | .completed .. | .marking .. | .ended _ => none
  | .persist worker now fresh =>
      match state.phases worker with
      | .persisting run (tuple :: rest) persisted =>
          match persistSignal std worker run tuple now fresh state with
          | none => none
          | some (.error failure, _) => some (raiseInRun worker run (.database failure) state)
          | some (.ok none, _) => some (raiseInRun worker run (.python .typeError) state)
          | some (.ok (some record), ledger) =>
              some (({ state with ledger }).setPhase worker
                (.persisting run rest (persisted ++ [record])))
      | .persisting _ [] _ | .idle | .begun _ | .completed .. | .marking .. | .ended _ => none
  | .complete worker now =>
      match state.phases worker with
      | .persisting run [] persisted =>
          (completeExecutionInSession worker run.execution.id persisted.length now state.store).map
            fun (_, store) => ({ state with store }).setPhase worker (.completed run persisted)
      | .persisting _ (_ :: _) _ | .idle | .begun _ | .completed .. | .marking .. | .ended _ => none
  | .commit worker =>
      match state.phases worker with
      | .completed run persisted =>
          some (({ state with
            store := commitTransaction worker state.store
            ledger := state.ledger.commit worker }).setPhase worker
              (.ended (.completed run.execution.id persisted)))
      | .idle | .begun _ | .persisting .. | .marking .. | .ended _ => none
  | .interrupt worker text ordinary =>
      (state.phases worker).openRun.map fun run =>
        raiseInRun worker run (.outside text ordinary) state
  | .markFailed worker now =>
      match state.phases worker with
      | .marking run exception =>
          match failExecution policy worker run.execution.id (exception.text describe) now
            state.store with
          | none => none
          | some (.error failure, store) =>
              some (({ state with store }).setPhase worker
                (.ended (.raised exception (.database failure))))
          | some (.ok _, store) =>
              some (({ state with store }).setPhase worker (.ended (.raised exception exception)))
      | .idle | .begun _ | .persisting .. | .completed .. | .ended _ => none

/-- The learning loop as a transition system. -/
def loopSystem (Worker : Type) [DecidableEq Worker] [Fintype Worker] (std : Stdlib)
    (describe : LoopException → String) (policy : BindPolicy) :
    Transition.System (LoopState Worker) (LoopAction Worker) where
  step := loopStep std describe policy

end Steps

end CosMonitor
