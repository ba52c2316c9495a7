/-
**Learning executions — the lifecycle of one attempt to learn from an outcome revision.**

The content of an execution is set at creation; the declared state machine is `validTransitions`. An
execution is active while it is pending or running, and `uq_learning_execution_active` allows one
active execution for each revision.
-/

import CosMonitor.Base.Database
import CosMonitor.Base.Json
import CosMonitor.Foundation.Versions
import Mathlib.Data.List.MinMax

namespace CosMonitor

/-- The statuses of an execution. -/
inductive ExecutionStatus where
  | pending
  | running
  | completed
  | failed
  | stale
  deriving DecidableEq, Repr

namespace ExecutionStatus

/-- The declared state machine. -/
def validTransitions : ExecutionStatus → List ExecutionStatus
  | pending => [running]
  | running => [completed, failed, stale]
  | completed => []
  | failed => []
  | stale => []

/-- The status is one that the unique index covers. -/
def isActive : ExecutionStatus → Bool
  | pending | running => true
  | completed | failed | stale => false

end ExecutionStatus

/-- Check whether a status transition is valid. -/
def isValidTransition (current next : ExecutionStatus) : Bool :=
  decide (next ∈ current.validTransitions)

/-- **The terminal statuses are those that are not active.** -/
theorem no_transition_iff (current : ExecutionStatus) :
    (∀ next, isValidTransition current next = false) ↔ current.isActive = false := by
  cases current with
  | pending => exact ⟨fun none => absurd (none .running) (by decide), fun ended => by cases ended⟩
  | running => exact ⟨fun none => absurd (none .completed) (by decide), fun ended => by cases ended⟩
  | completed => exact ⟨fun _ => rfl, fun _ next => by cases next <;> rfl⟩
  | failed => exact ⟨fun _ => rfl, fun _ next => by cases next <;> rfl⟩
  | stale => exact ⟨fun _ => rfl, fun _ next => by cases next <;> rfl⟩

/-- What is set when an execution is created and never changes. -/
structure ExecutionContent where
  id : Uuid
  tenantId : Uuid
  decisionId : Uuid
  outcomeRevisionId : Uuid
  attemptNumber : Nat
  parentExecutionId : Option Uuid
  createdAt : Timestamp
  deriving DecidableEq, Repr

/-- A learning execution. -/
structure LearningExecution extends ExecutionContent where
  status : ExecutionStatus
  startedAt : Option Timestamp
  completedAt : Option Timestamp
  heartbeatAt : Option Timestamp
  signalCount : Nat
  failureReason : Option String
  deriving DecidableEq, Repr

/-- An execution whose heartbeat is older than this is stale, in seconds. -/
def staleThresholdSeconds : Int := 300

/-- A running execution is stale when its heartbeat has expired. -/
def isStale (now : Timestamp) (execution : LearningExecution) : Bool :=
  match execution.status, execution.heartbeatAt with
  | .running, none => true
  | .running, some heartbeatAt => decide (staleThresholdSeconds * second < now - heartbeatAt)
  | _, _ => false

theorem isStale_running {now : Timestamp} {execution : LearningExecution}
    (stale : isStale now execution = true) : execution.status = .running := by
  unfold isStale at stale
  split at stale
  · assumption
  · assumption
  · cases stale

/-- An immutable record of submitted outcomes. -/
structure OutcomeRevision where
  id : Uuid
  tenantId : Uuid
  decisionId : Uuid
  actualOutcomes : List Json
  executedAt : Option Timestamp
  createdAt : Timestamp
  deriving DecidableEq

/-- The table of executions with its partial unique index. -/
def executionSchema :
    Versions.Schema LearningExecution ExecutionContent ExecutionStatus Uuid Uuid where
  content := LearningExecution.toExecutionContent
  id := ExecutionContent.id
  group := ExecutionContent.outcomeRevisionId
  status := LearningExecution.status
  isActive := ExecutionStatus.isActive

/-- How statuses may move when an ended execution stays ended and the kept statuses stay. -/
abbrev keeping (kept : ExecutionStatus → Prop) : Versions.Lifecycle executionSchema.isActive :=
  .keeping _ kept

@[simp] theorem executionSchema_rowGroup (execution : LearningExecution) :
    executionSchema.rowGroup execution = execution.outcomeRevisionId := rfl

@[simp] theorem executionSchema_active (execution : LearningExecution) :
    executionSchema.active execution = execution.status.isActive := rfl

@[simp] theorem executionSchema_status (execution : LearningExecution) :
    executionSchema.status execution = execution.status := rfl

@[simp] theorem executionSchema_content (execution : LearningExecution) :
    executionSchema.content execution = execution.toExecutionContent := rfl

/-- `_FIND_ACTIVE_EXECUTION` among the rows a session sees: the active execution of a revision with
the highest attempt number. -/
def findActiveExecution (outcomeRevisionId : Uuid) (rows : List LearningExecution) :
    Option LearningExecution :=
  (rows.filter fun row =>
    decide (row.outcomeRevisionId = outcomeRevisionId) && row.status.isActive).argmax
      fun row => row.attemptNumber

theorem findActiveExecution_some {outcomeRevisionId : Uuid} {rows : List LearningExecution}
    {existing : LearningExecution}
    (found : findActiveExecution outcomeRevisionId rows = some existing) :
    existing ∈ rows ∧ existing.outcomeRevisionId = outcomeRevisionId ∧
      existing.status.isActive = true := by
  have member := List.mem_filter.mp (List.argmax_mem found)
  rw [Bool.and_eq_true, decide_eq_true_eq] at member
  exact ⟨member.1, member.2.1, member.2.2⟩

theorem findActiveExecution_none {outcomeRevisionId : Uuid} {rows : List LearningExecution} :
    findActiveExecution outcomeRevisionId rows = none ↔
      ∀ row ∈ rows, row.outcomeRevisionId = outcomeRevisionId → row.status.isActive = false := by
  unfold findActiveExecution
  rw [List.argmax_eq_none, List.filter_eq_nil_iff]
  refine forall₂_congr fun row _ => ?_
  rw [Bool.and_eq_true, decide_eq_true_eq, not_and, Bool.not_eq_true]

end CosMonitor
