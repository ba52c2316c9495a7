/-
**The learning execution store — advisory locks and transactions around the execution rows.**

* `BindPolicy`: `_UPDATE_EXECUTION_STATUS` names binds that its callers leave out; `required` is a
  driver that raises for a bind without a value, `nullable` one that sends `NULL`;
* `StoreState`: the execution rows with the open transactions, the revisions they refer to, and every
  status change that a statement has made, also in transactions that were rolled back;
* `begin_phase2` and the other operations, each one step: an operation that has to wait for a lock of
  another transaction takes place when that transaction has ended.
-/

import CosMonitor.Learning.Execution

namespace CosMonitor

open Versions (State)

/-- What the driver does with a bind that a call leaves out. -/
inductive BindPolicy where
  | required
  | nullable
  deriving DecidableEq, Repr

/-- The advisory lock of a decision. -/
def lockKey (tenantId decisionId : Uuid) : String :=
  uuidText tenantId ++ ":" ++ uuidText decisionId

/-- The execution rows, the open transactions with the advisory lock each holds, the outcome
revisions, and the status changes made so far. -/
structure StoreState (Worker : Type) where
  executions : State Worker LearningExecution (Option String)
  revisions : List OutcomeRevision
  changes : List (ExecutionStatus × ExecutionStatus)

/-- The execution that a run works for. -/
structure ExecutionRequest where
  tenantId : Uuid
  decisionId : Uuid
  outcomeRevisionId : Uuid
  deriving DecidableEq, Repr

/-- The request that an execution was created for. -/
def LearningExecution.request (execution : LearningExecution) : ExecutionRequest where
  tenantId := execution.tenantId
  decisionId := execution.decisionId
  outcomeRevisionId := execution.outcomeRevisionId

/-- What an operation did: it waits, it raised, or it returned. -/
abbrev Answer (Value State : Type) := Option (Except DbError Value × State)

section Store

variable {Worker : Type} [DecidableEq Worker] [Fintype Worker]

/-! ### Statements -/

/-- The rows that a worker's statements see. -/
def StoreState.seen (state : StoreState Worker) (worker : Worker) : List LearningExecution :=
  state.executions.view executionSchema worker

/-- Change the row with an id, and record its status change. -/
def changeExecution (worker : Worker) (id : Uuid) (change : LearningExecution → LearningExecution)
    (state : StoreState Worker) : Option (Option LearningExecution × StoreState Worker) :=
  let old := (state.seen worker).find? fun row => row.id == id
  (state.executions.update executionSchema worker id change).map fun (result, executions) =>
    (result, { state with
      executions
      changes := state.changes ++ (old.map fun row => (row.status, (change row).status)).toList })

/-- The binds of `_UPDATE_EXECUTION_STATUS`; `none` is one that the call leaves out. -/
structure StatusUpdate where
  status : ExecutionStatus
  startedAt : Option Timestamp
  completedAt : Option Timestamp
  heartbeatAt : Option Timestamp
  signalCount : Option Nat
  failureReason : Option String

namespace StatusUpdate

/-- The first bind that a call leaves out. -/
def missing (update : StatusUpdate) : Option String :=
  if update.startedAt.isNone then some "started_at"
  else if update.completedAt.isNone then some "completed_at"
  else if update.heartbeatAt.isNone then some "heartbeat_at"
  else if update.signalCount.isNone then some "signal_count"
  else if update.failureReason.isNone then some "failure_reason"
  else none

/-- `SET status = :status, column = COALESCE(:column, column), …`. -/
def apply (update : StatusUpdate) (row : LearningExecution) : LearningExecution :=
  { row with
    status := update.status
    startedAt := update.startedAt <|> row.startedAt
    completedAt := update.completedAt <|> row.completedAt
    heartbeatAt := update.heartbeatAt <|> row.heartbeatAt
    signalCount := update.signalCount.getD row.signalCount
    failureReason := update.failureReason <|> row.failureReason }

/-- `{"status": …, "completed_at": …}`. -/
def ended (status : ExecutionStatus) (now : Timestamp) : StatusUpdate where
  status
  startedAt := none
  completedAt := some now
  heartbeatAt := none
  signalCount := none
  failureReason := none

/-- `{"status": "running", "started_at": …, "heartbeat_at": …}`. -/
def claimed (now : Timestamp) : StatusUpdate where
  status := .running
  startedAt := some now
  completedAt := none
  heartbeatAt := some now
  signalCount := none
  failureReason := none

end StatusUpdate

/-- `_UPDATE_EXECUTION_STATUS` on the row with an id. -/
def updateExecutionStatus (policy : BindPolicy) (worker : Worker) (id : Uuid) (update : StatusUpdate)
    (state : StoreState Worker) : Answer (Option LearningExecution) (StoreState Worker) :=
  match policy, update.missing with
  | .required, some parameter => some (.error (.missingBind parameter), state)
  | _, _ => (changeExecution worker id update.apply state).map fun (row, next) => (.ok row, next)

/-- `_INSERT_EXECUTION` with status `running`: the foreign keys are checked, then the indexes. -/
def insertExecution (worker : Worker) (request : ExecutionRequest) (attemptNumber : Nat)
    (parentExecutionId : Option Uuid) (now : Timestamp) (fresh : Uuid) (state : StoreState Worker) :
    Answer LearningExecution (StoreState Worker) :=
  let row : LearningExecution := {
    id := fresh
    tenantId := request.tenantId
    decisionId := request.decisionId
    outcomeRevisionId := request.outcomeRevisionId
    attemptNumber
    parentExecutionId
    createdAt := now
    status := .running
    startedAt := none
    completedAt := none
    heartbeatAt := some now
    signalCount := 0
    failureReason := none }
  if ∀ revision ∈ state.revisions, revision.id ≠ request.outcomeRevisionId then
    some (.error (.foreignKeyViolation "outcome_revision_id"), state)
  else
    match state.executions.insert executionSchema worker row with
    | none => none
    | some (.error .primaryKey) => some (.error (.uniqueViolation "learning_executions_pkey"), state)
    | some (.error .uniqueIndex) =>
        some (.error (.uniqueViolation "uq_learning_execution_active"), state)
    | some (.ok executions) => some (.ok row, { state with executions })

/-! ### Transactions -/

/-- No other transaction holds the advisory lock, where one is wanted. -/
def StoreState.LockFree (state : StoreState Worker) (worker : Worker) (lock : Option String) : Prop :=
  lock ≠ none → ∀ other, other ≠ worker →
    (state.executions.sessions other).map Versions.Session.note ≠ some lock

instance (state : StoreState Worker) (worker : Worker) (lock : Option String) :
    Decidable (state.LockFree worker lock) :=
  inferInstanceAs (Decidable (_ → ∀ _, _))

/-- Begin a transaction, with an advisory lock or without one. -/
def beginTransaction (worker : Worker) (lock : Option String) (state : StoreState Worker) :
    Option (StoreState Worker) :=
  if state.LockFree worker lock then
    (state.executions.begin worker lock).map fun executions => { state with executions }
  else none

/-- Commit the transaction of a worker. -/
def commitTransaction (worker : Worker) (state : StoreState Worker) : StoreState Worker :=
  { state with executions := state.executions.commit executionSchema worker }

/-- Roll the transaction of a worker back. -/
def rollbackTransaction (worker : Worker) (state : StoreState Worker) : StoreState Worker :=
  { state with executions := state.executions.rollback worker }

/-- An operation in a transaction of its own: committed when it returns, rolled back when it raises. -/
def transact {Value : Type} (worker : Worker) (lock : Option String)
    (operation : StoreState Worker → Answer Value (StoreState Worker)) (state : StoreState Worker) :
    Answer Value (StoreState Worker) :=
  match beginTransaction worker lock state with
  | none => none
  | some opened =>
      match operation opened with
      | none => none
      | some (.error failure, next) => some (.error failure, rollbackTransaction worker next)
      | some (.ok value, next) => some (.ok value, commitTransaction worker next)

/-! ### Operations -/

/-- Mark an execution stale and insert the next attempt for a request. -/
def replaceStale (policy : BindPolicy) (worker : Worker) (request : ExecutionRequest)
    (current : LearningExecution) (now : Timestamp) (fresh : Uuid) (state : StoreState Worker) :
    Answer (Option LearningExecution) (StoreState Worker) :=
  match updateExecutionStatus policy worker current.id (.ended .stale now) state with
  | none => none
  | some (.error failure, next) => some (.error failure, next)
  | some (.ok _, next) =>
      (insertExecution worker request (current.attemptNumber + 1) (some current.id) now fresh next).map
        fun (row, after) => (row.map some, after)

/-- The statements of `begin_execution` and `begin_phase2` after the lock: skip an active execution
that is not stale, claim a pending one, replace a stale one, or create the first. -/
def claimExecution (policy : BindPolicy) (worker : Worker) (request : ExecutionRequest)
    (now : Timestamp) (fresh : Uuid) (state : StoreState Worker) :
    Answer (Option LearningExecution) (StoreState Worker) :=
  match findActiveExecution request.outcomeRevisionId (state.seen worker) with
  | none =>
      (insertExecution worker request 1 none now fresh state).map fun (row, next) =>
        (row.map some, next)
  | some existing =>
      match existing.status with
      | .completed | .failed | .stale => some (.ok none, state)
      | .running =>
          if isStale now existing then replaceStale policy worker request existing now fresh state
          else some (.ok none, state)
      | .pending =>
          (updateExecutionStatus policy worker existing.id (.claimed now) state).map
            fun (answer, next) => (answer.map fun _ => some ((StatusUpdate.claimed now).apply existing),
              next)

/-- `begin_phase2`: the transaction stays open. A session whose begin raised is never returned, and is
dropped. -/
def beginPhase2 (policy : BindPolicy) (worker : Worker) (request : ExecutionRequest)
    (now : Timestamp) (fresh : Uuid) (state : StoreState Worker) :
    Answer (Option LearningExecution) (StoreState Worker) :=
  match beginTransaction worker (some (lockKey request.tenantId request.decisionId)) state with
  | none => none
  | some opened =>
      match claimExecution policy worker request now fresh opened with
      | none => none
      | some (.error failure, next) => some (.error failure, rollbackTransaction worker next)
      | some (.ok execution, next) => some (.ok execution, next)

/-- `begin_execution`. -/
def beginExecution (policy : BindPolicy) (worker : Worker) (request : ExecutionRequest)
    (now : Timestamp) (fresh : Uuid) :
    StoreState Worker → Answer (Option LearningExecution) (StoreState Worker) :=
  transact worker (some (lockKey request.tenantId request.decisionId))
    (claimExecution policy worker request now fresh)

/-- `complete_execution`. -/
def completeExecution (policy : BindPolicy) (worker : Worker) (executionId : Uuid)
    (signalCount : Nat) (now : Timestamp) :
    StoreState Worker → Answer (Option LearningExecution) (StoreState Worker) :=
  transact worker none (updateExecutionStatus policy worker executionId
    { StatusUpdate.ended .completed now with signalCount := some signalCount })

/-- `fail_execution`. -/
def failExecution (policy : BindPolicy) (worker : Worker) (executionId : Uuid)
    (failureReason : String) (now : Timestamp) :
    StoreState Worker → Answer (Option LearningExecution) (StoreState Worker) :=
  transact worker none (updateExecutionStatus policy worker executionId
    { StatusUpdate.ended .failed now with failureReason := some failureReason })

/-- `complete_execution_in_session`: every bind of its statement has a value. -/
def completeExecutionInSession (worker : Worker) (executionId : Uuid) (signalCount : Nat)
    (now : Timestamp) (state : StoreState Worker) :
    Option (Option LearningExecution × StoreState Worker) :=
  changeExecution worker executionId
    (fun row => { row with status := .completed, completedAt := some now, signalCount }) state

/-- `fail_execution_in_session`. -/
def failExecutionInSession (worker : Worker) (executionId : Uuid) (failureReason : String)
    (now : Timestamp) (state : StoreState Worker) :
    Option (Option LearningExecution × StoreState Worker) :=
  changeExecution worker executionId
    (fun row => { row with status := .failed, completedAt := some now,
                           failureReason := some failureReason }) state

/-- `update_heartbeat`: `WHERE id = :id AND status = 'running'`. -/
def updateHeartbeat (worker : Worker) (executionId : Uuid) (now : Timestamp) :
    StoreState Worker → Answer Unit (StoreState Worker) :=
  transact worker none fun state =>
    if ∃ row ∈ state.seen worker, row.id = executionId ∧ row.status = .running then
      (changeExecution worker executionId (fun row => { row with heartbeatAt := some now }) state).map
        fun (_, next) => (.ok (), next)
    else some (.ok (), state)

/-- `reconcile_stale_execution`: re-read the execution under its lock, and replace it when it is stale
and no other execution of its revision is active. -/
def reconcileStaleExecution (policy : BindPolicy) (worker : Worker) (execution : LearningExecution)
    (now : Timestamp) (fresh : Uuid) :
    StoreState Worker → Answer (Option LearningExecution) (StoreState Worker) :=
  transact worker (some (lockKey execution.tenantId execution.decisionId)) fun state =>
    match (state.seen worker).find? fun row => row.id == execution.id with
    | none => some (.ok none, state)
    | some current =>
        if isStale now current then
          match findActiveExecution current.outcomeRevisionId (state.seen worker) with
          | some active =>
              if active.id ≠ current.id then some (.ok none, state)
              else replaceStale policy worker current.request current now fresh state
          | none => replaceStale policy worker current.request current now fresh state
        else some (.ok none, state)

end Store

end CosMonitor
