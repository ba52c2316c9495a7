/-
**Taking a stale execution over — three copies of one statement, and the binds it leaves out.**

`begin_execution`, `begin_phase2` and `reconcile_stale_execution` mark a stale execution with
`_UPDATE_EXECUTION_STATUS` and give its binds `id`, `status` and `completed_at` alone.

* `TakesOver`: what a takeover is for;
* `stale_takeover_never`: with a driver that requires its binds none of the three takes over, in any state.
-/

import CosMonitor.Learning.ExecutionRuns

set_option linter.unusedSectionVars false

namespace CosMonitor

open Versions (Consistent Lifecycle)

section Takeover

variable {Worker : Type} [DecidableEq Worker] [Fintype Worker]

/-- A call has returned the next attempt, and among the rows that are there afterwards the old execution is
stale and the new one is running. -/
def TakesOver (old : LearningExecution) (rows : StoreState Worker → List LearningExecution)
    (call : Answer (Option LearningExecution) (StoreState Worker)) : Prop :=
  ∃ taken next, call = some (.ok (some taken), next) ∧
    (∃ past ∈ rows next, past.id = old.id ∧ past.status = .stale) ∧
    taken ∈ rows next ∧ taken.status = .running ∧ taken.attemptNumber = old.attemptNumber + 1 ∧
    taken.parentExecutionId = some old.id

variable {state next opened : StoreState Worker} {worker : Worker} {existing : LearningExecution}
  {request : ExecutionRequest} {now : Timestamp} {fresh : Uuid} {lifecycle : Lifecycle executionSchema.isActive}

/-! ### A driver that requires its binds -/

theorem isStale_active (stale : isStale now existing = true) : existing.status.isActive = true := by
  rw [isStale_running stale]
  rfl

theorem replaceStale_required (request : ExecutionRequest) (existing : LearningExecution) (now : Timestamp)
    (fresh : Uuid) (state : StoreState Worker) :
    replaceStale .required worker request existing now fresh state =
      some (.error (.missingBind "started_at"), state) :=
  rfl

theorem claimExecution_required {answer : Option LearningExecution}
    (claimed : claimExecution .required worker request now fresh state = some (.ok answer, next)) :
    (answer = none ∧ next = state) ∨ ∃ row,
      findActiveExecution request.outcomeRevisionId (state.seen worker) = none ∧
        insertExecution worker request 1 none now fresh state = some (.ok row, next) := by
  unfold claimExecution at claimed
  split at claimed
  · rename_i absent
    obtain ⟨⟨reply, after⟩, inserted, built⟩ := Option.map_eq_some_iff.mp claimed
    cases reply with
    | error failure => cases built
    | ok row =>
        cases built
        exact .inr ⟨row, absent, inserted⟩
  · split at claimed
    · cases claimed
      exact .inl ⟨rfl, rfl⟩
    · cases claimed
      exact .inl ⟨rfl, rfl⟩
    · cases claimed
      exact .inl ⟨rfl, rfl⟩
    · split at claimed
      · rw [replaceStale_required] at claimed
        cases claimed
      · cases claimed
        exact .inl ⟨rfl, rfl⟩
    · cases claimed

theorem claimExecution_none {lock : Option String} {taken : LearningExecution}
    (begun : Begun worker lock state opened) (stored : existing ∈ state.executions.committed)
    (active : existing.status.isActive = true)
    (revision : request.outcomeRevisionId = existing.outcomeRevisionId) :
    claimExecution .required worker request now fresh opened ≠ some (.ok (some taken), next) := by
  intro claimed
  rcases claimExecution_required claimed with ⟨returned, -⟩ | ⟨row, absent, -⟩
  · cases returned
  · rw [begun.seen] at absent
    rw [findActiveExecution_none.mp absent existing stored revision.symm] at active
    cases active

theorem beginExecution_not_takesOver (worker : Worker) (now : Timestamp) (fresh : Uuid)
    (stored : existing ∈ state.executions.committed) (active : existing.status.isActive = true)
    (revision : request.outcomeRevisionId = existing.outcomeRevisionId) :
    ¬ TakesOver existing (fun next => next.executions.committed)
      (beginExecution .required worker request now fresh state) := by
  rintro ⟨taken, next, called, -⟩
  obtain ⟨opened, after, began, claimed, -⟩ := transact_cases called
  exact claimExecution_none (begun_of_begin began) stored active revision claimed

theorem beginPhase2_not_takesOver (worker : Worker) (now : Timestamp) (fresh : Uuid)
    (stored : existing ∈ state.executions.committed) (active : existing.status.isActive = true)
    (revision : request.outcomeRevisionId = existing.outcomeRevisionId) :
    ¬ TakesOver existing (fun next => next.seen worker)
      (beginPhase2 .required worker request now fresh state) := by
  rintro ⟨taken, next, called, -⟩
  obtain ⟨opened, began, ⟨failure, failed, -⟩ | ⟨_, answered, claimed⟩⟩ := beginPhase2_cases called
  · cases failed
  · cases answered
    exact claimExecution_none (begun_of_begin began) stored active revision claimed

theorem reconcileStaleExecution_not_takesOver (worker : Worker) (execution : LearningExecution)
    (now : Timestamp) (fresh : Uuid) :
    ¬ TakesOver existing (fun next => next.executions.committed)
      (reconcileStaleExecution .required worker execution now fresh state) := by
  rintro ⟨taken, next, called, -⟩
  rcases reconcileStaleExecution_cases called with ⟨-, -, none⟩ | ⟨nullable, -⟩
  · exact none taken rfl
  · cases nullable

/-- **No takeover of a stale execution succeeds** with a driver that requires its binds: in every state with a
stale execution, for every worker and every request for its revision, none of the three calls takes over. -/
theorem stale_takeover_never (state : StoreState Worker) (worker : Worker) (existing : LearningExecution)
    (request : ExecutionRequest) (execution : LearningExecution) (now : Timestamp) (fresh : Uuid)
    (stored : existing ∈ state.executions.committed) (stale : isStale now existing = true)
    (revision : request.outcomeRevisionId = existing.outcomeRevisionId) :
    ¬ TakesOver existing (fun next => next.executions.committed)
        (beginExecution .required worker request now fresh state) ∧
      ¬ TakesOver existing (fun next => next.seen worker)
        (beginPhase2 .required worker request now fresh state) ∧
      ¬ TakesOver existing (fun next => next.executions.committed)
        (reconcileStaleExecution .required worker execution now fresh state) :=
  ⟨beginExecution_not_takesOver worker now fresh stored (isStale_active stale) revision,
    beginPhase2_not_takesOver worker now fresh stored (isStale_active stale) revision,
    reconcileStaleExecution_not_takesOver worker execution now fresh⟩

end Takeover

/-! ### A stale execution of one worker -/

/-- The first attempt of a revision, running, with the heartbeat of the epoch. -/
def abandonedExecution : LearningExecution where
  id := 11
  tenantId := firstRevision.tenantId
  decisionId := firstRevision.decisionId
  outcomeRevisionId := firstRevision.id
  attemptNumber := 1
  parentExecutionId := none
  createdAt := 0
  status := .running
  startedAt := none
  completedAt := none
  heartbeatAt := some 0
  signalCount := 0
  failureReason := none

/-- The store with this execution and no open transaction. -/
def abandonedStore : StoreState (Fin 1) where
  executions := { committed := [abandonedExecution], sessions := fun _ => none }
  revisions := [firstRevision]
  changes := []

/-- With a driver that sends `NULL` a begin takes it over. -/
example : (beginExecution .nullable 0 abandonedExecution.request (301 * second) 12 abandonedStore).map
    (fun answered => answered.2.summary.1) = some [(11, 1, .stale), (12, 2, .running)] := by
  decide +kernel

/-- None of the three calls takes it over. -/
theorem abandoned_never :
    ¬ TakesOver abandonedExecution (fun next => next.executions.committed)
        (beginExecution .required 0 abandonedExecution.request (301 * second) 12 abandonedStore) ∧
      ¬ TakesOver abandonedExecution (fun next => next.seen 0)
        (beginPhase2 .required 0 abandonedExecution.request (301 * second) 12 abandonedStore) ∧
      ¬ TakesOver abandonedExecution (fun next => next.executions.committed)
        (reconcileStaleExecution .required 0 abandonedExecution (301 * second) 12 abandonedStore) :=
  stale_takeover_never abandonedStore 0 abandonedExecution abandonedExecution.request abandonedExecution
    (301 * second) 12 (List.mem_singleton_self _) (by decide) rfl

/-- The bind that a call raised for. -/
def raisedFor (call : Answer (Option LearningExecution) (StoreState (Fin 1))) : Option String :=
  match call with
  | some (.error (.missingBind parameter), _) => some parameter
  | _ => none

/-- **The recovery path is dead.** Each call raises for the bind `started_at`, so no call takes over. -/
theorem abandoned_raises :
    raisedFor (beginExecution .required 0 abandonedExecution.request (301 * second) 12 abandonedStore) =
        some "started_at" ∧
      raisedFor (beginPhase2 .required 0 abandonedExecution.request (301 * second) 12 abandonedStore) =
        some "started_at" ∧
      raisedFor (reconcileStaleExecution .required 0 abandonedExecution (301 * second) 12 abandonedStore) =
        some "started_at" ∧
      ¬ ∀ (state : StoreState (Fin 1)) (worker : Fin 1) (existing : LearningExecution) (now : Timestamp)
          (fresh : Uuid), existing ∈ state.executions.committed → isStale now existing = true →
        TakesOver existing (fun next => next.executions.committed)
            (beginExecution .required worker existing.request now fresh state) ∧
          TakesOver existing (fun next => next.seen worker)
            (beginPhase2 .required worker existing.request now fresh state) ∧
          TakesOver existing (fun next => next.executions.committed)
            (reconcileStaleExecution .required worker existing now fresh state) := by
  have raised : raisedFor (beginExecution .required 0 abandonedExecution.request (301 * second) 12
      abandonedStore) = some "started_at" := by
    decide +kernel
  refine ⟨raised, by decide +kernel, by decide +kernel, fun all => ?_⟩
  obtain ⟨⟨taken, next, called, -⟩, -⟩ := all abandonedStore 0 abandonedExecution (301 * second) 12
    (List.mem_singleton_self _) (by decide)
  rw [called] at raised
  cases raised

end CosMonitor
