/-
**Taking a stale execution over — reconciliations next to the runs of the loop.**

`reconcile_stale_execution` commits a running execution with a new heartbeat, and `begin_phase2` takes
a running execution with a heartbeat for one that a worker computes.

* `Waiting`: an execution that no worker works on is settled; `Waiting.step`: whatever runs, where the driver
  requires its binds;
* `stale_revision_never_retried`: so nothing takes a running execution over, and no later run learns its
  revision.
-/

import CosMonitor.Learning.StaleTakeovers
import CosMonitor.Memory.FailedRuns
import CosMonitor.Memory.LearningOnce

set_option linter.unusedSectionVars false

namespace CosMonitor

open Versions (Consistent Lifecycle)

/-- The steps of the runs, and the reconciliations. -/
inductive RecoveryAction (Worker : Type) where
  | run (action : LoopAction Worker)
  | reconcile (worker : Worker) (execution : LearningExecution) (now : Timestamp) (fresh : Uuid)

section System

variable {Worker : Type} [DecidableEq Worker] [Fintype Worker]

/-- Run one step, or reconcile one execution. -/
def recoveryStep (std : Stdlib) (describe : LoopException → String) (policy : BindPolicy)
    (state : LoopState Worker) : RecoveryAction Worker → Option (LoopState Worker)
  | .run action => loopStep std describe policy state action
  | .reconcile worker execution now fresh =>
      (reconcileStaleExecution policy worker execution now fresh state.store).map fun (_, store) =>
        { state with store }

/-- The learning loop and its reconciliations as a transition system. -/
def recoverySystem (Worker : Type) [DecidableEq Worker] [Fintype Worker] (std : Stdlib)
    (describe : LoopException → String) (policy : BindPolicy) :
    Transition.System (LoopState Worker) (RecoveryAction Worker) where
  step := recoveryStep std describe policy

/-- The run that a worker works on, or has still to mark as failed. -/
def LoopPhase.attempt : LoopPhase → Option LearningRun
  | begun run | persisting run _ _ | completed run _ | marking run _ => some run
  | idle | ended _ => none

/-- An id that no execution has and no worker works on. -/
structure Unissued (id : Uuid) (state : LoopState Worker) : Prop where
  committed : ∀ row ∈ state.store.executions.committed, row.id ≠ id
  pending : ∀ worker, ∀ row ∈ state.store.executions.pending worker, row.id ≠ id
  attempts : ∀ worker run, (state.phases worker).attempt = some run → run.execution.id ≠ id

/-- A begin has returned an execution for the revision, and its run teaches the revision when it
completes. -/
def Retries (std : Stdlib) (describe : LoopException → String) (policy : BindPolicy)
    (worker : Worker) (revisionId : Uuid) (state : LoopState Worker) : Prop :=
  ∃ run, (state.phases worker).openRun = some run ∧ run.execution.outcomeRevisionId = revisionId ∧
    ∀ after, (loopSystem Worker std describe policy).Reachable (InsideRun worker) state after →
      ∀ id persisted, (after.phases worker).outcome = some (.completed id persisted) →
        Learned revisionId after.store.executions.committed

end System

section Invariant

variable {Worker : Type} [DecidableEq Worker] [Fintype Worker] {std : Stdlib}
  {describe : LoopException → String} {policy : BindPolicy} {state next : LoopState Worker}
  {worker : Worker} {lifecycle : Lifecycle executionSchema.isActive}

/-! ### Reconciliations -/

theorem marked_consistent {store opened middle : StoreState Worker} {lock : Option String}
    {current : LearningExecution} {old : Option LearningExecution} {now : Timestamp}
    (consistent : Consistent executionSchema lifecycle store.executions)
    (began : beginTransaction worker lock store = some opened)
    (member : current ∈ store.executions.committed) (stale : isStale now current = true)
    (changed : changeExecution worker current.id (StatusUpdate.ended .stale now).apply opened =
      some (old, middle)) :
    Consistent executionSchema lifecycle middle.executions := by
  have opening := begun_consistent began consistent
  have seen : current ∈ opened.seen worker := by
    rw [(begun_of_begin began).seen]
    exact member
  have active : current.status.isActive = true := by
    rw [isStale_running stale]
    rfl
  exact changeExecution_consistent opening changed (StatusUpdate.apply_content _)
    (moves_of_active opening seen active _)

theorem TakenOver.held {execution taken : LearningExecution} {now : Timestamp} {fresh : Uuid}
    {store : StoreState Worker} (held : Held lifecycle state)
    (took : TakenOver worker execution now fresh state.store store taken) :
    Held lifecycle { state with store } := by
  obtain ⟨lock, opened, middle, after, old, current, began, member, -, stale, changed, inserted,
    rfl⟩ := took.steps
  have middling := marked_consistent held.consistent began member stale changed
  refine held.transacted began ((changeExecution_within changed).trans (insertExecution_within
    inserted)) (insertExecution_consistent middling inserted ?_)
  rw [changeExecution_pending_nil changed (StatusUpdate.apply_content _) (begun_of_begin began).pending]
  rintro _ ⟨⟩

/-- **A step keeps the transactions of the runs in order.** -/
theorem Held.recovery {action : RecoveryAction Worker} (held : Held endedStays state)
    (stepped : recoveryStep std describe policy state action = some next) :
    Held endedStays next := by
  cases action with
  | run action =>
      exact held.step stepped (fun _ _ => ⟨rfl, False.elim⟩) fun _ _ _ _ _ _ _ _ _ _ _ =>
        ⟨rfl, False.elim⟩
  | reconcile worker execution now fresh =>
      obtain ⟨⟨answer, store⟩, called, rfl⟩ := Option.map_eq_some_iff.mp stepped
      rcases reconcileStaleExecution_cases called with
        ⟨executions, revisions, -⟩ | ⟨-, taken, -, took⟩
      · refine held.of_same executions ?_ ?_ (fun _ => rfl) fun _ _ => rfl
        · rw [revisions]
          exact fun _ member => member
        · rw [revisions]
          exact held.revisionIds
      · exact took.held held

/-! ### Waiting for the next begin -/

/-- An execution that no worker works on, and that no transaction has locked. -/
structure Waiting (row : LearningExecution) (state : LoopState Worker) : Prop where
  held : Held endedStays state
  settled : Versions.Settled executionSchema state.store.executions row
  alone : ∀ worker run, (state.phases worker).attempt = some run → run.execution.id ≠ row.id

variable {row : LearningExecution}

theorem Waiting.of_worker (waiting : Waiting row state) (worker : Worker)
    (held : Held endedStays next)
    (settled : Versions.Settled executionSchema next.store.executions row)
    (others : ∀ other, other ≠ worker → next.phases other = state.phases other)
    (own : ∀ run, (next.phases worker).attempt = some run → run.execution.id ≠ row.id) :
    Waiting row next where
  held := held
  settled := settled
  alone := by
    intro other run attempted
    by_cases isWorker : other = worker
    · rw [isWorker] at attempted
      exact own run attempted
    · rw [others other isWorker] at attempted
      exact waiting.alone other run attempted

theorem Waiting.raise {run : LearningRun} (exception : LoopException) (waiting : Waiting row state)
    (held : Held endedStays (raiseInRun worker run exception state))
    (attempted : (state.phases worker).attempt = some run) :
    Waiting row (raiseInRun worker run exception state) := by
  refine waiting.of_worker worker held waiting.settled.rollback
    (fun other differ => LoopState.setPhase_ne differ _) fun found phase => ?_
  unfold raiseInRun at phase
  rw [LoopState.setPhase_self] at phase
  split at phase
  · cases phase
    exact waiting.alone worker run attempted
  · cases phase

theorem LoopPhase.attempt_of_openRun {phase : LoopPhase} {run : LearningRun}
    (opened : phase.openRun = some run) : phase.attempt = some run := by
  cases phase with
  | begun found => exact opened
  | persisting found remaining persisted => exact opened
  | completed found persisted => exact opened
  | idle => cases opened
  | marking found exception => cases opened
  | ended outcome => cases opened

/-- **With a driver that requires its binds an execution keeps waiting**: no begin claims it, and no
reconciliation takes it over. -/
theorem Waiting.step {action : RecoveryAction Worker} (waiting : Waiting row state)
    (active : row.status.isActive = true)
    (stepped : recoveryStep std describe .required state action = some next) : Waiting row next := by
  have held := waiting.held.recovery stepped
  have consistent := waiting.held.consistent
  cases action with
  | reconcile worker execution now fresh =>
      obtain ⟨⟨answer, store⟩, called, rfl⟩ := Option.map_eq_some_iff.mp stepped
      refine waiting.of_worker worker held ?_ (fun _ _ => rfl) fun run => waiting.alone worker run
      rcases reconcileStaleExecution_cases called with ⟨executions, -, -⟩ | ⟨nullable, -⟩
      · show Versions.Settled executionSchema store.executions row
        rw [executions]
        exact waiting.settled
      · cases nullable
  | run action =>
      have ran : loopStep std describe .required state action = some next := stepped
      cases action with
      | submit tenantId decisionId actualOutcomes executedAt now fresh =>
          rcases submit_cases ran with rfl | ⟨-, revision, -, store, -, phases, -⟩
          · exact waiting
          · refine ⟨held, ?_, fun other run attempted => ?_⟩
            · rw [store]
              exact waiting.settled
            · rw [phases] at attempted
              exact waiting.alone other run attempted
      | begin worker revision now fresh =>
          obtain ⟨-, -, opened, began, ended⟩ := begin_cases ran
          rcases ended with ⟨failure, store, -, executions, -, rfl⟩ |
            ⟨store, -, executions, -, rfl⟩ | ⟨execution, store, claimed, rfl⟩
          · refine waiting.of_worker worker held ?_ (fun other differ => LoopState.setPhase_ne differ _)
              fun run attempted => ?_
            · show Versions.Settled executionSchema store.executions row
              rw [executions]
              exact waiting.settled
            · rw [LoopState.setPhase_self] at attempted
              cases attempted
          · refine waiting.of_worker worker held ?_ (fun other differ => LoopState.setPhase_ne differ _)
              fun run attempted => ?_
            · show Versions.Settled executionSchema store.executions row
              rw [executions]
              exact waiting.settled
            · rw [LoopState.setPhase_self] at attempted
              cases attempted
          · have begun := begun_of_begin began
            have opening := begun_consistent began consistent
            by_cases isRevision : revision.id = row.outcomeRevisionId
            · exact absurd claimed (claimExecution_none begun waiting.settled.committed active isRevision)
            obtain ⟨-, openedExecutions, -, -⟩ := beginTransaction_spec began
            refine waiting.of_worker worker held ?_ (fun other differ => LoopState.setPhase_ne differ _)
              fun run attempted => ?_
            · exact claimExecution_settled opening (waiting.settled.begin openedExecutions) claimed
                (Ne.symm isRevision)
            · rw [LoopState.setPhase_self] at attempted
              cases attempted
              intro same
              rcases (claimExecution_claimed begun opening claimed).origin with
                ⟨existing, found, -, isExisting⟩ | ⟨-, unknown⟩
              · obtain ⟨member, target, -⟩ := findActiveExecution_some found
                have isRow : row = existing := Versions.eq_of_rowId consistent.ids
                  waiting.settled.committed member (same.symm.trans isExisting.symm)
                rw [isRow] at isRevision
                exact isRevision target.symm
              · exact unknown row waiting.settled.committed same.symm
      | compute worker reports =>
          obtain ⟨run, phase, ⟨exception, rfl⟩ | ⟨tuples, -, rfl⟩⟩ := compute_cases ran
          · exact waiting.raise exception held (by rw [phase]; rfl)
          · refine waiting.of_worker worker held waiting.settled
              (fun other differ => LoopState.setPhase_ne differ _) fun found attempted => ?_
            rw [LoopState.setPhase_self] at attempted
            cases attempted
            exact waiting.alone worker run (by rw [phase]; rfl)
      | persist worker now fresh =>
          obtain ⟨run, tuple, rest, persisted, phase, ⟨exception, rfl⟩ | ⟨record, ledger, -, rfl⟩⟩ :=
            persist_cases ran
          · exact waiting.raise exception held (by rw [phase]; rfl)
          · refine waiting.of_worker worker held waiting.settled
              (fun other differ => LoopState.setPhase_ne differ _) fun found attempted => ?_
            rw [LoopState.setPhase_self] at attempted
            cases attempted
            exact waiting.alone worker run (by rw [phase]; rfl)
      | complete worker now =>
          obtain ⟨run, persisted, changed, store, phase, called, rfl⟩ := complete_cases ran
          have differ := waiting.alone worker run (by rw [phase]; rfl)
          refine waiting.of_worker worker held ?_ (fun other differ => LoopState.setPhase_ne differ _)
            fun found attempted => ?_
          · exact changeExecution_settled waiting.settled called (fun _ => rfl) differ.symm
          · rw [LoopState.setPhase_self] at attempted
            cases attempted
            exact differ
      | commit worker =>
          obtain ⟨run, persisted, phase, rfl⟩ := commit_cases ran
          refine waiting.of_worker worker held waiting.settled.commit
            (fun other differ => LoopState.setPhase_ne differ _) fun found attempted => ?_
          rw [LoopState.setPhase_self] at attempted
          cases attempted
      | interrupt worker text ordinary =>
          obtain ⟨run, opened, rfl⟩ := interrupt_cases ran
          exact waiting.raise _ held (LoopPhase.attempt_of_openRun opened)
      | markFailed worker now =>
          obtain ⟨run, exception, answer, store, phase, called, rfl⟩ := markFailed_cases ran
          have differ := waiting.alone worker run (by rw [phase]; rfl)
          refine waiting.of_worker worker held ?_ (fun other differ => LoopState.setPhase_ne differ _)
            fun found attempted => ?_
          · show Versions.Settled executionSchema store.executions row
            rcases failExecution_cases called with
              ⟨-, -, executions, -⟩ | ⟨-, opened, after, result, began, changed, -, rfl⟩
            · rw [executions]
              exact waiting.settled
            · obtain ⟨-, opening, -, -⟩ := beginTransaction_spec began
              exact (changeExecution_settled (waiting.settled.begin opening) changed
                (StatusUpdate.apply_content _) differ.symm).commit
          · rw [LoopState.setPhase_self] at attempted
            cases attempted

end Invariant

/-! ### Runs -/

section Runs

variable {Worker : Type} [DecidableEq Worker] [Fintype Worker]

/-- **A stale execution is never taken over, and its revision is never learned again.** `before` is any database
that the workers and the reconciliations reach with a driver that requires its binds, and `row` a running
execution there that no worker works on. Whatever runs from then on, the row stays running with no worker, no
reconciliation takes an execution over, and no run that begins for the revision gets one. -/
theorem stale_revision_never_retried (std : Stdlib) (describe : LoopException → String)
    (initial before later : LoopState Worker) (row : LearningExecution) (unused : Unused initial)
    (reachable : (recoverySystem Worker std describe .required).Reachable (fun _ _ => True) initial
      before)
    (settled : Versions.Settled executionSchema before.store.executions row)
    (running : row.status = .running)
    (alone : ∀ worker run, (before.phases worker).attempt = some run → run.execution.id ≠ row.id)
    (continued : (recoverySystem Worker std describe .required).Reachable (fun _ _ => True) before
      later) :
    (row ∈ later.store.executions.committed ∧
      ∀ worker run, (later.phases worker).attempt = some run → run.execution.id ≠ row.id) ∧
    (∀ reconciler execution now fresh taken store,
      reconcileStaleExecution .required reconciler execution now fresh later.store ≠
        some (.ok (some taken), store)) ∧
    ∀ worker revision now fresh next, revision.id = row.outcomeRevisionId →
      loopStep std describe .required later (.begin worker revision now fresh) = some next →
        (next.phases worker).openRun = none ∧
          ¬Retries std describe .required worker revision.id next := by
  have active : row.status.isActive = true := by
    rw [running]
    rfl
  have held : Held endedStays before :=
    reachable.invariant (unused.held endedStays) fun first action second holds _ moved =>
      holds.recovery moved
  have start : Waiting row before := ⟨held, settled, alone⟩
  have waiting : Waiting row later := continued.invariant start fun first action second holds _
    moved => holds.step active moved
  refine ⟨⟨waiting.settled.committed, waiting.alone⟩, ?_, ?_⟩
  · intro reconciler execution now fresh taken store called
    rcases reconcileStaleExecution_cases called with ⟨-, -, none⟩ | ⟨nullable, -⟩
    · exact none taken rfl
    · cases nullable
  · intro worker revision now fresh next isRevision began
    have closed : (next.phases worker).openRun = none := by
      obtain ⟨-, -, opened, transaction, ended⟩ := begin_cases began
      rcases ended with ⟨failure, after, -, -, -, rfl⟩ | ⟨after, -, -, -, rfl⟩ |
        ⟨execution, after, claimed, rfl⟩
      · rw [LoopState.setPhase_self]
        rfl
      · rw [LoopState.setPhase_self]
        rfl
      · exact absurd claimed (claimExecution_none (begun_of_begin transaction)
          waiting.settled.committed active isRevision)
    refine ⟨closed, ?_⟩
    rintro ⟨run, opened, -⟩
    rw [closed] at opened
    cases opened

/-- A running execution of the first revision, without a heartbeat since the epoch. -/
def runningExecution : LearningExecution :=
  { pendingExecution with status := .running, heartbeatAt := some 0 }

theorem activeOnce_singleton (row : LearningExecution) :
    Versions.ActiveOnce executionSchema [row] := by
  intro first firstIn second secondIn _ _ _
  rw [List.mem_singleton.mp firstIn, List.mem_singleton.mp secondIn]

/-- A reconciliation and a run of the stale execution's revision, twice. -/
def retryActions : List (RecoveryAction (Fin 1)) :=
  [.reconcile 0 runningExecution (302 * second) 12, .run (.begin 0 firstRevision (303 * second) 13),
    .reconcile 0 runningExecution (700 * second) 14, .run (.begin 0 firstRevision (701 * second) 15)]

theorem retryActions_run :
    ∃ later, (recoverySystem (Fin 1) .constant (fun _ => "") .required).run (loopWith [runningExecution])
        retryActions = some later ∧
      (recoverySystem (Fin 1) .constant (fun _ => "") .required).Reachable (fun _ _ => True)
        (loopWith [runningExecution]) later ∧
      later.store.executions.committed = [runningExecution] :=
  Transition.System.run_reaches (by decide +kernel)

/-- After the four calls the execution is running, and still nothing takes it over. -/
theorem stale_revision_never_retried_twice :
    ∃ later, (recoverySystem (Fin 1) .constant (fun _ => "") .required).run (loopWith [runningExecution])
        retryActions = some later ∧
      runningExecution ∈ later.store.executions.committed ∧
      (∀ execution now fresh taken store,
        reconcileStaleExecution .required 0 execution now fresh later.store ≠
          some (.ok (some taken), store)) ∧
      ∀ now fresh next, loopStep .constant (fun _ => "") .required later
        (.begin 0 firstRevision now fresh) = some next →
          ¬Retries .constant (fun _ => "") .required 0 firstRevision.id next := by
  obtain ⟨later, ran, continued, -⟩ := retryActions_run
  have settled : Versions.Settled executionSchema (loopWith [runningExecution]).store.executions
      runningExecution := ⟨List.mem_singleton_self _, fun _ => List.not_mem_nil⟩
  obtain ⟨⟨stored, -⟩, taken, begun⟩ := stale_revision_never_retried .constant (fun _ => "")
    (loopWith [runningExecution]) (loopWith [runningExecution]) later runningExecution
    (unused_loopWith (List.nodup_singleton _) (activeOnce_singleton _)) .refl settled rfl
    (by rintro _ _ ⟨⟩) continued
  exact ⟨later, ran, stored, taken 0, fun now fresh next began => (begun 0 _ now fresh next rfl began).2⟩

/-- **The stale execution stays.** The reconciliation raises for a bind, the run that begins a second later raises
too, and the table keeps the running execution that no worker works on. -/
theorem stale_revision_stays :
    ∃ (store : StoreState (Fin 1)) (next : LoopState (Fin 1)),
      isStale (302 * second) runningExecution = true ∧
      reconcileStaleExecution .required 0 runningExecution (302 * second) 12
        (loopWith [runningExecution]).store = some (.error (.missingBind "started_at"), store) ∧
      loopStep .constant (fun _ => "") .required { loopWith [runningExecution] with store }
        (.begin 0 firstRevision (303 * second) 13) = some next ∧
      (next.phases 0).outcome = some (.raised (.database (.missingBind "started_at"))
        (.database (.missingBind "started_at"))) ∧
      next.store.executions.committed = [runningExecution] ∧
      ¬Retries .constant (fun _ => "") .required 0 firstRevision.id next := by
  have executed : ((reconcileStaleExecution .required 0 runningExecution (302 * second) 12
      (loopWith [runningExecution]).store).bind fun reconciled =>
        (loopStep .constant (fun _ => "") .required
          { loopWith [runningExecution] with store := reconciled.2 }
          (.begin 0 firstRevision (303 * second) 13)).map fun next =>
            (raisedFor (some reconciled), (next.phases 0).outcome, next.store.executions.committed)) =
      some (some "started_at", some (.raised (.database (.missingBind "started_at"))
        (.database (.missingBind "started_at"))), [runningExecution]) := by
    decide +kernel
  obtain ⟨⟨answer, store⟩, reconciled, rest⟩ := Option.bind_eq_some_iff.mp executed
  obtain ⟨next, began, facts⟩ := Option.map_eq_some_iff.mp rest
  obtain ⟨raised, facts⟩ := Prod.mk.inj facts
  obtain ⟨outcome, rows⟩ := Prod.mk.inj facts
  have isError : answer = .error (.missingBind "started_at") := by
    unfold raisedFor at raised
    split at raised
    · rename_i parameter _ same
      cases same
      rw [Option.some.inj raised]
    · cases raised
  refine ⟨store, next, by decide, isError ▸ reconciled, began, outcome, rows, ?_⟩
  rintro ⟨run, opened, -⟩
  rw [LoopPhase.ended_of_outcome outcome] at opened
  cases opened

end Runs

end CosMonitor
