/-
**Runs of the learning loop that raise — what they leave behind.**

A run is followed from its begin to its end while no other worker takes a step.

* `Underway`: until it commits a run changes nothing that others see, its rollback restores the
  executions, and `fail_execution` then changes the row of its execution or nothing;
* `failed_run_iff`: a run that raised has left the memory alone, its execution failed with the reason
  and its exception to the caller exactly when the driver sends `NULL` for the binds that
  `fail_execution` leaves out, the exception is an `Exception`, and the begin claimed a pending
  execution;
* `failed_run_unrecorded`: with a driver that requires the binds the caller gets another exception, and
  no execution is left.
-/

import CosMonitor.Memory.LoopSteps

set_option linter.unusedSectionVars false

namespace CosMonitor

open Versions (Consistent Lifecycle)

section Invariant

variable {Worker : Type} [DecidableEq Worker] [Fintype Worker] {std : Stdlib}
  {describe : LoopException → String} {policy : BindPolicy} {before state next : LoopState Worker}
  {worker : Worker} {run : LearningRun}

/-- The lifecycle in which an ended execution stays ended. -/
abbrev endedStays : Lifecycle executionSchema.isActive :=
  keeping fun _ => False

/-- A step of a worker inside its run. -/
def InsideRun (worker : Worker) (_ : LoopState Worker) (action : LoopAction Worker) : Prop :=
  action.worker = some worker ∧ ∀ revision now fresh, action ≠ .begin worker revision now fresh

/-- The executions after `fail_execution` of an id. -/
def markedExecutions (id : Uuid) (reason : String) (now : Timestamp)
    (rows : List LearningExecution) : List LearningExecution :=
  rows.map fun row => if row.id = id then (failedUpdate reason now).apply row else row

/-- What a run of a worker has done so far, by where it is. -/
def Reached (describe : LoopException → String) (policy : BindPolicy)
    (before state : LoopState Worker) (worker : Worker) (run : LearningRun) : LoopPhase → Prop
  | .begun found | .persisting found _ _ | .completed found _ => found = run ∧
      state.ledger.rows = before.ledger.rows ∧
      state.store.executions.committed = before.store.executions.committed ∧
      ∀ other, other ≠ worker →
        state.store.executions.sessions other = before.store.executions.sessions other
  | .marking found exception => found = run ∧ exception.isOrdinary = true ∧
      state.ledger.rows = before.ledger.rows ∧ state.store.executions = before.store.executions
  | .ended (.raised original reached) => state.ledger.rows = before.ledger.rows ∧
      ((original.isOrdinary = false ∧ reached = original ∧
          state.store.executions = before.store.executions) ∨
        (original.isOrdinary = true ∧ policy = .required ∧
          state.store.executions = before.store.executions) ∨
        (original.isOrdinary = true ∧ policy = .nullable ∧ reached = original ∧
          ∃ now, state.store.executions.committed = markedExecutions run.execution.id
            (original.text describe) now before.store.executions.committed))
  | .idle | .ended .skipped | .ended (.completed ..) => True

/-- The invariant of a run that no other worker interrupts. -/
def Underway (describe : LoopException → String) (policy : BindPolicy)
    (before : LoopState Worker) (worker : Worker) (run : LearningRun) (state : LoopState Worker) :
    Prop :=
  Reached describe policy before state worker run (state.phases worker)

theorem Underway.raise {exception : LoopException}
    (closed : before.store.executions.sessions worker = none)
    (rows : state.ledger.rows = before.ledger.rows)
    (committed : state.store.executions.committed = before.store.executions.committed)
    (others : ∀ other, other ≠ worker →
      state.store.executions.sessions other = before.store.executions.sessions other) :
    Underway describe policy before worker run (raiseInRun worker run exception state) := by
  have sessions : Function.update state.store.executions.sessions worker none =
      before.store.executions.sessions := by
    funext other
    by_cases isWorker : other = worker
    · rw [isWorker, Function.update_self, closed]
    · rw [Function.update_of_ne isWorker, others other isWorker]
  have executions : (raiseInRun worker run exception state).store.executions =
      before.store.executions := by
    show Versions.State.mk state.store.executions.committed
      (Function.update state.store.executions.sessions worker none) = _
    rw [committed, sessions]
  have phase : (raiseInRun worker run exception state).phases worker =
      if exception.isOrdinary then .marking run exception
      else .ended (.raised exception exception) := LoopState.setPhase_self _
  unfold Underway
  rw [phase]
  by_cases ordinary : exception.isOrdinary = true
  · rw [if_pos ordinary]
    exact ⟨rfl, ordinary, rows, executions⟩
  · rw [if_neg ordinary]
    exact ⟨rows, .inl ⟨by simpa using ordinary, rfl, executions⟩⟩

/-- **A step of the run keeps the invariant.** -/
theorem Underway.step {action : LoopAction Worker}
    (consistent : Consistent executionSchema endedStays before.store.executions)
    (closed : before.store.executions.sessions worker = none)
    (underway : Underway describe policy before worker run state)
    (inside : InsideRun worker state action)
    (stepped : loopStep std describe policy state action = some next) :
    Underway describe policy before worker run next := by
  obtain ⟨own, notBegin⟩ := inside
  unfold Underway at underway
  cases action with
  | submit tenantId decisionId actualOutcomes executedAt now fresh => cases own
  | begin other revision now fresh =>
      cases own
      exact absurd rfl (notBegin revision now fresh)
  | compute other reports =>
      cases own
      obtain ⟨found, phase, ⟨exception, rfl⟩ | ⟨tuples, -, rfl⟩⟩ := compute_cases stepped
      · rw [phase] at underway
        obtain ⟨rfl, rows, committed, others⟩ := underway
        exact Underway.raise closed rows committed others
      · rw [phase] at underway
        unfold Underway
        rw [LoopState.setPhase_self]
        exact underway
  | persist other now fresh =>
      cases own
      obtain ⟨found, tuple, rest, persisted, phase, ⟨exception, rfl⟩ | ⟨record, ledger, called, rfl⟩⟩ :=
        persist_cases stepped
      · rw [phase] at underway
        obtain ⟨rfl, rows, committed, others⟩ := underway
        exact Underway.raise closed rows committed others
      · rw [phase] at underway
        obtain ⟨same, rows, committed, others⟩ := underway
        unfold Underway
        rw [LoopState.setPhase_self]
        exact ⟨same, (persistInSession_frame called).1.trans rows, committed, others⟩
  | complete other now =>
      cases own
      obtain ⟨found, persisted, row, store, phase, called, rfl⟩ := complete_cases stepped
      rw [phase] at underway
      obtain ⟨same, rows, committed, others⟩ := underway
      have within := changeExecution_within called
      unfold Underway
      rw [LoopState.setPhase_self]
      refine ⟨same, rows, within.committed.trans committed, fun other differ => ?_⟩
      exact (within.others other differ).trans (others other differ)
  | commit other =>
      cases own
      obtain ⟨found, persisted, phase, rfl⟩ := commit_cases stepped
      unfold Underway
      rw [LoopState.setPhase_self]
      trivial
  | interrupt other text ordinary =>
      cases own
      obtain ⟨found, phase, rfl⟩ := interrupt_cases stepped
      cases current : state.phases worker with
      | begun held | persisting held _ _ | completed held _ =>
          rw [current] at underway phase
          cases phase
          obtain ⟨rfl, rows, committed, others⟩ := underway
          exact Underway.raise closed rows committed others
      | idle | marking _ _ | ended _ =>
          rw [current] at phase
          cases phase
  | markFailed other now =>
      cases own
      obtain ⟨found, exception, answer, store, phase, called, rfl⟩ := markFailed_cases stepped
      rw [phase] at underway
      obtain ⟨rfl, ordinary, rows, executions⟩ := underway
      unfold Underway
      rw [LoopState.setPhase_self]
      refine ⟨rows, .inr ?_⟩
      rcases failExecution_cases called with
        ⟨required, -, unchanged, -⟩ | ⟨nullable, opened, after, row, began, changed, rfl, built⟩
      · exact .inl ⟨ordinary, required, unchanged.trans executions⟩
      · rw [← executions] at consistent
        obtain ⟨committed, -⟩ := committed_change consistent began changed
          (StatusUpdate.apply_content _)
        refine .inr ⟨ordinary, nullable, rfl, now, ?_⟩
        show store.executions.committed = _
        rw [built, committed, executions]
        rfl

end Invariant

/-! ### Runs -/

section Runs

variable {Worker : Type} [DecidableEq Worker] [Fintype Worker]

/-- What a run that raised should leave behind: the memory as it was, its execution failed with the
text of the exception, and the exception itself to the caller. -/
def FailureRecorded (describe : LoopException → String) (before after : LoopState Worker)
    (execution : LearningExecution) (original reached : LoopException) : Prop :=
  after.ledger.rows = before.ledger.rows ∧
    (∃ row ∈ after.store.executions.committed, row.id = execution.id ∧ row.status = .failed ∧
      row.failureReason = some (original.text describe)) ∧
    reached = original

/-- **When a run that raised is recorded as failed.** `before` is any database that the workers reach;
the run begins there with an execution and ends with an exception, whatever step raised, while no other
worker takes a step. -/
theorem failed_run_iff (std : Stdlib) (describe : LoopException → String) (policy : BindPolicy)
    (initial before opened after : LoopState Worker) (worker : Worker) (revision : OutcomeRevision)
    (now : Timestamp) (fresh : Uuid) (run : LearningRun) (original reached : LoopException)
    (unused : Unused initial)
    (reachable : (loopSystem Worker std describe policy).Reachable (fun _ _ => True) initial before)
    (began : loopStep std describe policy before (.begin worker revision now fresh) = some opened)
    (returned : (opened.phases worker).openRun = some run)
    (ran : (loopSystem Worker std describe policy).Reachable (InsideRun worker) opened after)
    (raised : (after.phases worker).outcome = some (.raised original reached)) :
    FailureRecorded describe before after run.execution original reached ↔
      policy = .nullable ∧ original.isOrdinary = true ∧
        ∃ existing ∈ findActiveExecution revision.id before.store.executions.committed,
          existing.status = .pending := by
  have held : Held endedStays before := by
    refine reachable.invariant (unused.held endedStays) fun first action second holds _ moved => ?_
    exact holds.step moved (fun _ _ => ⟨rfl, False.elim⟩) fun _ _ _ _ _ _ _ _ _ _ _ =>
      ⟨rfl, False.elim⟩
  obtain ⟨-, -, open', begunTransaction, ended⟩ := begin_cases began
  have begun := begun_of_begin begunTransaction
  have consistent := begun_consistent begunTransaction held.consistent
  rcases ended with ⟨failure, store, -, -, -, rfl⟩ | ⟨store, -, -, -, rfl⟩ |
    ⟨execution, store, claimed, rfl⟩
  · rw [LoopState.setPhase_self] at returned
    cases returned
  · rw [LoopState.setPhase_self] at returned
    cases returned
  rw [LoopState.setPhase_self] at returned
  cases returned
  have within := claimExecution_within claimed
  have claim := claimExecution_claimed begun consistent claimed
  have starts : Underway describe policy before worker { revision, execution }
      (({ before with store }).setPhase worker (.begun { revision, execution })) := by
    unfold Underway
    rw [LoopState.setPhase_self]
    refine ⟨rfl, rfl, within.committed.trans begun.committed, fun other differ => ?_⟩
    exact (within.others other differ).trans (begun.others other differ)
  have underway : Underway describe policy before worker { revision, execution } after :=
    ran.invariant starts fun first action second holds inside moved =>
      holds.step held.consistent begun.closed inside moved
  -- Where the run has ended.
  have phase := LoopPhase.ended_of_outcome raised
  unfold Underway at underway
  rw [phase] at underway
  obtain ⟨rows, ends⟩ := underway
  -- The execution was not failed before the run.
  have notFailed : ∀ row ∈ before.store.executions.committed, row.id = execution.id →
      row.status ≠ .failed := by
    intro row member same failed
    rcases claim.origin with ⟨existing, found, pending, isExisting⟩ | ⟨-, unknown⟩
    · obtain ⟨existingIn, -, -⟩ := findActiveExecution_some found
      have isRow : row = existing :=
        Versions.eq_of_rowId held.consistent.ids member existingIn (same.trans isExisting.symm)
      rw [isRow, pending] at failed
      cases failed
    · exact unknown row member same
  constructor
  · rintro ⟨-, ⟨row, member, same, failed, -⟩, -⟩
    rcases ends with ⟨-, -, executions⟩ | ⟨-, -, executions⟩ | ⟨ordinary, nullable, -, at', marked⟩
    · rw [executions] at member
      exact absurd failed (notFailed row member same)
    · rw [executions] at member
      exact absurd failed (notFailed row member same)
    · refine ⟨nullable, ordinary, ?_⟩
      rw [marked] at member
      obtain ⟨old, oldIn, rfl⟩ := List.mem_map.mp member
      have oldId : old.id = execution.id := by
        by_cases chosen : old.id = execution.id
        · exact chosen
        · rw [if_neg chosen] at same
          exact same
      rcases claim.origin with ⟨existing, found, pending, -⟩ | ⟨-, unknown⟩
      · exact ⟨existing, found, pending⟩
      · exact absurd oldId (unknown old oldIn)
  · rintro ⟨nullable, ordinary, existing, found, pending⟩
    rcases ends with ⟨notOrdinary, -, -⟩ | ⟨-, required, -⟩ | ⟨-, -, same, at', marked⟩
    · rw [ordinary] at notOrdinary
      cases notOrdinary
    · rw [nullable] at required
      cases required
    · refine ⟨rows, ?_, same⟩
      rcases claim.origin with ⟨other, otherFound, -, isOther⟩ | ⟨notPending, -⟩
      · obtain ⟨otherIn, -, -⟩ := findActiveExecution_some otherFound
        rw [marked]
        refine ⟨_, List.mem_map_of_mem otherIn, ?_⟩
        rw [if_pos isOther]
        exact ⟨isOther, rfl, rfl⟩
      · exact absurd pending (notPending existing found)

instance (worker : Worker) (state : LoopState Worker) :
    (action : LoopAction Worker) → Decidable (InsideRun worker state action)
  | .begin other revision now fresh => isFalse fun inside => by
      obtain ⟨own, notBegin⟩ := inside
      cases own
      exact notBegin revision now fresh rfl
  | .submit .. => isFalse fun inside => by cases inside.1
  | .compute other _ | .persist other _ _ | .complete other _ | .commit other
  | .interrupt other _ _ | .markFailed other _ =>
      decidable_of_iff (other = worker)
        ⟨fun same => ⟨congrArg some same, fun _ _ _ begins => by cases begins⟩,
          fun inside => Option.some.inj inside.1⟩

/-- A pending execution of the first revision. -/
def pendingExecution : LearningExecution where
  id := 11
  tenantId := 1
  decisionId := 2
  outcomeRevisionId := firstRevision.id
  attemptNumber := 1
  parentExecutionId := none
  createdAt := 0
  status := .pending
  startedAt := none
  completedAt := none
  heartbeatAt := none
  signalCount := 0
  failureReason := none

/-- The database in which the first revision has some executions. -/
def loopWith (rows : List LearningExecution) : LoopState (Fin 1) :=
  { freshLoop plainDecision with
    store := {
      executions := { committed := rows, sessions := fun _ => none }
      revisions := [firstRevision]
      changes := [] } }

theorem unused_loopWith {rows : List LearningExecution} (ids : (rows.map (·.id)).Nodup)
    (activeOnce : Versions.ActiveOnce executionSchema rows) : Unused (loopWith rows) where
  ids := ids
  activeOnce := activeOnce
  revisionIds := List.nodup_singleton _
  unused := fun _ => ⟨rfl, rfl, rfl⟩

/-- A run that claims a pending execution is recorded when the driver sends `NULL`. -/
theorem failed_run_recorded :
    ∃ before after : LoopState (Fin 1), ∃ run : LearningRun, ∃ exception : LoopException,
      (after.phases 0).outcome = some (.raised exception exception) ∧
        FailureRecorded (fun _ => "") before after run.execution exception exception := by
  have begins : ((loopStep .constant (fun _ => "") .nullable (loopWith [pendingExecution])
      (.begin 0 firstRevision 1 21)).bind fun opened =>
        ((opened.phases 0).openRun.bind fun run =>
          ((loopSystem (Fin 1) .constant (fun _ => "") .nullable).guardedRun (InsideRun 0) opened
            [.interrupt 0 "lost" true, .markFailed 0 2]).map fun after =>
              (after.phases 0).outcome)) =
      some (some (.raised (.outside "lost" true) (.outside "lost" true))) := by
    decide +kernel
  obtain ⟨opened, began, rest⟩ := Option.bind_eq_some_iff.mp begins
  obtain ⟨run, returned, rest⟩ := Option.bind_eq_some_iff.mp rest
  obtain ⟨after, ran, raised⟩ := Option.map_eq_some_iff.mp rest
  refine ⟨loopWith [pendingExecution], after, run, _, raised, ?_⟩
  refine (failed_run_iff .constant (fun _ => "") .nullable (loopWith [pendingExecution])
    (loopWith [pendingExecution]) opened after 0 firstRevision 1 21 run _ _
    (unused_loopWith (List.nodup_singleton _) ?_) .refl began returned
    (Transition.System.guardedRun_reachable ran) raised).mpr ⟨rfl, rfl, pendingExecution, ?_, rfl⟩
  · intro first firstIn second secondIn _ _ _
    rw [List.mem_singleton.mp firstIn, List.mem_singleton.mp secondIn]
  · decide +kernel

/-- The first run for a revision raises, and the driver requires every bind: the caller gets the error
of the bind, and no execution is left. -/
theorem failed_run_unrecorded :
    ∃ opened after : LoopState (Fin 1), ∃ run : LearningRun, ∃ original reached : LoopException,
      loopStep .constant (fun _ => "") .required (loopWith []) (.begin 0 firstRevision 1 11) =
        some opened ∧
      (opened.phases 0).openRun = some run ∧
      (loopSystem (Fin 1) .constant (fun _ => "") .required).Reachable (InsideRun 0) opened after ∧
      (after.phases 0).outcome = some (.raised original reached) ∧
      ¬FailureRecorded (fun _ => "") (loopWith []) after run.execution original reached := by
  have begins : ((loopStep .constant (fun _ => "") .required (loopWith [])
      (.begin 0 firstRevision 1 11)).bind fun opened =>
        ((opened.phases 0).openRun.bind fun run =>
          ((loopSystem (Fin 1) .constant (fun _ => "") .required).guardedRun (InsideRun 0) opened
            [.interrupt 0 "lost" true, .markFailed 0 2]).map fun after =>
              ((after.phases 0).outcome, after.store.executions.committed))) =
      some (some (.raised (.outside "lost" true) (.database (.missingBind "started_at"))), []) := by
    decide +kernel
  obtain ⟨opened, began, rest⟩ := Option.bind_eq_some_iff.mp begins
  obtain ⟨run, returned, rest⟩ := Option.bind_eq_some_iff.mp rest
  obtain ⟨after, ran, ends⟩ := Option.map_eq_some_iff.mp rest
  obtain ⟨raised, rows⟩ := Prod.mk.inj ends
  refine ⟨opened, after, run, _, _, began, returned,
    Transition.System.guardedRun_reachable ran, raised, ?_⟩
  rintro ⟨-, ⟨row, member, -⟩, -⟩
  rw [rows] at member
  cases member

end Runs

end CosMonitor
