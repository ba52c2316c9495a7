/-
**Runs of the learning loop — whose outcomes a learned signal comes from.**

A run reads the outcomes of its decision, not those of the revision it was called for, so a later
submission changes what an earlier revision teaches. `ComputeAllowed` is what a run has to respect:
when a run computes, the decision still has the outcomes of its revision.

* `revisionSignal`: what a revision should teach;
* `Attributed`: the invariant. What is in the memory, pending in a transaction or about to be
  persisted about a decision is the signal of the revision that its execution belongs to;
* `memory_attributed`: the memory in every state of an allowed run;
* `memory_misattributed`: a delayed run learns from the outcomes of a later revision.
-/

import CosMonitor.Memory.LoopSteps

set_option linter.unusedSectionVars false

namespace CosMonitor

open Versions (Consistent Lifecycle)

/-- What a revision teaches: the expected outcomes of its decision against its own outcomes. -/
def revisionSignal (std : Stdlib) (decisions : List Decision) (revision : OutcomeRevision) :
    Option Json :=
  match findDecision revision.tenantId revision.decisionId decisions with
  | none => none
  | some decision =>
      match buildConsolidation std (learningView decision.id decision.tenantId
        decision.expectedOutcomes (some revision.actualOutcomes)) with
      | .error _ => none
      | .ok consolidation => consolidationSignal consolidation revision.decisionId

theorem revisionSignal_submitted (std : Stdlib) (decisions : List Decision)
    (revision : OutcomeRevision) (selected : Decision → Prop) [DecidablePred selected]
    (change : Decision → Decision) (ids : ∀ decision, (change decision).id = decision.id)
    (tenants : ∀ decision, (change decision).tenantId = decision.tenantId)
    (expected : ∀ decision, (change decision).expectedOutcomes = decision.expectedOutcomes) :
    revisionSignal std (decisions.map fun decision =>
        if selected decision then change decision else decision) revision =
      revisionSignal std decisions revision := by
  have found : findDecision revision.tenantId revision.decisionId (decisions.map fun decision =>
      if selected decision then change decision else decision) =
        (findDecision revision.tenantId revision.decisionId decisions).map fun decision =>
          if selected decision then change decision else decision := by
    unfold findDecision
    rw [List.find?_map]
    congr 2
    funext decision
    rw [Function.comp_apply]
    by_cases chosen : selected decision
    · rw [if_pos chosen, ids, tenants]
    · rw [if_neg chosen]
  unfold revisionSignal
  rw [found]
  cases findDecision revision.tenantId revision.decisionId decisions with
  | none => rfl
  | some decision =>
      rw [Option.map_some]
      dsimp only
      by_cases chosen : selected decision
      · rw [if_pos chosen, ids, tenants, expected]
      · rw [if_neg chosen]

theorem computeSignals_decision {std : Stdlib} {reports : LearningReports}
    {decisions : List Decision} {revision : OutcomeRevision} {tuples : List SignalTuple}
    (computed : computeSignals std revision.tenantId revision.decisionId reports decisions =
      .ok tuples)
    (current : ∀ decision ∈ findDecision revision.tenantId revision.decisionId decisions,
      decision.actualOutcomes = some revision.actualOutcomes) {tuple : SignalTuple}
    (member : tuple ∈ tuples) (target : tuple.targetType = .decision) :
    tuple.targetId = revision.decisionId ∧
      tuple.signal = revisionSignal std decisions revision := by
  unfold computeSignals at computed
  unfold revisionSignal
  cases found : findDecision revision.tenantId revision.decisionId decisions with
  | none =>
      rw [found] at computed
      cases computed
  | some decision =>
      rw [found] at computed
      dsimp only at computed ⊢
      rw [current decision found] at computed
      rcases built : buildConsolidation std (learningView decision.id decision.tenantId
        decision.expectedOutcomes (some revision.actualOutcomes)) with failure | consolidation
      · rw [built] at computed
        cases computed
      · rw [built] at computed
        rw [← Except.ok.inj computed] at member
        exact computeLearningSignals_decision member target

section Invariant

variable {Worker : Type} [DecidableEq Worker] [Fintype Worker] {std : Stdlib}
  {describe : LoopException → String} {policy : BindPolicy} {state next : LoopState Worker}
  {worker other : Worker}

/-- The lifecycle in which an ended execution stays ended. -/
abbrev closing : Lifecycle executionSchema.isActive :=
  keeping fun _ => False

theorem closing_may (old : ExecutionStatus) {new : ExecutionStatus} (ended : new.isActive = false) :
    closing.may old new :=
  fun _ => ⟨ended, False.elim⟩

/-- What a step of a run has to respect. -/
def ComputeAllowed (state : LoopState Worker) : LoopAction Worker → Prop
  | .compute worker _ =>
      match state.phases worker with
      | .begun run => ∀ decision ∈ findDecision run.revision.tenantId run.revision.decisionId
          state.decisions, decision.actualOutcomes = some run.revision.actualOutcomes
      | _ => True
  | .submit .. | .begin .. | .persist .. | .complete .. | .commit _ | .interrupt ..
  | .markFailed .. => True

instance (state : LoopState Worker) (action : LoopAction Worker) :
    Decidable (ComputeAllowed state action) := by
  unfold ComputeAllowed
  split
  · split <;> infer_instance
  all_goals infer_instance

/-- What a record about a decision says, when it is the signal of a revision. -/
def Teaches (std : Stdlib) (decisions : List Decision) (revision : OutcomeRevision)
    (record : LearningMemoryRecord) : Prop :=
  record.targetType = .decision → record.targetId = revision.decisionId ∧
    revisionSignal std decisions revision = some record.signal

/-- The invariant of the runs. -/
structure Attributed (std : Stdlib) (state : LoopState Worker) : Prop where
  held : Held closing state
  computed : ∀ worker run remaining persisted,
    state.phases worker = .persisting run remaining persisted →
      ∀ tuple ∈ remaining, tuple.targetType = .decision →
        tuple.targetId = run.revision.decisionId ∧
          tuple.signal = revisionSignal std state.decisions run.revision
  pending : ∀ worker run, (state.phases worker).openRun = some run →
    ∀ record ∈ state.ledger.pending worker, record.executionId = some run.execution.id ∧
      Teaches std state.decisions run.revision record
  rows : ∀ record ∈ state.ledger.rows, ∀ id, record.executionId = some id →
    ∃ execution ∈ state.store.executions.committed, execution.id = id ∧
      ∃ revision ∈ state.store.revisions, revision.id = execution.outcomeRevisionId ∧
        Teaches std state.decisions revision record

theorem rows_of_frame (next : LoopState Worker)
    (rows : ∀ record ∈ state.ledger.rows, ∀ id, record.executionId = some id →
      ∃ execution ∈ state.store.executions.committed, execution.id = id ∧
        ∃ revision ∈ state.store.revisions, revision.id = execution.outcomeRevisionId ∧
          Teaches std state.decisions revision record)
    (contents : ∀ execution ∈ state.store.executions.committed,
      ∃ kept ∈ next.store.executions.committed,
        kept.toExecutionContent = execution.toExecutionContent)
    (revisions : ∀ revision ∈ state.store.revisions, revision ∈ next.store.revisions)
    (signals : ∀ revision, revisionSignal std next.decisions revision =
      revisionSignal std state.decisions revision) :
    ∀ record ∈ state.ledger.rows, ∀ id, record.executionId = some id →
      ∃ execution ∈ next.store.executions.committed, execution.id = id ∧
        ∃ revision ∈ next.store.revisions, revision.id = execution.outcomeRevisionId ∧
          Teaches std next.decisions revision record := by
  intro record recordIn id hasId
  obtain ⟨execution, member, isId, revision, revisionIn, target, teaches⟩ :=
    rows record recordIn id hasId
  obtain ⟨kept, keptIn, content⟩ := contents execution member
  refine ⟨kept, keptIn, ?_, revision, revisions revision revisionIn, ?_, ?_⟩
  · exact (congrArg ExecutionContent.id content).trans isId
  · exact target.trans (congrArg ExecutionContent.outcomeRevisionId content).symm
  · unfold Teaches
    rw [signals]
    exact teaches

theorem Attributed.of_frame (attributed : Attributed std state) (held : Held closing next)
    (contents : ∀ execution ∈ state.store.executions.committed,
      ∃ kept ∈ next.store.executions.committed,
        kept.toExecutionContent = execution.toExecutionContent)
    (revisions : ∀ revision ∈ state.store.revisions, revision ∈ next.store.revisions)
    (ledger : next.ledger = state.ledger) (decisions : next.decisions = state.decisions)
    (persisting : ∀ other run remaining persisted,
      next.phases other = .persisting run remaining persisted →
        state.phases other = .persisting run remaining persisted)
    (opens : ∀ other run, (next.phases other).openRun = some run →
      (state.phases other).openRun = some run ∨ state.ledger.pending other = []) :
    Attributed std next where
  held := held
  computed := by
    intro other run remaining persisted phase
    rw [decisions]
    exact attributed.computed other run remaining persisted
      (persisting other run remaining persisted phase)
  pending := by
    intro other run phase record recordIn
    rw [ledger] at recordIn
    rw [decisions]
    rcases opens other run phase with before | nothing
    · exact attributed.pending other run before record recordIn
    · rw [nothing] at recordIn
      cases recordIn
  rows := by
    rw [ledger]
    exact rows_of_frame next attributed.rows contents revisions fun revision => by rw [decisions]

theorem persisting_setPhase {base : LoopState Worker} {phase : LoopPhase}
    (phases : base.phases = state.phases)
    (elsewhere : ∀ run remaining persisted, phase ≠ .persisting run remaining persisted) :
    ∀ other run remaining persisted,
      (base.setPhase worker phase).phases other = .persisting run remaining persisted →
        state.phases other = .persisting run remaining persisted := by
  intro other run remaining persisted found
  by_cases isWorker : other = worker
  · rw [isWorker, LoopState.setPhase_self] at found
    exact absurd found (elsewhere run remaining persisted)
  · rw [LoopState.setPhase_ne isWorker, phases] at found
    exact found

theorem Attributed.raise (attributed : Attributed std state) (run : LearningRun)
    (exception : LoopException) : Attributed std (raiseInRun worker run exception state) where
  held := attributed.held.raise run exception
  computed := by
    intro other found remaining persisted phase
    refine attributed.computed other found remaining persisted ?_
    refine persisting_setPhase rfl ?_ other found remaining persisted phase
    intro run remaining persisted same
    split at same <;> cases same
  pending := by
    intro other found phase record recordIn
    have differ : other ≠ worker := by
      intro same
      subst same
      have nothing : (raiseInRun other run exception state).ledger.pending other = [] :=
        LedgerState.setPending_self []
      rw [nothing] at recordIn
      cases recordIn
    have samePending : (raiseInRun worker run exception state).ledger.pending other =
        state.ledger.pending other := LedgerState.setPending_ne differ []
    have samePhase : (raiseInRun worker run exception state).phases other = state.phases other :=
      LoopState.setPhase_ne differ _
    rw [samePending] at recordIn
    rw [samePhase] at phase
    exact attributed.pending other found phase record recordIn
  rows := attributed.rows

/-- **Committing a run keeps the invariant**: what it has persisted belongs to its execution, which is
committed with it. -/
theorem Attributed.commit {run : LearningRun} {outcome : LoopOutcome}
    (attributed : Attributed std state) (phase : (state.phases worker).openRun = some run) :
    Attributed std (({ state with
      store := commitTransaction worker state.store
      ledger := state.ledger.commit worker }).setPhase worker (.ended outcome)) where
  held := attributed.held.commit phase
  computed := by
    intro other found remaining persisted otherPhase
    exact attributed.computed other found remaining persisted
      (persisting_setPhase rfl (fun _ _ _ same => by cases same) other found remaining persisted
        otherPhase)
  pending := by
    intro other found otherPhase record recordIn
    have differ : other ≠ worker := by
      intro same
      rw [same, LoopState.setPhase_self] at otherPhase
      cases otherPhase
    rw [LoopState.setPhase_ne differ] at otherPhase
    have samePending : (state.ledger.commit worker).pending other = state.ledger.pending other :=
      LedgerState.setPending_ne differ []
    refine attributed.pending other found otherPhase record ?_
    rw [← samePending]
    exact recordIn
  rows := by
    intro record recordIn id hasId
    rcases List.mem_append.mp recordIn with older | new
    · refine rows_of_frame (({ state with
        store := commitTransaction worker state.store
        ledger := state.ledger.commit worker }).setPhase worker (.ended outcome)) attributed.rows ?_
        (fun _ member => member) (fun _ => rfl) record older id hasId
      intro execution member
      obtain ⟨version, seen, evolves⟩ := attributed.held.consistent.view_evolved worker member
      exact ⟨version, seen, evolves.content⟩
    · obtain ⟨isOwn, teaches⟩ := attributed.pending worker run phase record new
      have owns := attributed.held.owns worker run phase
      obtain ⟨row, seen, content⟩ := owns.row
      refine ⟨row, seen, ?_, run.revision, owns.revision, ?_, teaches⟩
      · rw [isOwn] at hasId
        rw [← Option.some.inj hasId]
        exact congrArg ExecutionContent.id content
      · rw [← owns.target]
        exact (congrArg ExecutionContent.outcomeRevisionId content).symm

/-- **An allowed step keeps the invariant.** -/
theorem Attributed.step {action : LoopAction Worker} (attributed : Attributed std state)
    (allowed : ComputeAllowed state action)
    (stepped : loopStep std describe policy state action = some next) : Attributed std next := by
  have held : Held closing next := attributed.held.step stepped (fun old => closing_may old rfl)
    fun _ _ _ _ _ _ _ row _ _ => closing_may row.status rfl
  have sameContents : ∀ store : StoreState Worker,
      store.executions.committed = state.store.executions.committed →
        ∀ execution ∈ state.store.executions.committed, ∃ kept ∈ store.executions.committed,
          kept.toExecutionContent = execution.toExecutionContent := by
    intro store same execution member
    rw [same]
    exact ⟨execution, member, rfl⟩
  have sameRevisions : ∀ store : StoreState Worker, store.revisions = state.store.revisions →
      ∀ revision ∈ state.store.revisions, revision ∈ store.revisions := by
    intro store same revision member
    rw [same]
    exact member
  cases action with
  | submit tenantId decisionId actualOutcomes executedAt now fresh =>
      rcases submit_cases stepped with rfl | ⟨-, revision, -, store, ledger, phases, decisions⟩
      · exact attributed
      · have signals : ∀ revision, revisionSignal std next.decisions revision =
            revisionSignal std state.decisions revision := by
          intro revision
          rw [decisions]
          exact revisionSignal_submitted std state.decisions revision _ _ (fun _ => rfl)
            (fun _ => rfl) fun _ => rfl
        refine ⟨held, ?_, ?_, ?_⟩
        · intro other run remaining persisted phase
          rw [phases] at phase
          rw [signals]
          exact attributed.computed other run remaining persisted phase
        · intro other run phase record recordIn
          rw [phases] at phase
          rw [ledger] at recordIn
          unfold Teaches
          rw [signals]
          exact attributed.pending other run phase record recordIn
        · rw [ledger]
          refine rows_of_frame _ attributed.rows ?_ ?_ signals
          · rw [store]
            exact sameContents _ rfl
          · rw [store]
            exact fun _ member => List.mem_append_left _ member
  | begin worker revision now fresh =>
      obtain ⟨-, closed, opened, began, ended⟩ := begin_cases stepped
      have nothing := (attributed.held.closed worker closed).2
      have opens : ∀ (base : LoopState Worker) (phase : LoopPhase), base.phases = state.phases →
          ∀ other run, ((base.setPhase worker phase).phases other).openRun = some run →
            (state.phases other).openRun = some run ∨ state.ledger.pending other = [] := by
        intro base phase same other run found
        by_cases isWorker : other = worker
        · rw [isWorker]
          exact .inr nothing
        · rw [LoopState.setPhase_ne isWorker, same] at found
          exact .inl found
      rcases ended with ⟨failure, store, -, executions, revisions, rfl⟩ |
        ⟨store, -, executions, revisions, rfl⟩ | ⟨execution, store, claimed, rfl⟩
      · exact attributed.of_frame held (sameContents store (by rw [executions]))
          (sameRevisions store revisions) rfl rfl
          (persisting_setPhase rfl fun _ _ _ same => by cases same) (opens _ _ rfl)
      · exact attributed.of_frame held (sameContents store (by rw [executions]))
          (sameRevisions store revisions) rfl rfl
          (persisting_setPhase rfl fun _ _ _ same => by cases same) (opens _ _ rfl)
      · have begun := begun_of_begin began
        have within := claimExecution_within claimed
        exact attributed.of_frame held
          (sameContents store (within.committed.trans begun.committed))
          (sameRevisions store (within.revisions.trans begun.revisions)) rfl rfl
          (persisting_setPhase rfl fun _ _ _ same => by cases same) (opens _ _ rfl)
  | compute worker reports =>
      obtain ⟨run, phase, ⟨exception, rfl⟩ | ⟨tuples, computed, rfl⟩⟩ := compute_cases stepped
      · exact attributed.raise run exception
      · have current : ∀ decision ∈ findDecision run.revision.tenantId run.revision.decisionId
            state.decisions, decision.actualOutcomes = some run.revision.actualOutcomes := by
          unfold ComputeAllowed at allowed
          dsimp only at allowed
          rw [phase] at allowed
          exact allowed
        refine ⟨held, ?_, ?_, attributed.rows⟩
        · intro other found remaining persisted otherPhase
          by_cases isWorker : other = worker
          · rw [isWorker, LoopState.setPhase_self] at otherPhase
            cases otherPhase
            exact fun tuple member target => computeSignals_decision computed current member target
          · rw [LoopState.setPhase_ne isWorker] at otherPhase
            exact attributed.computed other found remaining persisted otherPhase
        · intro other found otherPhase
          by_cases isWorker : other = worker
          · subst isWorker
            rw [LoopState.setPhase_self] at otherPhase
            refine attributed.pending other found ?_
            rw [phase]
            exact otherPhase
          · rw [LoopState.setPhase_ne isWorker] at otherPhase
            exact attributed.pending other found otherPhase
  | persist worker now fresh =>
      obtain ⟨run, tuple, rest, persisted, phase, ⟨exception, rfl⟩ | ⟨record, ledger, called, rfl⟩⟩ :=
        persist_cases stepped
      · exact attributed.raise run exception
      · have opened : (state.phases worker).openRun = some run := by
          rw [phase]
          rfl
        have frame := persistInSession_frame called
        refine ⟨held, ?_, ?_, ?_⟩
        · intro other found remaining others otherPhase
          by_cases isWorker : other = worker
          · rw [isWorker, LoopState.setPhase_self] at otherPhase
            cases otherPhase
            exact fun tuple member =>
              attributed.computed worker _ _ _ phase tuple (List.mem_cons_of_mem _ member)
          · rw [LoopState.setPhase_ne isWorker] at otherPhase
            exact attributed.computed other found remaining others otherPhase
        · intro other found otherPhase row rowIn
          by_cases isWorker : other = worker
          · subst isWorker
            rw [LoopState.setPhase_self] at otherPhase
            cases otherPhase
            have rowPending : row ∈ ledger.pending other := rowIn
            rcases persistInSession_cases called with
              rfl | ⟨new, -, signal, -, targetType, targetId, executionId, rfl⟩
            · exact attributed.pending other run opened row rowPending
            · rw [LedgerState.setPending_self] at rowPending
              rcases List.mem_append.mp rowPending with older | isNew
              · exact attributed.pending other run opened row older
              · rw [List.mem_singleton.mp isNew]
                refine ⟨executionId, fun target => ?_⟩
                obtain ⟨aimed, computed⟩ := attributed.computed other run _ _ phase tuple
                  List.mem_cons_self (targetType.symm.trans target)
                exact ⟨targetId.trans aimed, computed.symm.trans signal⟩
          · rw [LoopState.setPhase_ne isWorker] at otherPhase
            have rowPending : row ∈ ledger.pending other := rowIn
            rw [frame.2 other isWorker] at rowPending
            exact attributed.pending other found otherPhase row rowPending
        · show ∀ record ∈ ledger.rows, _
          rw [frame.1]
          exact attributed.rows
  | complete worker now =>
      obtain ⟨run, persisted, row, store, phase, called, rfl⟩ := complete_cases stepped
      have within := changeExecution_within called
      refine attributed.of_frame held (sameContents store within.committed)
        (sameRevisions store within.revisions) rfl rfl
        (persisting_setPhase rfl fun _ _ _ same => by cases same) fun other found otherPhase => ?_
      left
      by_cases isWorker : other = worker
      · rw [isWorker, LoopState.setPhase_self] at otherPhase
        rw [isWorker, phase]
        exact otherPhase
      · rw [LoopState.setPhase_ne isWorker] at otherPhase
        exact otherPhase
  | commit worker =>
      obtain ⟨run, persisted, phase, rfl⟩ := commit_cases stepped
      exact attributed.commit (by rw [phase]; rfl)
  | interrupt worker text ordinary =>
      obtain ⟨run, phase, rfl⟩ := interrupt_cases stepped
      exact attributed.raise run _
  | markFailed worker now =>
      obtain ⟨run, exception, answer, store, phase, called, rfl⟩ := markFailed_cases stepped
      have opens : ∀ outcome other found,
          ((({ state with store }).setPhase worker (.ended outcome)).phases other).openRun =
            some found → (state.phases other).openRun = some found ∨
              state.ledger.pending other = [] := by
        intro outcome other found otherPhase
        by_cases isWorker : other = worker
        · rw [isWorker, LoopState.setPhase_self] at otherPhase
          cases otherPhase
        · rw [LoopState.setPhase_ne isWorker] at otherPhase
          exact .inl otherPhase
      rcases failExecution_cases called with
        ⟨-, -, executions, revisions⟩ | ⟨-, opened, after, row, began, changed, -, built⟩
      · exact attributed.of_frame held (sameContents store (by rw [executions]))
          (sameRevisions store revisions) rfl rfl
          (persisting_setPhase rfl fun _ _ _ same => by cases same) (opens _)
      · obtain ⟨committed, -⟩ := committed_change attributed.held.consistent began changed
          (StatusUpdate.apply_content _)
        have revisions : store.revisions = state.store.revisions := by
          rw [built]
          exact (changeExecution_within changed).revisions.trans (begun_of_begin began).revisions
        refine attributed.of_frame held ?_ (sameRevisions store revisions) rfl rfl
          (persisting_setPhase rfl fun _ _ _ same => by cases same) (opens _)
        intro execution member
        show ∃ kept ∈ store.executions.committed, _
        rw [built, committed]
        refine ⟨_, List.mem_map_of_mem member, ?_⟩
        split
        · rfl
        · rfl

theorem attributed_unused (unused : Unused state)
    (legacy : ∀ record ∈ state.ledger.rows, record.executionId = none) : Attributed std state where
  held := unused.held closing
  computed := by
    intro worker run remaining persisted phase
    have closed := (unused.unused worker).1
    rw [phase] at closed
    cases closed
  pending := by
    intro worker run phase
    rw [(unused.unused worker).1] at phase
    cases phase
  rows := by
    intro record recordIn id hasId
    rw [legacy record recordIn] at hasId
    cases hasId

end Invariant

/-! ### Runs -/

section Runs

variable {Worker : Type} [DecidableEq Worker] [Fintype Worker]

/-- What the memory should say: a record about a decision that an execution has written is the signal
of the revision that the execution belongs to. -/
def MemoryAttributed (std : Stdlib) (state : LoopState Worker) : Prop :=
  ∀ record ∈ state.ledger.rows, record.targetType = .decision →
    ∀ execution ∈ state.store.executions.committed, record.executionId = some execution.id →
      ∀ revision ∈ state.store.revisions, revision.id = execution.outcomeRevisionId →
        record.targetId = revision.decisionId ∧
          revisionSignal std state.decisions revision = some record.signal

/-- **A revision teaches its own outcomes.** In every state of a run in which each learner computes
while its decision has the outcomes of its revision, from a database that no worker uses and whose
memory no execution has written, for any number of workers and submissions. -/
theorem memory_attributed (std : Stdlib) (describe : LoopException → String) (policy : BindPolicy)
    (initial state : LoopState Worker) (unused : Unused initial)
    (legacy : ∀ record ∈ initial.ledger.rows, record.executionId = none)
    (reached : (loopSystem Worker std describe policy).Reachable ComputeAllowed initial state) :
    MemoryAttributed std state := by
  have attributed : Attributed std state := by
    refine reached.invariant (attributed_unused unused legacy) fun before action after holds => ?_
    exact fun allowed moved => holds.step allowed moved
  intro record recordIn target execution member hasId revision revisionIn isRevision
  obtain ⟨own, ownIn, isOwn, source, sourceIn, isSource, teaches⟩ :=
    attributed.rows record recordIn execution.id hasId
  have same : own = execution :=
    Versions.eq_of_rowId attributed.held.consistent.ids ownIn member isOwn
  rw [same] at isSource
  have sameRevision : source = revision :=
    List.inj_on_of_nodup_map attributed.held.revisionIds sourceIn revisionIn
      (isSource.trans isRevision.symm)
  rw [← sameRevision]
  exact teaches target

/-- Two revisions that are learned at once, one after the other, teach their own outcomes. -/
theorem memory_attributed_twice :
    ∃ state : LoopState (Fin 1), state.ledger.rows.length = 2 ∧ MemoryAttributed tellingStd state := by
  have executed : ((loopSystem (Fin 1) tellingStd (fun _ => "") .required).guardedRun
      ComputeAllowed (freshLoop metricDecision)
      (.submit 1 2 (metricOutcomes true) none 0 7 :: oneRun (metricRevision 7 true) 11 ++
        .submit 1 2 (metricOutcomes false) none 0 8 :: oneRun (metricRevision 8 false) 13)).map
        (fun state => state.ledger.rows.length) = some 2 := by
    decide +kernel
  obtain ⟨state, ran, written⟩ := Option.map_eq_some_iff.mp executed
  refine ⟨state, written, ?_⟩
  exact memory_attributed tellingStd (fun _ => "") .required (freshLoop metricDecision) state
    (unused_freshLoop _) (by rintro _ ⟨⟩) (Transition.System.guardedRun_reachable ran)

/-- Two revisions are submitted before the first is learned: what it teaches are the outcomes of the
second. -/
theorem memory_misattributed :
    ∃ state : LoopState (Fin 1),
      (loopSystem (Fin 1) .constant (fun _ => "") .required).Reachable (fun _ _ => True)
        (freshLoop metricDecision) state ∧ ¬MemoryAttributed .constant state := by
  have executed : ((loopSystem (Fin 1) .constant (fun _ => "") .required).guardedRun
      (fun _ _ => True) (freshLoop metricDecision)
      (.submit 1 2 (metricOutcomes true) none 0 7 :: .submit 1 2 (metricOutcomes false) none 0 8 ::
        oneRun (metricRevision 7 true) 11)).map
          (fun state => decide (∃ record ∈ state.ledger.rows, record.targetType = .decision ∧
            ∃ execution ∈ state.store.executions.committed,
              record.executionId = some execution.id ∧
              ∃ revision ∈ state.store.revisions, revision.id = execution.outcomeRevisionId ∧
                revisionSignal .constant state.decisions revision ≠ some record.signal)) =
        some true := by
    decide +kernel
  obtain ⟨state, ran, differs⟩ := Option.map_eq_some_iff.mp executed
  refine ⟨state, Transition.System.guardedRun_reachable ran, fun claimed => ?_⟩
  obtain ⟨record, recordIn, target, execution, member, hasId, revision, revisionIn, isRevision,
    differ⟩ := of_decide_eq_true differs
  exact differ (claimed record recordIn target execution member hasId revision revisionIn
    isRevision).2

end Runs

end CosMonitor
