/-
**Runs of the learning loop — a revision is learned at most once.**

`begin_phase2` looks for a pending or running execution, so a revision that was learned before can be
learned again. `OnceAllowed` is what a run has to respect: no run begins for a revision that has a completed
execution, and `fail_execution` does not reach a completed execution.

* `Once`: the invariant. No open run is for a revision with a completed execution, and what a worker
  sees as completed beyond its own execution is committed;
* `NoneRunning`: the loop commits no running execution, so no begin for a learned revision is skipped;
* `revision_learned_once`: each revision has at most one completed execution in every state of an
  allowed run, and a begin that is not allowed is not skipped;
* `revision_learned_twice`: two runs one after the other.
-/

import CosMonitor.Foundation.Table
import CosMonitor.Memory.LoopSteps

set_option linter.unusedSectionVars false

namespace CosMonitor

open Versions (Consistent Lifecycle)

section Invariant

variable {Worker : Type} [DecidableEq Worker] [Fintype Worker] {std : Stdlib}
  {describe : LoopException → String} {policy : BindPolicy} {state next : LoopState Worker}
  {worker : Worker}

/-- The lifecycle in which a completed execution stays completed. -/
abbrev learned : Lifecycle executionSchema.isActive :=
  keeping (· = .completed)

/-- The revision has a completed execution. -/
def Learned (revisionId : Uuid) (rows : List LearningExecution) : Prop :=
  ∃ row ∈ rows, row.status = .completed ∧ row.outcomeRevisionId = revisionId

instance (revisionId : Uuid) (rows : List LearningExecution) : Decidable (Learned revisionId rows) :=
  inferInstanceAs (Decidable (∃ _ ∈ _, _))

/-- An execution of the revision is running and alive, and a begin finds it. -/
def FindsAlive (revisionId : Uuid) (now : Timestamp) (rows : List LearningExecution) : Prop :=
  ∃ existing ∈ findActiveExecution revisionId rows,
    existing.status = .running ∧ isStale now existing = false

instance (revisionId : Uuid) (now : Timestamp) (rows : List LearningExecution) :
    Decidable (FindsAlive revisionId now rows) := by
  unfold FindsAlive
  infer_instance

/-- What a step of a run has to respect. -/
def OnceAllowed (policy : BindPolicy) (state : LoopState Worker) : LoopAction Worker → Prop
  | .begin _ revision _ _ => ¬Learned revision.id state.store.executions.committed
  | .markFailed worker _ => policy = .nullable →
      match state.phases worker with
      | .marking run _ => ∀ row ∈ state.store.executions.committed, row.id = run.execution.id →
          row.status ≠ .completed
      | _ => True
  | .submit .. | .compute .. | .persist .. | .complete .. | .commit _ | .interrupt .. => True

instance (policy : BindPolicy) (state : LoopState Worker) :
    DecidablePred (OnceAllowed policy state)
  | .begin .. => inferInstanceAs (Decidable (¬Learned _ _))
  | .markFailed worker now =>
      match phase : state.phases worker with
      | .marking run exception => decidable_of_iff
          (policy = .nullable → ∀ row ∈ state.store.executions.committed, row.id = run.execution.id →
            row.status ≠ .completed) (by simp only [OnceAllowed, phase])
      | .idle | .begun _ | .persisting .. | .completed .. | .ended _ =>
          isTrue (by simp only [OnceAllowed, phase, implies_true])
  | .submit .. | .compute .. | .persist .. | .complete .. | .commit _ | .interrupt .. => isTrue trivial

/-- The invariant of the runs. -/
structure Once (state : LoopState Worker) : Prop where
  held : Held learned state
  once : ∀ first ∈ state.store.executions.committed, ∀ second ∈ state.store.executions.committed,
    first.status = .completed → second.status = .completed →
      first.outcomeRevisionId = second.outcomeRevisionId → first.id = second.id
  unlearned : ∀ worker run, (state.phases worker).openRun = some run →
    ¬Learned run.revision.id state.store.executions.committed
  own : ∀ worker run, (state.phases worker).openRun = some run → ∀ row ∈ state.store.seen worker,
    row.status = .completed → row.id = run.execution.id ∨
      ∃ old ∈ state.store.executions.committed, old.id = row.id ∧ old.status = .completed

/-- Every completed execution is still there. -/
def KeepsCompleted (before after : LoopState Worker) : Prop :=
  ∀ row ∈ before.store.executions.committed, row.status = .completed →
    ∃ kept ∈ after.store.executions.committed,
      kept.toExecutionContent = row.toExecutionContent ∧ kept.status = .completed

theorem keepsCompleted_of_committed
    (same : next.store.executions.committed = state.store.executions.committed) :
    KeepsCompleted state next := by
  intro row member completed
  rw [same]
  exact ⟨row, member, rfl, completed⟩

theorem Once.of_frame (once : Once state) (held : Held learned next)
    (committed : next.store.executions.committed = state.store.executions.committed)
    (runs : ∀ other run, (next.phases other).openRun = some run →
      ((state.phases other).openRun = some run ∧
        next.store.seen other = state.store.seen other) ∨
      (¬Learned run.revision.id state.store.executions.committed ∧
        ∀ row ∈ next.store.seen other, row.status = .completed → row.id = run.execution.id ∨
          ∃ old ∈ state.store.executions.committed, old.id = row.id ∧ old.status = .completed)) :
    Once next where
  held := held
  once := by
    rw [committed]
    exact once.once
  unlearned := by
    rw [committed]
    intro other run phase
    rcases runs other run phase with ⟨before, -⟩ | ⟨unlearned, -⟩
    · exact once.unlearned other run before
    · exact unlearned
  own := by
    rw [committed]
    intro other run phase
    rcases runs other run phase with ⟨before, seen⟩ | ⟨-, own⟩
    · rw [seen]
      exact once.own other run before
    · exact own

theorem Once.of_same (once : Once state) (held : Held learned next)
    (executions : next.store.executions = state.store.executions)
    (phases : ∀ other run, (next.phases other).openRun = some run →
      (state.phases other).openRun = some run) : Once next := by
  refine once.of_frame held (by rw [executions]) fun other run phase => ?_
  refine .inl ⟨phases other run phase, ?_⟩
  unfold StoreState.seen
  rw [executions]

theorem openRun_setPhase {base : LoopState Worker} {phase : LoopPhase}
    (phases : base.phases = state.phases)
    (matching : ∀ run, phase.openRun = some run → (state.phases worker).openRun = some run) :
    ∀ other run, ((base.setPhase worker phase).phases other).openRun = some run →
      (state.phases other).openRun = some run := by
  intro other run found
  by_cases isWorker : other = worker
  · rw [isWorker, LoopState.setPhase_self] at found
    rw [isWorker]
    exact matching run found
  · rw [LoopState.setPhase_ne isWorker, phases] at found
    exact found

theorem Once.raise (once : Once state) (run : LearningRun) (exception : LoopException) :
    Once (raiseInRun worker run exception state) := by
  refine once.of_frame (once.held.raise run exception) rfl fun other found phase => .inl ?_
  have differ : other ≠ worker := by
    intro same
    rw [same] at phase
    unfold raiseInRun at phase
    rw [LoopState.setPhase_self] at phase
    split at phase <;> cases phase
  refine ⟨?_, Versions.view_of_sessions rfl (Function.update_of_ne differ _ _)⟩
  have others : (raiseInRun worker run exception state).phases other = state.phases other :=
    LoopState.setPhase_ne differ _
  rw [← others]
  exact phase

theorem claimExecution_alive {worker : Worker} {request : ExecutionRequest} {now : Timestamp}
    {fresh : Uuid} {opened : StoreState Worker}
    (alive : FindsAlive request.outcomeRevisionId now (opened.seen worker)) :
    claimExecution policy worker request now fresh opened = some (.ok none, opened) := by
  obtain ⟨existing, found, running, notStale⟩ := alive
  unfold claimExecution
  rw [Option.mem_def.mp found]
  dsimp only
  rw [running, notStale]
  rfl

theorem Once.seen_completed (once : Once state) {run : LearningRun}
    (phase : (state.phases worker).openRun = some run) {row : LearningExecution}
    (seen : row ∈ state.store.seen worker) (completed : row.status = .completed) :
    (row.id = run.execution.id ∧ row.outcomeRevisionId = run.revision.id) ∨
      ∃ old ∈ state.store.executions.committed, old.status = .completed ∧ old.id = row.id ∧
        old.outcomeRevisionId = row.outcomeRevisionId := by
  have owns := once.held.owns worker run phase
  rcases once.own worker run phase row seen completed with isOwn | ⟨old, oldIn, sameId, oldCompleted⟩
  · left
    have content := owns.content once.held.consistent seen isOwn
    refine ⟨isOwn, ?_⟩
    rw [← owns.target]
    exact congrArg ExecutionContent.outcomeRevisionId content
  · right
    have evolves := once.held.consistent.view_content seen oldIn sameId.symm
    exact ⟨old, oldIn, oldCompleted, sameId,
      (congrArg ExecutionContent.outcomeRevisionId evolves.content).symm⟩

/-- **Committing a run keeps the invariant.** -/
theorem Once.commit {run : LearningRun} {outcome : LoopOutcome} (once : Once state)
    (phase : (state.phases worker).openRun = some run) :
    Once (({ state with
      store := commitTransaction worker state.store
      ledger := state.ledger.commit worker }).setPhase worker (.ended outcome)) where
  held := once.held.commit phase
  once := by
    intro first firstIn second secondIn firstCompleted secondCompleted sameRevision
    have unlearned := once.unlearned worker run phase
    rcases once.seen_completed phase firstIn firstCompleted with
      ⟨firstOwn, firstRevision⟩ | ⟨old, oldIn, oldCompleted, oldId, oldRevision⟩
    · rcases once.seen_completed phase secondIn secondCompleted with
        ⟨secondOwn, -⟩ | ⟨past, pastIn, pastCompleted, -, pastRevision⟩
      · rw [firstOwn, secondOwn]
      · refine absurd ⟨past, pastIn, pastCompleted, ?_⟩ unlearned
        rw [pastRevision, ← sameRevision, firstRevision]
    · rcases once.seen_completed phase secondIn secondCompleted with
        ⟨-, secondRevision⟩ | ⟨past, pastIn, pastCompleted, pastId, pastRevision⟩
      · refine absurd ⟨old, oldIn, oldCompleted, ?_⟩ unlearned
        rw [oldRevision, sameRevision, secondRevision]
      · rw [← oldId, ← pastId]
        refine once.once old oldIn past pastIn oldCompleted pastCompleted ?_
        rw [oldRevision, sameRevision, pastRevision]
  unlearned := by
    intro other found otherPhase
    have differ : other ≠ worker := by
      intro same
      rw [same, LoopState.setPhase_self] at otherPhase
      cases otherPhase
    rw [LoopState.setPhase_ne differ] at otherPhase
    rintro ⟨row, seen, completed, revision⟩
    rcases once.seen_completed phase seen completed with
      ⟨-, ownRevision⟩ | ⟨old, oldIn, oldCompleted, -, oldRevision⟩
    · exact once.held.revisions_apart differ.symm phase otherPhase (ownRevision.symm.trans revision)
    · exact once.unlearned other found otherPhase
        ⟨old, oldIn, oldCompleted, oldRevision.trans revision⟩
  own := by
    intro other found otherPhase row seen completed
    have differ : other ≠ worker := by
      intro same
      rw [same, LoopState.setPhase_self] at otherPhase
      cases otherPhase
    rw [LoopState.setPhase_ne differ] at otherPhase
    rcases Versions.commit_view once.held.consistent differ seen with before | committed
    · rcases once.own other found otherPhase row before completed with
        isOwn | ⟨old, oldIn, sameId, oldCompleted⟩
      · exact .inl isOwn
      · obtain ⟨version, versionSeen, evolves⟩ :=
          once.held.consistent.view_evolved worker oldIn
        have ended : executionSchema.isActive (executionSchema.status old) = false := by
          rw [executionSchema_status, oldCompleted]
          rfl
        refine .inr ⟨version, versionSeen, ?_, ?_⟩
        · rw [← sameId]
          exact evolves.rowId
        · rw [← oldCompleted]
          exact (evolves.moved ended).2 oldCompleted
    · exact .inr ⟨row, committed, rfl, completed⟩

theorem commit_keepsCompleted {outcome : LoopOutcome} (once : Once state) :
    KeepsCompleted state (({ state with
      store := commitTransaction worker state.store
      ledger := state.ledger.commit worker }).setPhase worker (.ended outcome)) := by
  intro row member completed
  obtain ⟨version, seen, evolves⟩ := once.held.consistent.view_evolved worker member
  have ended : executionSchema.isActive (executionSchema.status row) = false := by
    rw [executionSchema_status, completed]
    rfl
  refine ⟨version, seen, evolves.content, ?_⟩
  rw [← completed]
  exact (evolves.moved ended).2 completed

theorem learned_fails {status : ExecutionStatus} (notCompleted : status ≠ .completed) :
    learned.may status .failed :=
  fun _ => ⟨rfl, fun completed => absurd completed notCompleted⟩

/-- **Marking an execution as failed keeps the invariant** when the execution is not completed. -/
theorem Once.failed {run : LearningRun} {exception : LoopException} {reason : String}
    {now : Timestamp} {answer : Except DbError (Option LearningExecution)} {outcome : LoopOutcome}
    {store : StoreState Worker} (once : Once state)
    (phase : state.phases worker = .marking run exception)
    (called : failExecution policy worker run.execution.id reason now state.store =
      some (answer, store))
    (kept : policy = .nullable → ∀ row ∈ state.store.executions.committed,
      row.id = run.execution.id → row.status ≠ .completed) :
    Once (({ state with store }).setPhase worker (.ended outcome)) ∧
      KeepsCompleted state (({ state with store }).setPhase worker (.ended outcome)) := by
  have held : Held learned (({ state with store }).setPhase worker (.ended outcome)) :=
    once.held.failed phase called fun nullable row member same =>
      learned_fails (kept nullable row member same)
  have opens : ∀ other run, (((({ state with store }).setPhase worker (.ended outcome)).phases
      other).openRun = some run) → (state.phases other).openRun = some run :=
    openRun_setPhase rfl fun _ none => by cases none
  rcases failExecution_cases called with
    ⟨-, -, executions, -⟩ | ⟨nullable, opened, after, row, began, changed, -, built⟩
  · exact ⟨once.of_same held executions opens,
      keepsCompleted_of_committed (congrArg Versions.State.committed executions)⟩
  · obtain ⟨committed, -⟩ := committed_change once.held.consistent began changed
      (StatusUpdate.apply_content _)
    rw [← built] at committed
    have begun := begun_of_begin began
    have within := changeExecution_within changed
    have older : ∀ row ∈ store.executions.committed, row.status = .completed →
        row ∈ state.store.executions.committed := by
      intro row member completed
      rw [committed] at member
      exact completed_of_change (fun same => by cases same) member completed
    have stays : ∀ row ∈ state.store.executions.committed, row.status = .completed →
        row ∈ store.executions.committed := by
      intro row member completed
      have differ : row.id ≠ run.execution.id := by
        intro same
        exact kept nullable row member same completed
      rw [committed]
      refine List.mem_map.mpr ⟨row, member, ?_⟩
      rw [if_neg differ]
    refine ⟨⟨held, ?_, ?_, ?_⟩, ?_⟩
    · intro first firstIn second secondIn firstCompleted secondCompleted
      exact once.once first (older first firstIn firstCompleted) second
        (older second secondIn secondCompleted) firstCompleted secondCompleted
    · rintro other found otherPhase ⟨row, member, completed, revision⟩
      exact once.unlearned other found (opens other found otherPhase)
        ⟨row, older row member completed, completed, revision⟩
    · intro other found otherPhase row seen completed
      have differ : other ≠ worker := by
        intro same
        rw [same, LoopState.setPhase_self] at otherPhase
        cases otherPhase
      have consistent := begun_consistent began once.held.consistent
      have stillConsistent : Consistent executionSchema learned after.executions := by
        refine changeExecution_consistent consistent changed (StatusUpdate.apply_content _)
          fun row rowSeen same => ?_
        rw [begun.seen] at rowSeen
        exact learned_fails (kept nullable row rowSeen same)
      have executions : store.executions = (commitTransaction worker after).executions :=
        congrArg StoreState.executions built
      have seenAfter : row ∈ (after.executions.commit executionSchema worker).view executionSchema
          other := by
        show row ∈ (commitTransaction worker after).executions.view executionSchema other
        rw [← executions]
        exact seen
      rcases Versions.commit_view stillConsistent differ seenAfter with before | member
      · rw [Versions.view_of_sessions (within.committed.trans begun.committed)
          ((within.others other differ).trans (begun.others other differ))] at before
        rcases once.own other found (opens other found otherPhase) row before completed with
          isOwn | ⟨old, oldIn, sameId, oldCompleted⟩
        · exact .inl isOwn
        · exact .inr ⟨old, stays old oldIn oldCompleted, sameId, oldCompleted⟩
      · refine .inr ⟨row, ?_, rfl, completed⟩
        show row ∈ store.executions.committed
        rw [executions]
        exact member
    · intro row member completed
      exact ⟨row, stays row member completed, rfl, completed⟩

/-- **An allowed step keeps the invariant and the completed executions.** -/
theorem Once.step {action : LoopAction Worker} (once : Once state)
    (allowed : OnceAllowed policy state action)
    (stepped : loopStep std describe policy state action = some next) :
    Once next ∧ KeepsCompleted state next := by
  have completes : ∀ old, learned.may old .completed := fun _ _ => ⟨rfl, Eq.symm⟩
  have kept : ∀ worker now run exception, action = .markFailed worker now →
      state.phases worker = .marking run exception → policy = .nullable →
        ∀ row ∈ state.store.executions.committed, row.id = run.execution.id →
          row.status ≠ .completed := by
    intro worker now run exception isMark phase nullable
    rw [isMark] at allowed
    have guarded := allowed nullable
    rw [phase] at guarded
    exact guarded
  have held : Held learned next := once.held.step stepped completes
    fun worker now run exception isMark phase nullable row member same =>
      learned_fails (kept worker now run exception isMark phase nullable row member same)
  cases action with
  | submit tenantId decisionId actualOutcomes executedAt now fresh =>
      rcases submit_cases stepped with rfl | ⟨-, revision, -, store, -, phases, -⟩
      · exact ⟨once, keepsCompleted_of_committed rfl⟩
      · refine ⟨once.of_same held (by rw [store]) fun other run => ?_,
          keepsCompleted_of_committed (by rw [store])⟩
        rw [phases]
        exact id
  | begin worker revision now fresh =>
      obtain ⟨-, -, opened, began, ended⟩ := begin_cases stepped
      rcases ended with ⟨failure, store, -, executions, -, rfl⟩ |
        ⟨store, -, executions, -, rfl⟩ | ⟨execution, store, claimed, rfl⟩
      · exact ⟨once.of_same held executions (openRun_setPhase rfl fun _ none => by cases none),
          keepsCompleted_of_committed (congrArg Versions.State.committed executions)⟩
      · exact ⟨once.of_same held executions (openRun_setPhase rfl fun _ none => by cases none),
          keepsCompleted_of_committed (congrArg Versions.State.committed executions)⟩
      · have begun := begun_of_begin began
        have within := claimExecution_within claimed
        have committed := within.committed.trans begun.committed
        have claim := claimExecution_claimed begun (begun_consistent began once.held.consistent)
          claimed
        refine ⟨once.of_frame held committed fun other run phase => ?_,
          keepsCompleted_of_committed committed⟩
        by_cases isWorker : other = worker
        · subst isWorker
          rw [LoopState.setPhase_self] at phase
          cases phase
          exact .inr ⟨allowed, fun row seen completed =>
            .inr ⟨row, claim.completed row seen completed, rfl, completed⟩⟩
        · rw [LoopState.setPhase_ne isWorker] at phase
          exact .inl ⟨phase, Versions.view_of_sessions committed
            ((within.others other isWorker).trans (begun.others other isWorker))⟩
  | compute worker reports =>
      obtain ⟨run, phase, ⟨exception, rfl⟩ | ⟨tuples, -, rfl⟩⟩ := compute_cases stepped
      · exact ⟨once.raise run exception, keepsCompleted_of_committed rfl⟩
      · refine ⟨once.of_same held rfl (openRun_setPhase rfl fun _ found => ?_),
          keepsCompleted_of_committed rfl⟩
        rw [phase]
        exact found
  | persist worker now fresh =>
      obtain ⟨run, tuple, rest, persisted, phase, ⟨exception, rfl⟩ | ⟨record, ledger, -, rfl⟩⟩ :=
        persist_cases stepped
      · exact ⟨once.raise run exception, keepsCompleted_of_committed rfl⟩
      · refine ⟨once.of_same held rfl (openRun_setPhase rfl fun _ found => ?_),
          keepsCompleted_of_committed rfl⟩
        rw [phase]
        exact found
  | complete worker now =>
      obtain ⟨run, persisted, row, store, phase, called, rfl⟩ := complete_cases stepped
      have opened : (state.phases worker).openRun = some run := by
        rw [phase]
        rfl
      have within := changeExecution_within called
      have seen := changeExecution_seen once.held.consistent called fun _ => rfl
      refine ⟨once.of_frame held within.committed fun other found otherPhase => ?_,
        keepsCompleted_of_committed within.committed⟩
      by_cases isWorker : other = worker
      · subst isWorker
        rw [LoopState.setPhase_self] at otherPhase
        cases otherPhase
        refine .inr ⟨once.unlearned other run opened, fun row rowSeen completed => ?_⟩
        have rowIn : row ∈ store.seen other := rowSeen
        rw [seen] at rowIn
        obtain ⟨old, oldSeen, rfl⟩ := List.mem_map.mp rowIn
        by_cases chosen : old.id = run.execution.id
        · rw [if_pos chosen]
          exact .inl chosen
        · rw [if_neg chosen] at completed ⊢
          exact once.own other run opened old oldSeen completed
      · rw [LoopState.setPhase_ne isWorker] at otherPhase
        exact .inl ⟨otherPhase, Versions.view_of_sessions within.committed
          (within.others other isWorker)⟩
  | commit worker =>
      obtain ⟨run, persisted, phase, rfl⟩ := commit_cases stepped
      have opened : (state.phases worker).openRun = some run := by
        rw [phase]
        rfl
      exact ⟨once.commit opened, commit_keepsCompleted once⟩
  | interrupt worker text ordinary =>
      obtain ⟨run, phase, rfl⟩ := interrupt_cases stepped
      exact ⟨once.raise run _, keepsCompleted_of_committed rfl⟩
  | markFailed worker now =>
      obtain ⟨run, exception, answer, store, phase, called, rfl⟩ := markFailed_cases stepped
      exact once.failed phase called (kept worker now run exception rfl phase)

/-! ### Running executions -/

/-- The run whose execution a worker computes. -/
def LoopPhase.computing : LoopPhase → Option LearningRun
  | begun run | persisting run _ _ => some run
  | idle | completed .. | marking .. | ended _ => none

/-- Every running execution is the one that a worker computes in its transaction. -/
structure NoneRunning (state : LoopState Worker) : Prop where
  committed : ∀ row ∈ state.store.executions.committed, row.status ≠ .running
  own : ∀ worker, ∀ row ∈ state.store.seen worker, row.status = .running →
    ∃ run, (state.phases worker).computing = some run ∧ row.id = run.execution.id

theorem NoneRunning.of_worker (worker : Worker) (calm : NoneRunning state)
    (committed : ∀ row ∈ next.store.executions.committed, row.status ≠ .running)
    (others : ∀ other, other ≠ worker → next.phases other = state.phases other ∧
      ∀ row ∈ next.store.seen other, row ∈ state.store.seen other ∨ row.status ≠ .running)
    (own : ∀ row ∈ next.store.seen worker, row.status = .running →
      ∃ run, (next.phases worker).computing = some run ∧ row.id = run.execution.id) :
    NoneRunning next where
  committed := committed
  own := by
    intro other row seen running
    by_cases isWorker : other = worker
    · rw [isWorker] at seen ⊢
      exact own row seen running
    · obtain ⟨phase, rows⟩ := others other isWorker
      rw [phase]
      exact calm.own other row ((rows row seen).resolve_right (not_not.mpr running)) running

theorem NoneRunning.of_same (calm : NoneRunning state)
    (executions : next.store.executions = state.store.executions)
    (phases : ∀ worker run, (state.phases worker).computing = some run →
      (next.phases worker).computing = some run) : NoneRunning next where
  committed := by
    rw [executions]
    exact calm.committed
  own := by
    intro worker row seen running
    unfold StoreState.seen at seen
    rw [executions] at seen
    obtain ⟨run, computing, isRun⟩ := calm.own worker row seen running
    exact ⟨run, phases worker run computing, isRun⟩

theorem NoneRunning.raise (calm : NoneRunning state) (run : LearningRun) (exception : LoopException) :
    NoneRunning (raiseInRun worker run exception state) := by
  refine calm.of_worker worker calm.committed (fun other differ => ⟨?_, ?_⟩) ?_
  · exact LoopState.setPhase_ne differ _
  · intro row seen
    have same : (raiseInRun worker run exception state).store.seen other = state.store.seen other :=
      Versions.view_of_sessions rfl (Function.update_of_ne differ _ _)
    exact .inl (same ▸ seen)
  · intro row seen running
    have closed : (raiseInRun worker run exception state).store.executions.sessions worker = none :=
      Function.update_self _ _ _
    unfold StoreState.seen at seen
    rw [Versions.view_closed closed] at seen
    exact absurd running (calm.committed row seen)

theorem claimed_running {opened store : StoreState Worker} {request : ExecutionRequest} {now : Timestamp}
    {fresh : Uuid} {lock : Option String} {execution row : LearningExecution}
    {lifecycle : Lifecycle executionSchema.isActive}
    (begun : Begun worker lock state.store opened)
    (consistent : Consistent executionSchema lifecycle opened.executions)
    (committed : ∀ row ∈ state.store.executions.committed, row.status ≠ .running)
    (claimed : claimExecution policy worker request now fresh opened = some (.ok (some execution), store))
    (seen : row ∈ store.seen worker) (running : row.status = .running) : row.id = execution.id := by
  rcases claimExecution_cases claimed with
    ⟨existing, -, -, -, none, -⟩ | ⟨existing, changed, found, -, -, same, change⟩ |
      ⟨existing, old, created, middle, found, isRunning, -, -, -⟩ | ⟨created, -, same, inserted⟩
  · cases none
  · cases same
    rw [changeExecution_seen consistent change (StatusUpdate.apply_content _), begun.seen] at seen
    obtain ⟨old, oldIn, rfl⟩ := List.mem_map.mp seen
    by_cases chosen : old.id = existing.id
    · rw [if_pos chosen]
      exact chosen
    · rw [if_neg chosen] at running
      exact absurd running (committed old oldIn)
  · rw [begun.seen] at found
    exact absurd isRunning (committed existing (findActiveExecution_some found).1)
  · cases same
    rw [insertExecution_seen inserted, begun.seen] at seen
    rcases List.mem_append.mp seen with old | new
    · exact absurd running (committed row old)
    · rw [List.mem_singleton.mp new]

/-- **The loop commits no running execution.** -/
theorem NoneRunning.step {action : LoopAction Worker} {lifecycle : Lifecycle executionSchema.isActive}
    (calm : NoneRunning state) (held : Held lifecycle state)
    (stepped : loopStep std describe policy state action = some next)
    (fails : ∀ worker now run exception, action = .markFailed worker now →
      state.phases worker = .marking run exception → policy = .nullable →
        ∀ row ∈ state.store.executions.committed, row.id = run.execution.id →
          lifecycle.may row.status .failed) : NoneRunning next := by
  have ended : ∀ (base : LoopState Worker) (worker : Worker) (phase : LoopPhase),
      base.phases = state.phases → (state.phases worker).computing = none →
        ∀ other run, (state.phases other).computing = some run →
          ((base.setPhase worker phase).phases other).computing = some run := by
    intro base worker phase same closed other run computing
    have differ : other ≠ worker := by
      rintro rfl
      rw [closed] at computing
      cases computing
    rw [LoopState.setPhase_ne differ, same]
    exact computing
  have idle : ∀ worker, (state.phases worker).openRun = none → (state.phases worker).computing = none := by
    intro worker closed
    cases phase : state.phases worker with
    | begun run | persisting run _ _ =>
        rw [phase] at closed
        cases closed
    | _ => rfl
  cases action with
  | submit tenantId decisionId actualOutcomes executedAt now fresh =>
      rcases submit_cases stepped with rfl | ⟨-, revision, -, store, -, phases, -⟩
      · exact calm
      · exact calm.of_same (by rw [store]) fun worker run => by rw [phases]; exact id
  | begin worker revision now fresh =>
      obtain ⟨-, closed, opened, began, ends⟩ := begin_cases stepped
      rcases ends with ⟨failure, store, -, executions, -, rfl⟩ |
        ⟨store, -, executions, -, rfl⟩ | ⟨execution, store, claimed, rfl⟩
      · exact calm.of_same executions (ended { state with store } worker _ rfl (idle worker closed))
      · exact calm.of_same executions (ended { state with store } worker _ rfl (idle worker closed))
      · have begun := begun_of_begin began
        have within := claimExecution_within claimed
        have committed := within.committed.trans begun.committed
        refine calm.of_worker worker ?_ (fun other differ => ⟨?_, ?_⟩) ?_
        · show ∀ row ∈ store.executions.committed, _
          rw [committed]
          exact calm.committed
        · exact LoopState.setPhase_ne differ _
        · intro row seen
          have same : store.seen other = state.store.seen other := Versions.view_of_sessions committed
            ((within.others other differ).trans (begun.others other differ))
          exact .inl (same ▸ seen)
        · intro row seen running
          rw [LoopState.setPhase_self]
          exact ⟨_, rfl, claimed_running begun (begun_consistent began held.consistent) calm.committed
            claimed seen running⟩
  | compute worker reports =>
      obtain ⟨run, phase, ⟨exception, rfl⟩ | ⟨tuples, -, rfl⟩⟩ := compute_cases stepped
      · exact calm.raise run exception
      · refine calm.of_same rfl fun other found computing => ?_
        by_cases isWorker : other = worker
        · rw [isWorker, LoopState.setPhase_self]
          rw [isWorker, phase] at computing
          exact computing
        · rw [LoopState.setPhase_ne isWorker]
          exact computing
  | persist worker now fresh =>
      obtain ⟨run, tuple, rest, persisted, phase, ⟨exception, rfl⟩ | ⟨record, ledger, -, rfl⟩⟩ :=
        persist_cases stepped
      · exact calm.raise run exception
      · refine calm.of_same rfl fun other found computing => ?_
        by_cases isWorker : other = worker
        · rw [isWorker, LoopState.setPhase_self]
          rw [isWorker, phase] at computing
          exact computing
        · rw [LoopState.setPhase_ne isWorker]
          exact computing
  | complete worker now =>
      obtain ⟨run, persisted, changed, store, phase, called, rfl⟩ := complete_cases stepped
      have within := changeExecution_within called
      refine calm.of_worker worker ?_ (fun other differ => ⟨?_, ?_⟩) ?_
      · show ∀ row ∈ store.executions.committed, _
        rw [within.committed]
        exact calm.committed
      · exact LoopState.setPhase_ne differ _
      · intro row seen
        have same : store.seen other = state.store.seen other :=
          Versions.view_of_sessions within.committed (within.others other differ)
        exact .inl (same ▸ seen)
      · intro row seen running
        have rowSeen : row ∈ store.seen worker := seen
        rw [changeExecution_seen held.consistent called fun _ => rfl] at rowSeen
        obtain ⟨old, oldSeen, rfl⟩ := List.mem_map.mp rowSeen
        by_cases chosen : old.id = run.execution.id
        · rw [if_pos chosen] at running
          cases running
        · rw [if_neg chosen] at running
          obtain ⟨found, computing, isFound⟩ := calm.own worker old oldSeen running
          rw [phase] at computing
          cases computing
          exact absurd isFound chosen
  | commit worker =>
      obtain ⟨run, persisted, phase, rfl⟩ := commit_cases stepped
      have quiet : ∀ row ∈ state.store.seen worker, row.status ≠ .running := by
        intro row seen running
        obtain ⟨found, computing, -⟩ := calm.own worker row seen running
        rw [phase] at computing
        cases computing
      refine calm.of_worker worker quiet (fun other differ => ⟨?_, ?_⟩) ?_
      · exact LoopState.setPhase_ne differ _
      · intro row seen
        exact (Versions.commit_view held.consistent differ seen).imp_right (quiet row)
      · intro row seen running
        have closed : (commitTransaction worker state.store).executions.sessions worker = none :=
          Function.update_self _ _ _
        have view : (commitTransaction worker state.store).seen worker =
            (commitTransaction worker state.store).executions.committed := Versions.view_closed closed
        have inTable : row ∈ (commitTransaction worker state.store).executions.committed := view ▸ seen
        exact absurd running (quiet row inTable)
  | interrupt worker text ordinary =>
      obtain ⟨run, phase, rfl⟩ := interrupt_cases stepped
      exact calm.raise run _
  | markFailed worker now =>
      obtain ⟨run, exception, answer, store, phase, called, rfl⟩ := markFailed_cases stepped
      have computes : (state.phases worker).computing = none := by
        rw [phase]
        rfl
      rcases failExecution_cases called with
        ⟨-, -, executions, -⟩ | ⟨nullable, opened, after, row, began, changed, -, rfl⟩
      · exact calm.of_same executions (ended { state with store } worker _ rfl computes)
      · have begun := begun_of_begin began
        have within := changeExecution_within changed
        obtain ⟨committed, sessions⟩ := committed_change held.consistent began changed
          (StatusUpdate.apply_content _)
        have quiet : ∀ row ∈ (commitTransaction worker after).executions.committed,
            row.status ≠ .running := by
          intro row member
          rw [committed] at member
          obtain ⟨old, oldIn, rfl⟩ := List.mem_map.mp member
          split
          · rintro ⟨⟩
          · exact calm.committed old oldIn
        have consistent : Consistent executionSchema lifecycle after.executions := by
          refine changeExecution_consistent (begun_consistent began held.consistent) changed
            (StatusUpdate.apply_content _) fun row rowSeen same => ?_
          rw [begun.seen] at rowSeen
          exact fails worker now run exception rfl phase nullable row rowSeen same
        refine calm.of_worker worker quiet (fun other differ => ⟨?_, ?_⟩) ?_
        · exact LoopState.setPhase_ne differ _
        · intro row seen
          rcases Versions.commit_view consistent differ seen with before | inTable
          · rw [Versions.view_of_sessions (within.committed.trans begun.committed)
              ((within.others other differ).trans (begun.others other differ))] at before
            exact .inl before
          · exact .inr (quiet row inTable)
        · intro row seen running
          have closed : (commitTransaction worker after).executions.sessions worker = none := by
            rw [sessions]
            exact begun.closed
          have view : (commitTransaction worker after).seen worker =
              (commitTransaction worker after).executions.committed := Versions.view_closed closed
          have inTable : row ∈ (commitTransaction worker after).executions.committed := view ▸ seen
          exact absurd running (quiet row inTable)

theorem NoneRunning.not_skipped {revision : OutcomeRevision} {now : Timestamp} {fresh : Uuid}
    (calm : NoneRunning state)
    (began : loopStep std describe policy state (.begin worker revision now fresh) = some next) :
    next.phases worker ≠ .ended .skipped := by
  intro skipped
  obtain ⟨-, -, opened, transaction, ends⟩ := begin_cases began
  rcases ends with ⟨failure, store, -, -, -, rfl⟩ | ⟨store, ⟨after, claimed⟩, -⟩ |
    ⟨execution, store, -, rfl⟩
  · rw [LoopState.setPhase_self] at skipped
    cases skipped
  · rcases claimExecution_cases claimed with ⟨existing, found, running, -⟩ |
      ⟨existing, row, -, -, -, same, -⟩ | ⟨existing, old, row, middle, -, -, same, -⟩ | ⟨row, -, same, -⟩
    · rw [(begun_of_begin transaction).seen] at found
      exact calm.committed existing (findActiveExecution_some found).1 running
    · cases same
    · cases same
    · cases same
  · rw [LoopState.setPhase_self] at skipped
    cases skipped

end Invariant

/-! ### Runs -/

section Runs

variable {Worker : Type} [DecidableEq Worker] [Fintype Worker] {std : Stdlib}
  {describe : LoopException → String} {policy : BindPolicy}

/-- A database that no worker uses, in which no revision was learned twice. -/
structure Admissible (state : LoopState Worker) : Prop extends Unused state where
  completedOnce : ∀ first ∈ state.store.executions.committed,
    ∀ second ∈ state.store.executions.committed, first.status = .completed →
      second.status = .completed → first.outcomeRevisionId = second.outcomeRevisionId →
        first.id = second.id

theorem Admissible.once {state : LoopState Worker} (admissible : Admissible state) :
    Once state where
  held := admissible.toUnused.held learned
  once := admissible.completedOnce
  unlearned := by
    intro worker run phase
    rw [(admissible.unused worker).1] at phase
    cases phase
  own := by
    intro worker run phase
    rw [(admissible.unused worker).1] at phase
    cases phase

/-- **An allowed run** from a database without a running execution commits none. -/
theorem Admissible.calm {initial state : LoopState Worker} (admissible : Admissible initial)
    (quiet : ∀ row ∈ initial.store.executions.committed, row.status ≠ .running)
    (reached : (loopSystem Worker std describe policy).Reachable (OnceAllowed policy) initial state) :
    Once state ∧ NoneRunning state := by
  induction reached with
  | refl =>
      refine ⟨admissible.once, quiet, fun other row seen running => absurd running ?_⟩
      unfold StoreState.seen at seen
      rw [Versions.view_closed (admissible.unused other).2.1] at seen
      exact quiet row seen
  | tail _ moved holds =>
      obtain ⟨action, allowed, stepped⟩ := moved
      refine ⟨(holds.1.step allowed stepped).1, holds.2.step holds.1.held stepped ?_⟩
      intro other instant run exception isMark phase nullable row member same
      rw [isMark] at allowed
      have guarded := allowed nullable
      rw [phase] at guarded
      exact learned_fails (guarded row member same)

/-- The completed executions of a revision. -/
def completedCount (revisionId : Uuid) (rows : List LearningExecution) : Nat :=
  rows.countP fun row => decide (row.status = .completed) && decide (row.outcomeRevisionId = revisionId)

theorem Once.count_le_one {state : LoopState Worker} (once : Once state) (revisionId : Uuid) :
    completedCount revisionId state.store.executions.committed ≤ 1 := by
  have ids := once.held.consistent.ids
  have index : Table.UniqueOn executionSchema.rowGroup
      (fun row => decide (row.status = .completed)) state.store.executions.committed := by
    refine List.Nodup.map_on ?_ (ids.of_map.filter _)
    intro first firstIn second secondIn sameRevision
    obtain ⟨firstMember, firstCompleted⟩ := List.mem_filter.mp firstIn
    obtain ⟨secondMember, secondCompleted⟩ := List.mem_filter.mp secondIn
    exact Versions.eq_of_rowId ids firstMember secondMember
      (once.once first firstMember second secondMember (of_decide_eq_true firstCompleted)
        (of_decide_eq_true secondCompleted) sameRevision)
  exact index.count_le_one revisionId

/-- **A revision is learned at most once.** In every state of a run whose steps respect `OnceAllowed`,
from any database that no worker uses, each revision has at most one completed execution, and a further step
keeps the completed executions. A begin for a learned revision, which `OnceAllowed` leaves out, is never skipped
where the run started without a running execution. -/
theorem revision_learned_once (std : Stdlib) (describe : LoopException → String)
    (policy : BindPolicy) (initial state : LoopState Worker) (admissible : Admissible initial)
    (reached : (loopSystem Worker std describe policy).Reachable (OnceAllowed policy) initial state) :
    (∀ revisionId, completedCount revisionId state.store.executions.committed ≤ 1) ∧
      (∀ action next, OnceAllowed policy state action →
        loopStep std describe policy state action = some next → KeepsCompleted state next) ∧
      ((∀ row ∈ initial.store.executions.committed, row.status ≠ .running) →
        ∀ worker revision now fresh next, Learned revision.id state.store.executions.committed →
          loopStep std describe policy state (.begin worker revision now fresh) = some next →
            next.phases worker ≠ .ended .skipped) := by
  have once : Once state := by
    refine reached.invariant admissible.once fun before action after holds allowed moved => ?_
    exact (holds.step allowed moved).1
  refine ⟨once.count_le_one, fun action next allowed stepped => (once.step allowed stepped).2, ?_⟩
  intro quiet worker revision now fresh next _ began
  exact (admissible.calm quiet reached).2.not_skipped began

/-! ### Two runs -/

theorem admissible_freshLoop (decision : Decision) : Admissible (freshLoop decision) where
  toUnused := unused_freshLoop decision
  completedOnce := by
    rintro _ ⟨⟩

/-- The executions of a state. -/
def LoopState.attempts (state : LoopState (Fin 1)) : List (Uuid × ExecutionStatus) :=
  state.store.executions.committed.map fun row => (row.id, row.status)

/-- Two revisions: the first run of the first one is interrupted, the next one completes, and so does a run of the
second one. -/
def learnedInTurn : List (LoopAction (Fin 1)) :=
  .submit 1 2 [] none 0 7 :: .begin 0 firstRevision 1 11 :: .interrupt 0 "timeout" true :: .markFailed 0 2 ::
    (oneRun firstRevision 21 ++
      .submit 1 2 [] none 4 8 :: oneRun { firstRevision with id := 8, createdAt := 4 } 31)

/-- Each of the two revisions has one completed execution. -/
theorem revision_learned_once_single :
    ∃ state : LoopState (Fin 1), state.attempts = [(21, .completed), (31, .completed)] ∧
      (∀ revisionId, completedCount revisionId state.store.executions.committed ≤ 1) ∧
      ∀ revision now fresh next, Learned revision.id state.store.executions.committed →
        loopStep .constant (fun _ => "") .required state (.begin 0 revision now fresh) = some next →
          next.phases 0 ≠ .ended .skipped := by
  have executed : ((loopSystem (Fin 1) .constant (fun _ => "") .required).guardedRun
      (OnceAllowed .required) (freshLoop plainDecision) learnedInTurn).map LoopState.attempts =
        some [(21, .completed), (31, .completed)] := by
    decide +kernel
  obtain ⟨state, ran, attempts⟩ := Option.map_eq_some_iff.mp executed
  have reached := Transition.System.guardedRun_reachable ran
  obtain ⟨once, -, begins⟩ := revision_learned_once .constant (fun _ => "") .required
    (freshLoop plainDecision) state (admissible_freshLoop _) reached
  exact ⟨state, attempts, once, begins (by rintro _ ⟨⟩) 0⟩

/-- The second run for a learned revision is not skipped, and completes a second execution. -/
theorem revision_learned_twice :
    ∃ state : LoopState (Fin 1),
      (loopSystem (Fin 1) .constant (fun _ => "") .required).Reachable (fun _ _ => True)
        (freshLoop plainDecision) state ∧
      state.attempts = [(11, .completed), (21, .completed)] ∧
      ¬completedCount firstRevision.id state.store.executions.committed ≤ 1 := by
  have executed : ((loopSystem (Fin 1) .constant (fun _ => "") .required).guardedRun
      (fun _ _ => True) (freshLoop plainDecision)
      (.submit 1 2 [] none 0 7 :: (oneRun firstRevision 11 ++ oneRun firstRevision 21))).map
        (fun state => (state.attempts,
          completedCount firstRevision.id state.store.executions.committed)) =
        some ([(11, .completed), (21, .completed)], 2) := by
    decide +kernel
  obtain ⟨state, ran, summary⟩ := Option.map_eq_some_iff.mp executed
  obtain ⟨attempts, count⟩ := Prod.mk.inj summary
  refine ⟨state, Transition.System.guardedRun_reachable ran, attempts, ?_⟩
  rw [count]
  decide

end Runs

end CosMonitor
