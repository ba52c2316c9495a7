/-
**What the steps of the learning loop do.**

* `begin_cases`, `compute_cases` and the others: one inversion lemma for each step;
* `Held`: the executions are consistent, and every open run holds the advisory lock of its decision and
  sees its own execution; a worker that is in no run has no transaction;
* `Held.step`: every step keeps it, under a lifecycle that allows the worker to mark its execution as
  failed;
* `freshLoop`, `oneRun`: the concrete runs of the results about runs.
-/

import CosMonitor.Learning.ExecutionRuns
import CosMonitor.Memory.LearningLoop

set_option linter.unusedSectionVars false

namespace CosMonitor

open Versions (Consistent Lifecycle)

section Inversion

variable {Worker : Type} [DecidableEq Worker] [Fintype Worker] {std : Stdlib}
  {describe : LoopException → String} {policy : BindPolicy} {state next : LoopState Worker}
  {worker other : Worker} {now : Timestamp} {fresh : Uuid}

@[simp] theorem LoopState.setPhase_self (phase : LoopPhase) :
    (state.setPhase worker phase).phases worker = phase := by
  unfold setPhase
  exact Function.update_self _ _ _

theorem LoopState.setPhase_ne (differ : other ≠ worker) (phase : LoopPhase) :
    (state.setPhase worker phase).phases other = state.phases other := by
  unfold setPhase
  exact Function.update_of_ne differ _ _

theorem LoopPhase.ended_of_outcome {phase : LoopPhase} {outcome : LoopOutcome}
    (ended : phase.outcome = some outcome) : phase = .ended outcome := by
  cases phase with
  | ended found => exact congrArg _ (Option.some.inj ended)
  | idle => cases ended
  | begun run => cases ended
  | persisting run remaining persisted => cases ended
  | completed run persisted => cases ended
  | marking run exception => cases ended

/-! ### Inversion -/

theorem submit_cases {tenantId decisionId : Uuid} {actualOutcomes : List Json}
    {executedAt : Option Timestamp}
    (stepped : loopStep std describe policy state
      (.submit tenantId decisionId actualOutcomes executedAt now fresh) = some next) :
    next = state ∨ (∀ revision ∈ state.store.revisions, revision.id ≠ fresh) ∧
      ∃ revision : OutcomeRevision, revision.id = fresh ∧
        next.store = { state.store with revisions := state.store.revisions ++ [revision] } ∧
        next.ledger = state.ledger ∧ next.phases = state.phases ∧
        next.decisions = state.decisions.map fun decision =>
          if decision.id = decisionId ∧ decision.tenantId = tenantId then
            { decision with
              actualOutcomes := some actualOutcomes
              outcomeStatus := "observed"
              executedAt := executedAt <|> decision.executedAt }
          else decision := by
  unfold loopStep submitOutcomesWithRevision at stepped
  dsimp only at stepped
  cases bound : jsonb (.arr actualOutcomes) with
  | error failure =>
      rw [bound] at stepped
      exact .inl (Option.some.inj stepped).symm
  | ok stored =>
      rw [bound] at stepped
      dsimp only at stepped
      by_cases taken : ∃ revision ∈ state.store.revisions, revision.id = fresh
      · rw [if_pos taken] at stepped
        exact .inl (Option.some.inj stepped).symm
      · rw [if_neg taken] at stepped
        by_cases missing : (findDecision tenantId decisionId state.decisions).isNone
        · rw [if_pos missing] at stepped
          exact .inl (Option.some.inj stepped).symm
        · rw [if_neg missing] at stepped
          push Not at taken
          rw [← Option.some.inj stepped]
          exact .inr ⟨taken, _, rfl, rfl, rfl, rfl, rfl⟩

/-- **A begin** raised, found nothing to do, or has opened a run. -/
theorem begin_cases {revision : OutcomeRevision}
    (stepped : loopStep std describe policy state (.begin worker revision now fresh) = some next) :
    revision ∈ state.store.revisions ∧ (state.phases worker).openRun = none ∧
      ∃ opened, beginTransaction worker (some (lockKey revision.tenantId revision.decisionId))
          state.store = some opened ∧
        ((∃ failure store, (∃ error after, claimExecution policy worker revision.request now fresh
              opened = some (.error error, after)) ∧
            store.executions = state.store.executions ∧
            store.revisions = state.store.revisions ∧
            next = ({ state with store }).setPhase worker (.ended (.raised failure failure))) ∨
          (∃ store, (∃ after, claimExecution policy worker revision.request now fresh opened =
              some (.ok none, after)) ∧
            store.executions = state.store.executions ∧
            store.revisions = state.store.revisions ∧
            next = ({ state with store }).setPhase worker (.ended .skipped)) ∨
          ∃ execution store, claimExecution policy worker revision.request now fresh opened =
              some (.ok (some execution), store) ∧
            next = ({ state with store }).setPhase worker (.begun { revision, execution })) := by
  unfold loopStep at stepped
  dsimp only at stepped
  split at stepped
  swap
  · cases stepped
  rename_i submitted
  have run : (state.phases worker).openRun = none ∧
      beginRun policy worker revision now fresh state = some next := by
    cases phase : state.phases worker with
    | idle =>
        rw [phase] at stepped
        exact ⟨rfl, stepped⟩
    | ended outcome =>
        rw [phase] at stepped
        exact ⟨rfl, stepped⟩
    | begun run =>
        rw [phase] at stepped
        cases stepped
    | persisting run remaining persisted =>
        rw [phase] at stepped
        cases stepped
    | completed run persisted =>
        rw [phase] at stepped
        cases stepped
    | marking run exception =>
        rw [phase] at stepped
        cases stepped
  obtain ⟨closed, ran⟩ := run
  refine ⟨submitted, closed, ?_⟩
  unfold beginRun at ran
  cases called : beginPhase2 policy worker revision.request now fresh state.store with
  | none =>
      rw [called] at ran
      cases ran
  | some reply =>
      obtain ⟨answer, store⟩ := reply
      rw [called] at ran
      unfold beginPhase2 at called
      split at called
      · cases called
      rename_i opened began
      have begun := begun_of_begin began
      refine ⟨opened, began, ?_⟩
      split at called
      · cases called
      · rename_i failure after claimed
        cases called
        have within := claimExecution_within claimed
        exact .inl ⟨_, rollbackTransaction worker after, ⟨failure, after, claimed⟩,
          within.rollback.trans begun.rollback, within.revisions.trans begun.revisions,
          (Option.some.inj ran).symm⟩
      · rename_i execution after claimed
        cases called
        have within := claimExecution_within claimed
        cases execution with
        | none =>
            exact .inr (.inl ⟨rollbackTransaction worker store, ⟨_, claimed⟩,
              within.rollback.trans begun.rollback, within.revisions.trans begun.revisions,
              (Option.some.inj ran).symm⟩)
        | some execution => exact .inr (.inr ⟨execution, _, claimed, (Option.some.inj ran).symm⟩)

theorem compute_cases {reports : LearningReports}
    (stepped : loopStep std describe policy state (.compute worker reports) = some next) :
    ∃ run, state.phases worker = .begun run ∧
      ((∃ exception, next = raiseInRun worker run exception state) ∨
        ∃ tuples, computeSignals std run.revision.tenantId run.revision.decisionId reports
            state.decisions = .ok tuples ∧
          next = state.setPhase worker (.persisting run tuples [])) := by
  unfold loopStep at stepped
  dsimp only at stepped
  split at stepped
  · rename_i run phase
    refine ⟨run, phase, ?_⟩
    split at stepped
    · exact .inl ⟨_, (Option.some.inj stepped).symm⟩
    · rename_i tuples computed
      exact .inr ⟨tuples, computed, (Option.some.inj stepped).symm⟩
  all_goals cases stepped

theorem persist_cases
    (stepped : loopStep std describe policy state (.persist worker now fresh) = some next) :
    ∃ run tuple rest persisted, state.phases worker = .persisting run (tuple :: rest) persisted ∧
      ((∃ exception, next = raiseInRun worker run exception state) ∨
        ∃ record ledger, persistSignal std worker run tuple now fresh state =
            some (.ok (some record), ledger) ∧
          next = ({ state with ledger }).setPhase worker
            (.persisting run rest (persisted ++ [record]))) := by
  unfold loopStep at stepped
  dsimp only at stepped
  split at stepped
  · rename_i run tuple rest persisted phase
    refine ⟨run, tuple, rest, persisted, phase, ?_⟩
    split at stepped
    · cases stepped
    · exact .inl ⟨_, (Option.some.inj stepped).symm⟩
    · exact .inl ⟨_, (Option.some.inj stepped).symm⟩
    · rename_i record ledger called
      exact .inr ⟨record, ledger, called, (Option.some.inj stepped).symm⟩
  all_goals cases stepped

theorem complete_cases
    (stepped : loopStep std describe policy state (.complete worker now) = some next) :
    ∃ run persisted row store, state.phases worker = .persisting run [] persisted ∧
      completeExecutionInSession worker run.execution.id persisted.length now state.store =
        some (row, store) ∧
      next = ({ state with store }).setPhase worker (.completed run persisted) := by
  unfold loopStep at stepped
  dsimp only at stepped
  split at stepped
  · rename_i run persisted phase
    obtain ⟨⟨row, store⟩, called, built⟩ := Option.map_eq_some_iff.mp stepped
    exact ⟨run, persisted, row, store, phase, called, built.symm⟩
  all_goals cases stepped

theorem commit_cases
    (stepped : loopStep std describe policy state (.commit worker) = some next) :
    ∃ run persisted, state.phases worker = .completed run persisted ∧
      next = ({ state with
        store := commitTransaction worker state.store
        ledger := state.ledger.commit worker }).setPhase worker
          (.ended (.completed run.execution.id persisted)) := by
  unfold loopStep at stepped
  dsimp only at stepped
  split at stepped
  · rename_i run persisted phase
    exact ⟨run, persisted, phase, (Option.some.inj stepped).symm⟩
  all_goals cases stepped

theorem interrupt_cases {text : String} {ordinary : Bool}
    (stepped : loopStep std describe policy state (.interrupt worker text ordinary) = some next) :
    ∃ run, (state.phases worker).openRun = some run ∧
      next = raiseInRun worker run (.outside text ordinary) state := by
  obtain ⟨run, phase, built⟩ := Option.map_eq_some_iff.mp stepped
  exact ⟨run, phase, built.symm⟩

theorem markFailed_cases
    (stepped : loopStep std describe policy state (.markFailed worker now) = some next) :
    ∃ run exception answer store, state.phases worker = .marking run exception ∧
      failExecution policy worker run.execution.id (exception.text describe) now state.store =
        some (answer, store) ∧
      next = ({ state with store }).setPhase worker (.ended (.raised exception
        (match answer with
        | .error failure => .database failure
        | .ok _ => exception))) := by
  unfold loopStep at stepped
  dsimp only at stepped
  split at stepped
  · rename_i run exception phase
    split at stepped
    · cases stepped
    · rename_i failure store called
      exact ⟨run, exception, _, store, phase, called, (Option.some.inj stepped).symm⟩
    · rename_i row store called
      exact ⟨run, exception, _, store, phase, called, (Option.some.inj stepped).symm⟩
  all_goals cases stepped

end Inversion

/-! ### The transactions of the runs -/

section Holding

variable {Worker : Type} [DecidableEq Worker] [Fintype Worker] {std : Stdlib}
  {describe : LoopException → String} {policy : BindPolicy} {state next : LoopState Worker}
  {worker other : Worker} {lifecycle : Lifecycle executionSchema.isActive}

/-- A worker's transaction belongs to its run. -/
structure Owns (state : LoopState Worker) (worker : Worker) (run : LearningRun) : Prop where
  revision : run.revision ∈ state.store.revisions
  lock : state.store.executions.note worker =
    some (some (lockKey run.revision.tenantId run.revision.decisionId))
  row : ∃ row ∈ state.store.seen worker,
    row.toExecutionContent = run.execution.toExecutionContent
  target : run.execution.outcomeRevisionId = run.revision.id

/-- The invariant of the transactions. -/
structure Held (lifecycle : Lifecycle executionSchema.isActive) (state : LoopState Worker) :
    Prop where
  consistent : Consistent executionSchema lifecycle state.store.executions
  owns : ∀ worker run, (state.phases worker).openRun = some run → Owns state worker run
  closed : ∀ worker, (state.phases worker).openRun = none →
    state.store.executions.sessions worker = none ∧ state.ledger.pending worker = []
  revisionIds : (state.store.revisions.map (·.id)).Nodup
  apart : ∀ first second lock, first ≠ second →
    state.store.executions.note first = some (some lock) →
      state.store.executions.note second ≠ some (some lock)

theorem Owns.content {run : LearningRun} (owns : Owns state worker run)
    (consistent : Consistent executionSchema lifecycle state.store.executions)
    {row : LearningExecution} (seen : row ∈ state.store.seen worker)
    (same : row.id = run.execution.id) :
    row.toExecutionContent = run.execution.toExecutionContent := by
  obtain ⟨own, ownSeen, content⟩ := owns.row
  have ownId : own.id = run.execution.id := congrArg ExecutionContent.id content
  have isOwn : row = own :=
    Versions.eq_of_rowId (consistent.view_ids worker) seen ownSeen (same.trans ownId.symm)
  rw [isOwn, content]

theorem Held.revisions_apart (held : Held lifecycle state) {first second : LearningRun}
    (differ : worker ≠ other) (firstOpen : (state.phases worker).openRun = some first)
    (secondOpen : (state.phases other).openRun = some second) :
    first.revision.id ≠ second.revision.id := by
  intro same
  have firstOwns := held.owns worker first firstOpen
  have secondOwns := held.owns other second secondOpen
  have sameRevision : first.revision = second.revision :=
    List.inj_on_of_nodup_map held.revisionIds firstOwns.revision secondOwns.revision same
  have lock := secondOwns.lock
  rw [← sameRevision] at lock
  exact held.apart worker other _ differ firstOwns.lock lock

theorem Owns.of_frame {run : LearningRun} (owns : Owns state other run)
    (revisions : ∀ revision ∈ state.store.revisions, revision ∈ next.store.revisions)
    (committed : next.store.executions.committed = state.store.executions.committed)
    (sessions : next.store.executions.sessions other = state.store.executions.sessions other) :
    Owns next other run where
  revision := revisions _ owns.revision
  lock := by
    unfold Versions.State.note
    rw [sessions]
    exact owns.lock
  row := by
    obtain ⟨row, seen, content⟩ := owns.row
    refine ⟨row, ?_, content⟩
    unfold StoreState.seen
    rw [Versions.view_of_sessions committed sessions]
    exact seen
  target := owns.target

theorem notes_apart_of_closed {executions after : Versions.State Worker LearningExecution (Option String)}
    (sessions : after.sessions = Function.update executions.sessions worker none)
    (apart : ∀ first second lock, first ≠ second → executions.note first = some (some lock) →
      executions.note second ≠ some (some lock)) :
    ∀ first second lock, first ≠ second → after.note first = some (some lock) →
      after.note second ≠ some (some lock) := by
  have kept : ∀ lock who, after.note who = some (some lock) →
      executions.note who = some (some lock) := by
    intro lock who noted
    unfold Versions.State.note at noted ⊢
    rw [sessions] at noted
    by_cases isWorker : who = worker
    · rw [isWorker, Function.update_self] at noted
      cases noted
    · rwa [Function.update_of_ne isWorker] at noted
  intro first second lock differ firstNoted secondNoted
  exact apart first second lock differ (kept lock first firstNoted) (kept lock second secondNoted)

theorem Held.raise (held : Held lifecycle state) (run : LearningRun) (exception : LoopException) :
    Held lifecycle (raiseInRun worker run exception state) := by
  have ends : ((raiseInRun worker run exception state).phases worker).openRun = none := by
    unfold raiseInRun
    rw [LoopState.setPhase_self]
    split <;> rfl
  have others : ∀ other, other ≠ worker →
      (raiseInRun worker run exception state).phases other = state.phases other :=
    fun other differ => LoopState.setPhase_ne differ _
  have closedSession : ∀ other, other ≠ worker →
      (raiseInRun worker run exception state).store.executions.sessions other =
        state.store.executions.sessions other :=
    fun other differ => Function.update_of_ne differ _ _
  refine ⟨held.consistent.rollback, ?_, ?_, held.revisionIds, ?_⟩
  · intro other found phase
    by_cases isWorker : other = worker
    · rw [isWorker, ends] at phase
      cases phase
    · rw [others other isWorker] at phase
      exact (held.owns other found phase).of_frame (fun _ member => member) rfl
        (closedSession other isWorker)
  · intro other phase
    by_cases isWorker : other = worker
    · subst isWorker
      exact ⟨Function.update_self _ _ _, LedgerState.setPending_self []⟩
    · rw [others other isWorker] at phase
      obtain ⟨session, pending⟩ := held.closed other phase
      exact ⟨(closedSession other isWorker).trans session,
        (LedgerState.setPending_ne isWorker []).trans pending⟩
  · exact notes_apart_of_closed rfl held.apart

theorem Held.of_same (held : Held lifecycle state)
    (executions : next.store.executions = state.store.executions)
    (revisions : ∀ revision ∈ state.store.revisions, revision ∈ next.store.revisions)
    (ids : (next.store.revisions.map (·.id)).Nodup)
    (phases : ∀ worker, (next.phases worker).openRun = (state.phases worker).openRun)
    (pending : ∀ worker, (state.phases worker).openRun = none →
      next.ledger.pending worker = state.ledger.pending worker) : Held lifecycle next where
  consistent := by
    rw [executions]
    exact held.consistent
  owns := by
    intro other run phase
    rw [phases] at phase
    exact (held.owns other run phase).of_frame revisions (by rw [executions]) (by rw [executions])
  closed := by
    intro other phase
    rw [phases] at phase
    rw [executions, pending other phase]
    exact held.closed other phase
  revisionIds := ids
  apart := by
    rw [executions]
    exact held.apart

theorem Held.of_own (held : Held lifecycle state) (run : LearningRun)
    (committed : next.store.executions.committed = state.store.executions.committed)
    (others : ∀ other, other ≠ worker →
      next.store.executions.sessions other = state.store.executions.sessions other)
    (revisions : next.store.revisions = state.store.revisions)
    (consistent : Consistent executionSchema lifecycle next.store.executions)
    (ledger : next.ledger = state.ledger)
    (phases : ∀ other, other ≠ worker → next.phases other = state.phases other)
    (phase : (next.phases worker).openRun = some run) (owns : Owns next worker run)
    (free : ∀ other, other ≠ worker → state.store.executions.note other ≠
      some (some (lockKey run.revision.tenantId run.revision.decisionId))) : Held lifecycle next where
  consistent := consistent
  owns := by
    intro other found opened
    by_cases isWorker : other = worker
    · subst isWorker
      rw [phase] at opened
      rw [← Option.some.inj opened]
      exact owns
    · rw [phases other isWorker] at opened
      refine (held.owns other found opened).of_frame ?_ committed (others other isWorker)
      rw [revisions]
      exact fun _ member => member
  closed := by
    intro other closed
    by_cases isWorker : other = worker
    · subst isWorker
      rw [phase] at closed
      cases closed
    · rw [phases other isWorker] at closed
      rw [others other isWorker, ledger]
      exact held.closed other closed
  revisionIds := by
    rw [revisions]
    exact held.revisionIds
  apart := by
    have noteOf : ∀ other, other ≠ worker →
        next.store.executions.note other = state.store.executions.note other := by
      intro other isOther
      unfold Versions.State.note
      rw [others other isOther]
    intro first second lock differ firstNoted secondNoted
    by_cases firstIs : first = worker
    · subst firstIs
      rw [owns.lock] at firstNoted
      rw [noteOf second (Ne.symm differ), ← firstNoted] at secondNoted
      exact free second (Ne.symm differ) secondNoted
    · rw [noteOf first firstIs] at firstNoted
      by_cases secondIs : second = worker
      · subst secondIs
        rw [owns.lock] at secondNoted
        rw [← secondNoted] at firstNoted
        exact free first firstIs firstNoted
      · rw [noteOf second secondIs] at secondNoted
        exact held.apart first second lock differ firstNoted secondNoted

theorem Held.begun {revision : OutcomeRevision} {execution : LearningExecution}
    {opened store : StoreState Worker} {now : Timestamp} {fresh : Uuid} (held : Held lifecycle state)
    (submitted : revision ∈ state.store.revisions)
    (began : beginTransaction worker (some (lockKey revision.tenantId revision.decisionId))
      state.store = some opened)
    (claimed : claimExecution policy worker revision.request now fresh opened =
      some (.ok (some execution), store)) :
    Held lifecycle
      (({ state with store }).setPhase worker (.begun { revision, execution })) := by
  have begun := begun_of_begin began
  have within := claimExecution_within claimed
  have opening := begun_consistent began held.consistent
  have claim := claimExecution_claimed begun opening claimed
  refine held.of_own { revision, execution } (within.committed.trans begun.committed) ?_
    (within.revisions.trans begun.revisions)
    (claimExecution_consistent opening begun.pending claimed) rfl
    (fun other differ => LoopState.setPhase_ne differ _) ?_ ⟨?_, ?_, claim.seen, claim.revision⟩ ?_
  · intro other differ
    exact (within.others other differ).trans (begun.others other differ)
  · rw [LoopState.setPhase_self]
    rfl
  · show revision ∈ store.revisions
    rw [within.revisions, begun.revisions]
    exact submitted
  · show store.executions.note worker = _
    rw [within.note]
    unfold Versions.State.note
    rw [begun.session]
    rfl
  · intro other differ
    exact begun.free (by simp) other differ

theorem Held.completed {run : LearningRun} {persisted : List LearningMemoryRecord}
    {row : Option LearningExecution} {store : StoreState Worker} {count : Nat} {now : Timestamp}
    (held : Held lifecycle state) (phase : (state.phases worker).openRun = some run)
    (called : completeExecutionInSession worker run.execution.id count now state.store =
      some (row, store))
    (moved : ∀ row ∈ state.store.seen worker, row.id = run.execution.id →
      lifecycle.may row.status .completed) :
    Held lifecycle (({ state with store }).setPhase worker (.completed run persisted)) := by
  have owns := held.owns worker run phase
  have within := changeExecution_within called
  have seen := changeExecution_seen held.consistent called fun _ => rfl
  refine held.of_own run within.committed within.others within.revisions
    (changeExecution_consistent held.consistent called (fun _ => rfl) moved) rfl
    (fun other differ => LoopState.setPhase_ne differ _) ?_ ⟨?_, ?_, ?_, owns.target⟩ ?_
  · rw [LoopState.setPhase_self]
    rfl
  · show run.revision ∈ store.revisions
    rw [within.revisions]
    exact owns.revision
  · show store.executions.note worker = _
    rw [within.note]
    exact owns.lock
  · obtain ⟨own, ownSeen, content⟩ := owns.row
    show ∃ row ∈ store.seen worker, _
    rw [seen]
    refine ⟨_, List.mem_map_of_mem ownSeen, ?_⟩
    split
    · exact content
    · exact content
  · intro other differ noted
    exact held.apart worker other _ differ.symm owns.lock noted

theorem Owns.session {run : LearningRun} (owns : Owns state worker run) :
    ∃ session, state.store.executions.sessions worker = some session := by
  obtain ⟨session, opened, -⟩ := Option.map_eq_some_iff.mp owns.lock
  exact ⟨session, opened⟩

theorem Owns.after_commit {run : LearningRun} {store : StoreState Worker}
    (owns : Owns state other run)
    (differ : other ≠ worker)
    (consistent : Consistent executionSchema lifecycle store.executions)
    (after : Consistent executionSchema lifecycle (commitTransaction worker store).executions)
    (committed : store.executions.committed = state.store.executions.committed)
    (sessions : store.executions.sessions other = state.store.executions.sessions other)
    (revisions : next.store.revisions = state.store.revisions)
    (executions : next.store.executions = (commitTransaction worker store).executions) :
    Owns next other run where
  revision := by
    rw [revisions]
    exact owns.revision
  lock := by
    rw [executions]
    show ((Function.update store.executions.sessions worker none) other).map _ = _
    rw [Function.update_of_ne differ, sessions]
    exact owns.lock
  row := by
    obtain ⟨row, seen, content⟩ := owns.row
    unfold StoreState.seen at seen ⊢
    rw [← Versions.view_of_sessions committed sessions] at seen
    obtain ⟨version, versionSeen, same⟩ := Versions.commit_content consistent after differ seen
    rw [executions]
    exact ⟨version, versionSeen, same.trans content⟩
  target := owns.target

theorem Held.commit {run : LearningRun} (held : Held lifecycle state) {outcome : LoopOutcome}
    (phase : (state.phases worker).openRun = some run) :
    Held lifecycle (({ state with
      store := commitTransaction worker state.store
      ledger := state.ledger.commit worker }).setPhase worker (.ended outcome)) := by
  obtain ⟨session, opened⟩ := (held.owns worker run phase).session
  have after := held.consistent.commit opened
  refine ⟨after, ?_, ?_, held.revisionIds, notes_apart_of_closed rfl held.apart⟩
  · intro other found otherPhase
    by_cases isWorker : other = worker
    · subst isWorker
      rw [LoopState.setPhase_self] at otherPhase
      cases otherPhase
    · rw [LoopState.setPhase_ne isWorker] at otherPhase
      exact (held.owns other found otherPhase).after_commit isWorker held.consistent after rfl rfl
        rfl rfl
  · intro other otherPhase
    by_cases isWorker : other = worker
    · subst isWorker
      exact ⟨Function.update_self _ _ _, LedgerState.setPending_self []⟩
    · rw [LoopState.setPhase_ne isWorker] at otherPhase
      obtain ⟨closed, pending⟩ := held.closed other otherPhase
      exact ⟨(Function.update_of_ne isWorker _ _).trans closed,
        (LedgerState.setPending_ne isWorker []).trans pending⟩

theorem Held.openRun_none (held : Held lifecycle state)
    (closed : state.store.executions.sessions worker = none) :
    (state.phases worker).openRun = none := by
  cases phase : (state.phases worker).openRun with
  | none => rfl
  | some run =>
      obtain ⟨session, opened⟩ := (held.owns worker run phase).session
      rw [closed] at opened
      cases opened

/-- **A transaction of its own keeps the invariant** when a worker commits it at once. -/
theorem Held.transacted {lock : Option String} {opened after : StoreState Worker}
    (held : Held lifecycle state)
    (began : beginTransaction worker lock state.store = some opened)
    (within : Within worker opened after)
    (consistent : Consistent executionSchema lifecycle after.executions) :
    Held lifecycle { state with store := commitTransaction worker after } := by
  have begun := begun_of_begin began
  have closed := held.openRun_none begun.closed
  obtain ⟨session, present⟩ : ∃ session, after.executions.sessions worker = some session := by
    have noted := within.note
    unfold Versions.State.note at noted
    rw [begun.session] at noted
    obtain ⟨session, present, -⟩ := Option.map_eq_some_iff.mp noted
    exact ⟨session, present⟩
  have afterCommit := consistent.commit present
  have sessions := begun.commit_sessions within
  have revisions : after.revisions = state.store.revisions :=
    within.revisions.trans begun.revisions
  refine ⟨afterCommit, ?_, ?_, ?_, ?_⟩
  · intro other found otherPhase
    have differ : other ≠ worker := by
      intro same
      rw [same] at otherPhase
      rw [closed] at otherPhase
      cases otherPhase
    exact (held.owns other found otherPhase).after_commit differ consistent afterCommit
      (within.committed.trans begun.committed)
      ((within.others other differ).trans (begun.others other differ)) revisions rfl
  · intro other otherPhase
    show (commitTransaction worker after).executions.sessions other = none ∧ _
    rw [sessions]
    exact held.closed other otherPhase
  · show (after.revisions.map (·.id)).Nodup
    rw [revisions]
    exact held.revisionIds
  · have notes : (commitTransaction worker after).executions.note =
        state.store.executions.note := by
      funext other
      unfold Versions.State.note
      rw [sessions]
    intro first second lock
    show first ≠ second → (commitTransaction worker after).executions.note first = _ →
      (commitTransaction worker after).executions.note second ≠ _
    rw [notes]
    exact held.apart first second lock

theorem Held.failed {run : LearningRun} {exception : LoopException} {reason : String}
    {now : Timestamp} {answer : Except DbError (Option LearningExecution)} {outcome : LoopOutcome}
    {store : StoreState Worker} (held : Held lifecycle state)
    (phase : state.phases worker = .marking run exception)
    (called : failExecution policy worker run.execution.id reason now state.store =
      some (answer, store))
    (moved : policy = .nullable → ∀ row ∈ state.store.executions.committed,
      row.id = run.execution.id → lifecycle.may row.status .failed) :
    Held lifecycle (({ state with store }).setPhase worker (.ended outcome)) := by
  have closed : (state.phases worker).openRun = none := by
    rw [phase]
    rfl
  have phases : ∀ other, ((({ state with store }).setPhase worker (.ended outcome)).phases
      other).openRun = (state.phases other).openRun := by
    intro other
    by_cases isWorker : other = worker
    · subst isWorker
      rw [LoopState.setPhase_self, closed]
      rfl
    · rw [LoopState.setPhase_ne isWorker]
  rcases failExecution_cases called with
    ⟨-, -, executions, revisions⟩ | ⟨nullable, opened, after, row, began, changed, -, built⟩
  · refine held.of_same executions ?_ ?_ phases fun _ _ => rfl
    · show ∀ revision ∈ state.store.revisions, revision ∈ store.revisions
      rw [revisions]
      exact fun _ member => member
    · show (store.revisions.map (·.id)).Nodup
      rw [revisions]
      exact held.revisionIds
  · have begun := begun_of_begin began
    have consistent : Consistent executionSchema lifecycle after.executions := by
      refine changeExecution_consistent (begun_consistent began held.consistent) changed
        (StatusUpdate.apply_content _) fun row seen same => ?_
      rw [begun.seen] at seen
      exact moved nullable row seen same
    rw [built]
    exact (held.transacted began (changeExecution_within changed) consistent).of_same rfl
      (fun _ member => member) (held.transacted began (changeExecution_within changed)
        consistent).revisionIds (by rw [← built]; exact phases) fun _ _ => rfl

/-- **Every step keeps the invariant**, where completing and failing move statuses as the lifecycle
allows. -/
theorem Held.step {action : LoopAction Worker} (held : Held lifecycle state)
    (stepped : loopStep std describe policy state action = some next)
    (completes : ∀ old, lifecycle.may old .completed)
    (fails : ∀ worker now run exception, action = .markFailed worker now →
      state.phases worker = .marking run exception → policy = .nullable →
        ∀ row ∈ state.store.executions.committed, row.id = run.execution.id →
          lifecycle.may row.status .failed) : Held lifecycle next := by
  have sameRevisions : ∀ store : StoreState Worker, store.revisions = state.store.revisions →
      (∀ revision ∈ state.store.revisions, revision ∈ store.revisions) ∧
        (store.revisions.map (·.id)).Nodup := by
    intro store same
    rw [same]
    exact ⟨fun _ member => member, held.revisionIds⟩
  have setOpen : ∀ (base : LoopState Worker) (worker : Worker) (phase : LoopPhase),
      base.phases = state.phases → phase.openRun = (state.phases worker).openRun →
        ∀ other, ((base.setPhase worker phase).phases other).openRun =
          (state.phases other).openRun := by
    intro base worker phase same matching other
    by_cases isWorker : other = worker
    · rw [isWorker, LoopState.setPhase_self, matching]
    · rw [LoopState.setPhase_ne isWorker, same]
  cases action with
  | submit tenantId decisionId actualOutcomes executedAt now fresh =>
      rcases submit_cases stepped with rfl | ⟨unused, revision, newId, store, ledger, phases, -⟩
      · exact held
      · refine held.of_same (by rw [store]) ?_ ?_ (fun _ => by rw [phases]) fun _ _ => by rw [ledger]
        · rw [store]
          exact fun _ member => List.mem_append_left _ member
        · rw [store]
          show ((state.store.revisions ++ [revision]).map (·.id)).Nodup
          rw [List.map_append, List.nodup_append]
          refine ⟨held.revisionIds, List.nodup_singleton _, ?_⟩
          intro id idIn new newIn same
          obtain ⟨old, oldIn, rfl⟩ := List.mem_map.mp idIn
          rw [List.map_singleton, List.mem_singleton, newId] at newIn
          exact unused old oldIn (same.trans newIn)
  | begin worker revision now fresh =>
      obtain ⟨submitted, closed, opened, began, ended⟩ := begin_cases stepped
      rcases ended with ⟨failure, store, -, executions, revisions, rfl⟩ |
        ⟨store, -, executions, revisions, rfl⟩ | ⟨execution, store, claimed, rfl⟩
      · exact held.of_same executions (sameRevisions store revisions).1
          (sameRevisions store revisions).2 (setOpen { state with store } _ _ rfl (by rw [closed]; rfl))
          fun _ _ => rfl
      · exact held.of_same executions (sameRevisions store revisions).1
          (sameRevisions store revisions).2 (setOpen { state with store } _ _ rfl (by rw [closed]; rfl))
          fun _ _ => rfl
      · exact held.begun submitted began claimed
  | compute worker reports =>
      obtain ⟨run, phase, ⟨exception, rfl⟩ | ⟨tuples, -, rfl⟩⟩ := compute_cases stepped
      · exact held.raise run exception
      · exact held.of_same rfl (fun _ member => member) held.revisionIds
          (setOpen state _ _ rfl (by rw [phase]; rfl)) fun _ _ => rfl
  | persist worker now fresh =>
      obtain ⟨run, tuple, rest, persisted, phase, ⟨exception, rfl⟩ | ⟨record, ledger, called, rfl⟩⟩ :=
        persist_cases stepped
      · exact held.raise run exception
      · refine held.of_same rfl (fun _ member => member) held.revisionIds
          (setOpen { state with ledger } _ _ rfl (by rw [phase]; rfl)) fun other otherPhase => ?_
        refine (persistInSession_frame called).2 other fun same => ?_
        rw [same, phase] at otherPhase
        cases otherPhase
  | complete worker now =>
      obtain ⟨run, persisted, row, store, phase, called, rfl⟩ := complete_cases stepped
      exact held.completed (by rw [phase]; rfl) called fun _ _ _ => completes _
  | commit worker =>
      obtain ⟨run, persisted, phase, rfl⟩ := commit_cases stepped
      exact held.commit (by rw [phase]; rfl)
  | interrupt worker text ordinary =>
      obtain ⟨run, phase, rfl⟩ := interrupt_cases stepped
      exact held.raise run _
  | markFailed worker now =>
      obtain ⟨run, exception, answer, store, phase, called, rfl⟩ := markFailed_cases stepped
      exact held.failed phase called (fails worker now run exception rfl phase)

/-- A database that no worker uses: the ids are distinct, and the unique index holds. -/
structure Unused (state : LoopState Worker) : Prop where
  ids : (state.store.executions.committed.map (·.id)).Nodup
  activeOnce : Versions.ActiveOnce executionSchema state.store.executions.committed
  revisionIds : (state.store.revisions.map (·.id)).Nodup
  unused : ∀ worker, (state.phases worker).openRun = none ∧
    state.store.executions.sessions worker = none ∧ state.ledger.pending worker = []

theorem Unused.held (unused : Unused state) (lifecycle : Lifecycle executionSchema.isActive) :
    Held lifecycle state where
  consistent := by
    refine ⟨unused.ids, unused.activeOnce, fun worker session opened => ?_,
      fun first _ left _ _ opened _ => ?_⟩
    · rw [(unused.unused worker).2.1] at opened
      cases opened
    · rw [(unused.unused first).2.1] at opened
      cases opened
  owns := by
    intro worker run phase
    rw [(unused.unused worker).1] at phase
    cases phase
  closed := fun worker _ => (unused.unused worker).2
  revisionIds := unused.revisionIds
  apart := by
    intro first second lock _ noted
    unfold Versions.State.note at noted
    rw [(unused.unused first).2.1] at noted
    cases noted

end Holding

/-! ### Concrete runs -/

/-- A decision without expected outcomes. -/
def plainDecision : Decision where
  id := 2
  tenantId := 1
  recommendationId := 3
  confidenceId := 4
  authorityId := 5
  commitment := "scale out"
  expectedOutcomes := []
  riskTolerance := "low"
  status := "committed"
  committedAt := 0
  executedAt := none
  actualOutcomes := none
  outcomeStatus := "pending"

/-- The database before any outcome of a decision was submitted. -/
def freshLoop (decision : Decision) : LoopState (Fin 1) where
  store := emptyStore []
  ledger := { rows := [], pending := fun _ => [] }
  decisions := [decision]
  phases := fun _ => .idle

theorem unused_freshLoop (decision : Decision) : Unused (freshLoop decision) where
  ids := List.nodup_nil
  activeOnce := by
    rintro _ ⟨⟩
  revisionIds := List.nodup_nil
  unused := fun _ => ⟨rfl, rfl, rfl⟩

/-- The readers report nothing. -/
def noReports : LearningReports where
  patterns := []
  contexts := []
  insights := []
  affectedPatterns := []
  affectedContexts := []
  affectedInsights := []

/-- The steps of one run for a revision, without a failure. -/
def oneRun (revision : OutcomeRevision) (fresh : Uuid) : List (LoopAction (Fin 1)) :=
  [.begin 0 revision 1 fresh, .compute 0 noReports, .persist 0 2 (fresh + 1), .complete 0 3, .commit 0]

/-- A decision that expects one metric to be met. -/
def metricDecision : Decision :=
  { plainDecision with
    expectedOutcomes := [.obj [("verifiable_by", .str "latency"), ("prediction", .int 1)]] }

/-- The outcomes of a revision: the metric was met, or not. -/
def metricOutcomes (met : Bool) : List Json :=
  [.obj [("verifiable_by", .str "latency"), ("value", .bool met)]]

/-- The revision that a submission of them creates. -/
def metricRevision (id : Uuid) (met : Bool) : OutcomeRevision :=
  { firstRevision with id, actualOutcomes := metricOutcomes met }

/-- A library whose hashes tell all texts apart. -/
def tellingStd : Stdlib :=
  { Stdlib.constant with sha256Hex := id }

end CosMonitor
