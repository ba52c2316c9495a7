/-
**Signal counts — the signals of a completed execution, and the rows that name it.**

A run counts the records that `persist_in_session` returns. A signal that is stored already returns a row
that keeps the execution that learned it first, so a run that learns it again counts it and leaves no row.

* `LearnsNew`: the signal that a run persists next is not stored where its transaction looks;
* `CountsHeld`: the invariant. The rows of the ledger name ended executions, and an open run has written
  one row for each record that it counts;
* `signals_counted`: while every signal is new, each completed execution has as many rows as it counts;
* `relearned_signal_uncounted`: a second run for a decision counts a signal of the first.
-/

import CosMonitor.Foundation.Written
import CosMonitor.Memory.FailedRuns
import CosMonitor.Memory.LedgerRuns

set_option linter.unusedSectionVars false

namespace CosMonitor

open Versions (Consistent Lifecycle)

section Invariant

variable {Worker : Type} [DecidableEq Worker] [Fintype Worker] {std : Stdlib}
  {describe : LoopException → String} {policy : BindPolicy} {state next : LoopState Worker}
  {worker other : Worker} {run : LearningRun}

/-- What a run persists for a signal. -/
def LearningRun.input (run : LearningRun) (tuple : SignalTuple) : PersistLearningMemoryInput where
  tenantId := run.revision.tenantId
  targetType := tuple.targetType
  targetId := tuple.targetId
  signal := tuple.signal
  provenance := tuple.provenance
  executionId := some run.execution.id

/-- The signal that a run persists next. -/
def LoopPhase.nextInput : LoopPhase → Option PersistLearningMemoryInput
  | persisting run (tuple :: _) _ => some (run.input tuple)
  | persisting _ [] _ | idle | begun _ | completed .. | marking .. | ended _ => none

/-- The records that a run has persisted. -/
def LoopPhase.counted : LoopPhase → List LearningMemoryRecord
  | persisting _ _ persisted | completed _ persisted => persisted
  | idle | begun _ | marking .. | ended _ => []

/-- A run that persists a signal finds no row with its key. -/
def LearnsNew (std : Stdlib) (state : LoopState Worker) : LoopAction Worker → Prop
  | .persist worker _ _ => ∀ input ∈ (state.phases worker).nextInput, ∀ key ∈ input.key std,
      key ∉ (state.ledger.seen worker).map (·.signalKey)
  | .submit .. | .begin .. | .compute .. | .complete .. | .commit _ | .interrupt .. | .markFailed .. => True

instance (std : Stdlib) (state : LoopState Worker) : DecidablePred (LearnsNew std state)
  | .persist .. => inferInstanceAs (Decidable (∀ _ ∈ _, _))
  | .submit .. | .begin .. | .compute .. | .complete .. | .commit _ | .interrupt .. | .markFailed .. =>
      isTrue trivial

/-- The rows of the ledger that name an execution. -/
def signalsOf (executionId : Uuid) (rows : List LearningMemoryRecord) : Nat :=
  rows.countP fun record => decide (record.executionId = some executionId)

/-- **Every signal that a completed execution counts is traced to it.** -/
def SignalsCounted (state : LoopState Worker) : Prop :=
  ∀ execution ∈ state.store.executions.committed, execution.status = .completed →
    execution.signalCount = signalsOf execution.id state.ledger.rows

instance (state : LoopState Worker) : Decidable (SignalsCounted state) :=
  inferInstanceAs (Decidable (∀ _ ∈ _, _))

/-- What an open run has written. -/
structure RunCounts (state : LoopState Worker) (worker : Worker) (run : LearningRun) : Prop where
  holds : ∃ row ∈ state.store.executions.written worker, row.id = run.execution.id
  active : ∀ row ∈ state.store.executions.committed, row.id = run.execution.id → row.status.isActive = true
  written : ∀ row ∈ state.store.executions.written worker, row.status = .completed →
    row.id = run.execution.id ∧ row.signalCount = (state.phases worker).counted.length
  finished : ∀ persisted, state.phases worker = .completed run persisted →
    ∀ row ∈ state.store.executions.written worker, row.id = run.execution.id → row.status = .completed
  unfinished : (∀ persisted, state.phases worker ≠ .completed run persisted) →
    ∀ row ∈ state.store.executions.written worker, row.status ≠ .completed
  own : ∀ record ∈ state.ledger.pending worker, record.executionId = some run.execution.id
  size : (state.phases worker).counted.length = (state.ledger.pending worker).length

/-- The invariant of the counts. -/
structure CountsHeld (state : LoopState Worker) : Prop where
  held : Held endedStays state
  counted : SignalsCounted state
  traced : ∀ record ∈ state.ledger.rows, ∀ id ∈ record.executionId,
    ∃ row ∈ state.store.executions.committed, row.id = id ∧ row.status.isActive = false
  runs : ∀ worker run, (state.phases worker).openRun = some run → RunCounts state worker run

theorem RunCounts.of_frame (counts : RunCounts state worker run)
    (sessions : next.store.executions.sessions worker = state.store.executions.sessions worker)
    (pending : next.ledger.pending worker = state.ledger.pending worker)
    (phases : next.phases worker = state.phases worker)
    (active : ∀ row ∈ next.store.executions.committed, row.id = run.execution.id →
      row.status.isActive = true) : RunCounts next worker run where
  holds := by
    rw [Versions.written_of_sessions sessions]
    exact counts.holds
  active := active
  written := by
    rw [Versions.written_of_sessions sessions, phases]
    exact counts.written
  finished := by
    rw [Versions.written_of_sessions sessions, phases]
    exact counts.finished
  unfinished := by
    rw [Versions.written_of_sessions sessions, phases]
    exact counts.unfinished
  own := by
    rw [pending]
    exact counts.own
  size := by
    rw [pending, phases]
    exact counts.size

theorem CountsHeld.unnamed (held : CountsHeld state) (opened : (state.phases worker).openRun = some run) :
    ∀ record ∈ state.ledger.rows, record.executionId ≠ some run.execution.id := by
  intro record member names
  obtain ⟨row, rowIn, isRow, ended⟩ := held.traced record member run.execution.id names
  rw [(held.runs worker run opened).active row rowIn isRow] at ended
  cases ended

theorem CountsHeld.of_committed (before : CountsHeld state) (held : Held endedStays next)
    (committed : next.store.executions.committed = state.store.executions.committed)
    (rows : next.ledger.rows = state.ledger.rows)
    (runs : ∀ other run, (next.phases other).openRun = some run →
      (next.store.executions.sessions other = state.store.executions.sessions other ∧
        next.ledger.pending other = state.ledger.pending other ∧
        next.phases other = state.phases other) ∨ RunCounts next other run) : CountsHeld next where
  held := held
  counted := by
    unfold SignalsCounted
    rw [committed, rows]
    exact before.counted
  traced := by
    rw [committed, rows]
    exact before.traced
  runs := by
    intro other run opened
    rcases runs other run opened with ⟨sessions, pending, phases⟩ | counts
    · rw [phases] at opened
      have counts := before.runs other run opened
      refine counts.of_frame sessions pending phases ?_
      rw [committed]
      exact counts.active
    · exact counts

theorem CountsHeld.raise (before : CountsHeld state) (run : LearningRun) (exception : LoopException) :
    CountsHeld (raiseInRun worker run exception state) := by
  refine before.of_committed (before.held.raise run exception) rfl rfl fun other found opened => .inl ?_
  have differ : other ≠ worker := by
    intro same
    rw [same] at opened
    unfold raiseInRun at opened
    rw [LoopState.setPhase_self] at opened
    split at opened <;> cases opened
  exact ⟨Function.update_of_ne differ _ _, LedgerState.setPending_ne differ [],
    LoopState.setPhase_ne differ _⟩

theorem claimExecution_written {lifecycle : Lifecycle executionSchema.isActive} {request : ExecutionRequest}
    {now : Timestamp} {fresh : Uuid} {lock : Option String} {execution : LearningExecution}
    {store opened after : StoreState Worker} (begun : Begun worker lock store opened)
    (consistent : Consistent executionSchema lifecycle opened.executions)
    (called : claimExecution policy worker request now fresh opened = some (.ok (some execution), after)) :
    (∃ row ∈ after.executions.written worker, row.id = execution.id) ∧
      ∀ row ∈ after.executions.written worker, row.status ≠ .completed := by
  have nothing : opened.executions.written worker = [] := Versions.written_opened begun.session
  have changedOnly : ∀ (update : StatusUpdate) {id : Uuid} {result : Option LearningExecution}
      {middle : StoreState Worker}, update.status ≠ .completed →
        changeExecution worker id update.apply opened = some (result, middle) →
          ∀ row ∈ middle.executions.written worker, row.status ≠ .completed := by
    intro update id result middle other changed row wrote completed
    rcases Versions.written_update consistent (changeExecution_update changed)
      update.apply_content wrote with ⟨old, -⟩ | ⟨old, -, -, rfl⟩
    · rw [nothing] at old
      cases old
    · exact other completed
  rcases claimExecution_cases called with
    ⟨existing, -, -, -, none, -⟩ | ⟨existing, row, found, -, -, same, changed⟩ |
      ⟨existing, old, row, middle, -, -, same, changed, inserted⟩ | ⟨row, -, same, inserted⟩
  · cases none
  · cases same
    obtain ⟨member, -, -⟩ := findActiveExecution_some found
    exact ⟨Versions.written_of_update (changeExecution_update changed)
      (StatusUpdate.apply_content (.claimed now)) member rfl, changedOnly (.claimed now) (by rintro ⟨⟩) changed⟩
  · cases same
    rcases insertExecution_cases inserted with ⟨-, _, failed⟩ | ⟨_, same, -, -, -, running, stored, -, -⟩
    · cases failed
    cases same
    refine ⟨⟨_, (Versions.written_insert stored).mpr (.inr rfl), rfl⟩, fun other wrote => ?_⟩
    rcases (Versions.written_insert stored).mp wrote with older | rfl
    · exact changedOnly (.ended .stale now) (by rintro ⟨⟩) changed other older
    · rw [running]
      rintro ⟨⟩
  · cases same
    rcases insertExecution_cases inserted with ⟨-, _, failed⟩ | ⟨_, same, -, -, -, running, stored, -, -⟩
    · cases failed
    cases same
    refine ⟨⟨_, (Versions.written_insert stored).mpr (.inr rfl), rfl⟩, fun other wrote => ?_⟩
    rcases (Versions.written_insert stored).mp wrote with older | rfl
    · rw [nothing] at older
      cases older
    · rw [running]
      rintro ⟨⟩

theorem RunCounts.proceed {rest : List SignalTuple} {persisted : List LearningMemoryRecord}
    (counts : RunCounts state worker run)
    (unfinished : ∀ persisted, state.phases worker ≠ .completed run persisted)
    (store : next.store = state.store) (phase : next.phases worker = .persisting run rest persisted)
    (own : ∀ record ∈ next.ledger.pending worker, record.executionId = some run.execution.id)
    (size : persisted.length = (next.ledger.pending worker).length) : RunCounts next worker run where
  holds := by
    rw [store]
    exact counts.holds
  active := by
    rw [store]
    exact counts.active
  written := by
    rw [store]
    exact fun row wrote completed => absurd completed (counts.unfinished unfinished row wrote)
  finished := by
    intro found completed
    rw [phase] at completed
    cases completed
  unfinished := by
    rw [store]
    exact fun _ => counts.unfinished unfinished
  own := own
  size := by
    rw [phase]
    exact size

/-- **Beginning a run** counts nothing yet. -/
theorem CountsHeld.begun {revision : OutcomeRevision} {execution : LearningExecution} {now : Timestamp}
    {fresh : Uuid} {opened store : StoreState Worker} (before : CountsHeld state)
    (closed : (state.phases worker).openRun = none)
    (began : beginTransaction worker (some (lockKey revision.tenantId revision.decisionId)) state.store =
      some opened)
    (claimed : claimExecution policy worker revision.request now fresh opened =
      some (.ok (some execution), store))
    (held : Held endedStays (({ state with store }).setPhase worker (.begun { revision, execution }))) :
    CountsHeld (({ state with store }).setPhase worker (.begun { revision, execution })) := by
  have begun := begun_of_begin began
  have within := claimExecution_within claimed
  have committed : store.executions.committed = state.store.executions.committed :=
    within.committed.trans begun.committed
  have consistent := begun_consistent began before.held.consistent
  refine before.of_committed held committed rfl fun other run phase => ?_
  by_cases isWorker : other = worker
  · subst isWorker
    rw [LoopState.setPhase_self] at phase
    cases phase
    obtain ⟨holds, fresh⟩ := claimExecution_written begun consistent claimed
    have claim := claimExecution_claimed begun consistent claimed
    obtain ⟨-, pending⟩ := before.held.closed other closed
    refine .inr ⟨holds, fun row member isRow => ?_, fun row wrote completed => absurd completed (fresh row wrote),
      fun persisted phase => ?_, fun _ => fresh, fun record member => ?_, ?_⟩
    · have rowIn : row ∈ state.store.executions.committed := committed ▸ member
      rcases claim.origin with ⟨existing, found, isPending, sameId⟩ | ⟨-, unused⟩
      · obtain ⟨existingIn, -, active⟩ := findActiveExecution_some found
        have same : row = existing :=
          Versions.eq_of_rowId before.held.consistent.ids rowIn existingIn (isRow.trans sameId.symm)
        rw [same]
        exact active
      · exact absurd isRow (unused row rowIn)
    · rw [LoopState.setPhase_self] at phase
      cases phase
    · have none : record ∈ state.ledger.pending other := member
      rw [pending] at none
      cases none
    · rw [LoopState.setPhase_self]
      show 0 = (state.ledger.pending other).length
      rw [pending]
      rfl
  · exact .inl ⟨(within.others other isWorker).trans (begun.others other isWorker), rfl,
      LoopState.setPhase_ne isWorker _⟩

/-- **Persisting a new signal** writes one row, and counts it. -/
theorem CountsHeld.persist {tuple : SignalTuple} {rest : List SignalTuple}
    {persisted : List LearningMemoryRecord} {record : LearningMemoryRecord} {ledger : LedgerState Worker}
    {now : Timestamp} {fresh : Uuid} (before : CountsHeld state)
    (phase : state.phases worker = .persisting run (tuple :: rest) persisted)
    (new : LearnsNew std state (.persist worker now fresh))
    (called : persistSignal std worker run tuple now fresh state = some (.ok (some record), ledger))
    (held : Held endedStays (({ state with ledger }).setPhase worker
      (.persisting run rest (persisted ++ [record])))) :
    CountsHeld (({ state with ledger }).setPhase worker
      (.persisting run rest (persisted ++ [record]))) := by
  have opened : (state.phases worker).openRun = some run := by
    rw [phase]
    rfl
  have counts := before.runs worker run opened
  obtain ⟨rows, others⟩ := persistInSession_frame called
  obtain ⟨row, written, -, stored | ⟨-, -, built⟩⟩ := persistInSession_returned called
  · exact absurd stored.1 (new (run.input tuple) (by rw [phase]; rfl) _ (written.key))
  refine before.of_committed held rfl rows fun other found otherPhase => ?_
  by_cases isWorker : other = worker
  · subst isWorker
    rw [LoopState.setPhase_self] at otherPhase
    cases otherPhase
    have pending : ledger.pending other = state.ledger.pending other ++ [row] := by
      rw [built, LedgerState.setPending_self]
    refine .inr (counts.proceed ?_ rfl (LoopState.setPhase_self _) ?_ ?_)
    · intro done completed
      rw [phase] at completed
      cases completed
    · intro record member
      have member : record ∈ ledger.pending other := member
      rw [pending, List.mem_append, List.mem_singleton] at member
      rcases member with old | rfl
      · exact counts.own record old
      · obtain ⟨signal, provenance, at', fresh', -, rfl⟩ := written
        rfl
    · show (persisted ++ [record]).length = (ledger.pending other).length
      have size := counts.size
      rw [phase] at size
      rw [pending, List.length_append, List.length_append, ← size]
      rfl
  · exact .inl ⟨rfl, others other isWorker, LoopState.setPhase_ne isWorker _⟩

/-- **Completing an execution** writes its count. -/
theorem CountsHeld.completed {persisted : List LearningMemoryRecord} {row : Option LearningExecution}
    {store : StoreState Worker} {now : Timestamp} (before : CountsHeld state)
    (phase : state.phases worker = .persisting run [] persisted)
    (called : completeExecutionInSession worker run.execution.id persisted.length now state.store =
      some (row, store))
    (held : Held endedStays (({ state with store }).setPhase worker (.completed run persisted))) :
    CountsHeld (({ state with store }).setPhase worker (.completed run persisted)) := by
  have opened : (state.phases worker).openRun = some run := by
    rw [phase]
    rfl
  have counts := before.runs worker run opened
  have unfinished : ∀ done, state.phases worker ≠ .completed run done := by
    intro done completed
    rw [phase] at completed
    cases completed
  have within := changeExecution_within called
  have update := changeExecution_update called
  refine before.of_committed held within.committed rfl fun other found otherPhase => ?_
  by_cases isWorker : other = worker
  · subst isWorker
    rw [LoopState.setPhase_self] at otherPhase
    cases otherPhase
    have wrote : ∀ row ∈ store.executions.written other,
        (row ∈ state.store.executions.written other ∧ row.id ≠ run.execution.id) ∨
          (row.id = run.execution.id ∧ row.status = .completed ∧ row.signalCount = persisted.length) := by
      intro row member
      rcases Versions.written_update before.held.consistent update (fun _ => rfl) member with
        old | ⟨old, -, isOld, rfl⟩
      · exact .inl old
      · exact .inr ⟨isOld, rfl, rfl⟩
    refine .inr ⟨?_, ?_, fun row member completed => ?_, fun done _ row member isRow => ?_,
      fun none => ?_, counts.own, ?_⟩
    · obtain ⟨own, ownSeen, content⟩ := (before.held.owns other run opened).row
      exact Versions.written_of_update update (fun _ => rfl) ownSeen (congrArg ExecutionContent.id content)
    · show ∀ row ∈ store.executions.committed, _
      rw [within.committed]
      exact counts.active
    · rw [LoopState.setPhase_self]
      rcases wrote row member with ⟨old, -⟩ | ⟨isRow, -, count⟩
      · exact absurd completed (counts.unfinished unfinished row old)
      · exact ⟨isRow, count⟩
    · rcases wrote row member with ⟨-, differ⟩ | ⟨-, completed, -⟩
      · exact absurd isRow differ
      · exact completed
    · exact absurd (LoopState.setPhase_self _) (none persisted)
    · have size := counts.size
      rw [phase] at size
      rw [LoopState.setPhase_self]
      exact size
  · exact .inl ⟨within.others other isWorker, rfl, LoopState.setPhase_ne isWorker _⟩

/-- **Committing a run** adds the rows that its execution counts. -/
theorem CountsHeld.commit {persisted : List LearningMemoryRecord} {outcome : LoopOutcome}
    (before : CountsHeld state) (phase : state.phases worker = .completed run persisted)
    (held : Held endedStays (({ state with
      store := commitTransaction worker state.store
      ledger := state.ledger.commit worker }).setPhase worker (.ended outcome))) :
    CountsHeld (({ state with
      store := commitTransaction worker state.store
      ledger := state.ledger.commit worker }).setPhase worker (.ended outcome)) := by
  have opened : (state.phases worker).openRun = some run := by
    rw [phase]
    rfl
  have counts := before.runs worker run opened
  have consistent := before.held.consistent
  have added : ∀ id, signalsOf id (state.ledger.commit worker).rows =
      signalsOf id state.ledger.rows + signalsOf id (state.ledger.pending worker) := fun id =>
    List.countP_append
  refine ⟨held, ?_, ?_, ?_⟩
  · intro row member completed
    show row.signalCount = signalsOf row.id (state.ledger.commit worker).rows
    rw [added]
    rcases Versions.mem_view_written member with old | wrote
    · have differ : row.id ≠ run.execution.id := by
        intro same
        have active := counts.active row old same
        rw [completed] at active
        cases active
      have none : signalsOf row.id (state.ledger.pending worker) = 0 := by
        refine List.countP_eq_zero.mpr fun record inside names => differ ?_
        have own := counts.own record inside
        rw [of_decide_eq_true names] at own
        exact Option.some.inj own
      rw [none, Nat.add_zero]
      exact before.counted row old completed
    · obtain ⟨isRow, count⟩ := counts.written row wrote completed
      have unnamed : signalsOf row.id state.ledger.rows = 0 := by
        refine List.countP_eq_zero.mpr fun record inside names => ?_
        rw [isRow] at names
        exact before.unnamed opened record inside (of_decide_eq_true names)
      have all : signalsOf row.id (state.ledger.pending worker) = (state.ledger.pending worker).length := by
        refine List.countP_eq_length.mpr fun record inside => decide_eq_true ?_
        rw [isRow]
        exact counts.own record inside
      rw [unnamed, all, Nat.zero_add, count]
      exact counts.size
  · intro record member id names
    rcases List.mem_append.mp member with old | new
    · obtain ⟨row, rowIn, isRow, ended⟩ := before.traced record old id names
      obtain ⟨version, seen, evolves⟩ := consistent.view_evolved worker rowIn
      exact ⟨version, seen, evolves.rowId.trans isRow, endedStays.ended evolves.moved ended⟩
    · have isRun : id = run.execution.id := by
        have own := counts.own record new
        rw [Option.mem_def.mp names] at own
        exact Option.some.inj own
      obtain ⟨row, seen, content⟩ := (before.held.owns worker run opened).row
      have isRow : row.id = run.execution.id := congrArg ExecutionContent.id content
      obtain ⟨wrote, wroteIn, isWrote⟩ := counts.holds
      have rowWritten := Versions.written_of_view consistent seen wroteIn (isRow.trans isWrote.symm)
      refine ⟨row, seen, isRow.trans isRun.symm, ?_⟩
      rw [counts.finished persisted phase row rowWritten isRow]
      rfl
  · intro other found otherPhase
    have differ : other ≠ worker := by
      intro same
      rw [same, LoopState.setPhase_self] at otherPhase
      cases otherPhase
    rw [LoopState.setPhase_ne differ] at otherPhase
    have otherCounts := before.runs other found otherPhase
    refine otherCounts.of_frame (Function.update_of_ne differ _ _) (LedgerState.setPending_ne differ [])
      (LoopState.setPhase_ne differ _) fun row member isRow => ?_
    rcases Versions.mem_view_written member with old | wrote
    · exact otherCounts.active row old isRow
    · obtain ⟨own, ownIn, isOwn⟩ := otherCounts.holds
      exact absurd (isRow.trans isOwn.symm) (Versions.written_apart consistent differ.symm wrote ownIn)

/-- **Marking an execution as failed** leaves the counts of the completed ones. -/
theorem CountsHeld.failed {reason : String} {now : Timestamp}
    {answer : Except DbError (Option LearningExecution)} {outcome : LoopOutcome} {store : StoreState Worker}
    (before : CountsHeld state)
    (called : failExecution policy worker run.execution.id reason now state.store = some (answer, store))
    (held : Held endedStays (({ state with store }).setPhase worker (.ended outcome))) :
    CountsHeld (({ state with store }).setPhase worker (.ended outcome)) := by
  have isOther : ∀ other run, ((({ state with store }).setPhase worker (.ended outcome)).phases
      other).openRun = some run → other ≠ worker := by
    intro other run opened same
    rw [same, LoopState.setPhase_self] at opened
    cases opened
  rcases failExecution_cases called with
    ⟨-, -, executions, -⟩ | ⟨-, opened, after, row, began, changed, -, built⟩
  · refine before.of_committed held (congrArg Versions.State.committed executions) rfl
      fun other found otherPhase => .inl ⟨?_, rfl, LoopState.setPhase_ne (isOther other found otherPhase) _⟩
    exact congrFun (congrArg Versions.State.sessions executions) other
  · obtain ⟨committed, sessions⟩ := committed_change before.held.consistent began changed
      (StatusUpdate.apply_content _)
    rw [← built] at committed sessions
    have begun := begun_of_begin began
    have openedConsistent := begun_consistent began before.held.consistent
    have consistent : Consistent executionSchema endedStays after.executions :=
      changeExecution_consistent openedConsistent changed (StatusUpdate.apply_content _)
        fun _ _ _ _ => ⟨rfl, False.elim⟩
    refine ⟨held, ?_, ?_, ?_⟩
    · intro row member completed
      have member : row ∈ store.executions.committed := member
      rw [committed] at member
      exact before.counted row (completed_of_change (by rintro ⟨⟩) member completed) completed
    · intro record member id names
      obtain ⟨row, rowIn, isRow, ended⟩ := before.traced record member id names
      show ∃ row ∈ store.executions.committed, _
      rw [committed]
      refine ⟨_, List.mem_map_of_mem rowIn, ?_⟩
      by_cases chosen : row.id = run.execution.id
      · rw [if_pos chosen]
        exact ⟨isRow, rfl⟩
      · rw [if_neg chosen]
        exact ⟨isRow, ended⟩
    · intro other found otherPhase
      have differ := isOther other found otherPhase
      rw [LoopState.setPhase_ne differ] at otherPhase
      have otherCounts := before.runs other found otherPhase
      refine otherCounts.of_frame (congrFun sessions other) rfl (LoopState.setPhase_ne differ _)
        fun row member isRow => ?_
      have member : row ∈ store.executions.committed := member
      rw [committed] at member
      obtain ⟨old, oldIn, rfl⟩ := List.mem_map.mp member
      by_cases chosen : old.id = run.execution.id
      · -- The update would have waited for the run that has written the row.
        rw [if_pos chosen] at isRow
        obtain ⟨own, ownIn, isOwn⟩ := otherCounts.holds
        have ownAfter : own ∈ after.executions.written other := by
          rw [Versions.written_of_sessions
            (((changeExecution_within changed).others other differ).trans (begun.others other differ))]
          exact ownIn
        have oldSeen : old ∈ opened.seen worker := by
          rw [begun.seen]
          exact oldIn
        obtain ⟨wrote, wroteIn, isWrote⟩ := Versions.written_of_update (changeExecution_update changed)
          (StatusUpdate.apply_content (failedUpdate reason now)) oldSeen chosen
        refine absurd ?_ (Versions.written_apart consistent differ.symm wroteIn ownAfter)
        exact isWrote.trans (chosen.symm.trans (isRow.trans isOwn.symm))
      · rw [if_neg chosen] at isRow ⊢
        exact otherCounts.active old oldIn isRow

/-- **Every step that learns new signals keeps the invariant.** -/
theorem CountsHeld.step {action : LoopAction Worker} (before : CountsHeld state)
    (new : LearnsNew std state action)
    (stepped : loopStep std describe policy state action = some next) : CountsHeld next := by
  have held : Held endedStays next := before.held.step stepped (fun _ _ => ⟨rfl, False.elim⟩)
    fun _ _ _ _ _ _ _ _ _ _ _ => ⟨rfl, False.elim⟩
  cases action with
  | submit tenantId decisionId actualOutcomes executedAt now fresh =>
      rcases submit_cases stepped with rfl | ⟨-, revision, -, store, ledger, phases, -⟩
      · exact before
      · refine before.of_committed held (by rw [store]) (by rw [ledger]) fun other run _ => .inl ?_
        rw [store, ledger, phases]
        exact ⟨rfl, rfl, rfl⟩
  | begin worker revision now fresh =>
      obtain ⟨-, closed, opened, began, ended⟩ := begin_cases stepped
      have unopened : ∀ (store : StoreState Worker) (outcome : LoopOutcome),
          store.executions = state.store.executions →
            Held endedStays (({ state with store }).setPhase worker (.ended outcome)) →
              CountsHeld (({ state with store }).setPhase worker (.ended outcome)) := by
        intro store outcome executions held
        refine before.of_committed held (congrArg Versions.State.committed executions) rfl
          fun other run phase => .inl ⟨congrFun (congrArg Versions.State.sessions executions) other, rfl,
            LoopState.setPhase_ne ?_ _⟩
        intro same
        rw [same, LoopState.setPhase_self] at phase
        cases phase
      rcases ended with ⟨failure, store, -, executions, -, rfl⟩ | ⟨store, -, executions, -, rfl⟩ |
        ⟨execution, store, claimed, rfl⟩
      · exact unopened store _ executions held
      · exact unopened store _ executions held
      · exact before.begun closed began claimed held
  | compute worker reports =>
      obtain ⟨run, phase, ⟨exception, rfl⟩ | ⟨tuples, -, rfl⟩⟩ := compute_cases stepped
      · exact before.raise run exception
      · refine before.of_committed held rfl rfl fun other found otherPhase => ?_
        by_cases isWorker : other = worker
        · subst isWorker
          rw [LoopState.setPhase_self] at otherPhase
          cases otherPhase
          have counts := before.runs other run (by rw [phase]; rfl)
          have size := counts.size
          rw [phase] at size
          refine .inr (counts.proceed (fun done completed => ?_) rfl (LoopState.setPhase_self _)
            counts.own size)
          rw [phase] at completed
          cases completed
        · exact .inl ⟨rfl, rfl, LoopState.setPhase_ne isWorker _⟩
  | persist worker now fresh =>
      obtain ⟨run, tuple, rest, persisted, phase, ⟨exception, rfl⟩ | ⟨record, ledger, called, rfl⟩⟩ :=
        persist_cases stepped
      · exact before.raise run exception
      · exact before.persist phase new called held
  | complete worker now =>
      obtain ⟨run, persisted, row, store, phase, called, rfl⟩ := complete_cases stepped
      exact before.completed phase called held
  | commit worker =>
      obtain ⟨run, persisted, phase, rfl⟩ := commit_cases stepped
      exact before.commit phase held
  | interrupt worker text ordinary =>
      obtain ⟨run, phase, rfl⟩ := interrupt_cases stepped
      exact before.raise run _
  | markFailed worker now =>
      obtain ⟨run, exception, answer, store, phase, called, rfl⟩ := markFailed_cases stepped
      exact before.failed called held

/-- A database that no worker uses: the completed executions count their rows, and no row names an
execution that has not ended. -/
structure CountedDatabase (state : LoopState Worker) : Prop extends Unused state where
  counted : SignalsCounted state
  traced : ∀ record ∈ state.ledger.rows, ∀ id ∈ record.executionId,
    ∃ row ∈ state.store.executions.committed, row.id = id ∧ row.status.isActive = false

theorem CountedDatabase.held (database : CountedDatabase state) : CountsHeld state where
  held := database.toUnused.held endedStays
  counted := database.counted
  traced := database.traced
  runs := by
    intro worker run opened
    rw [(database.unused worker).1] at opened
    cases opened

/-- **Every history of learning runs.** In every state of a run whose signals are all new when they are
persisted, each completed execution counts the rows that name it. -/
theorem signals_counted (std : Stdlib) (describe : LoopException → String) (policy : BindPolicy)
    (initial state : LoopState Worker) (database : CountedDatabase initial)
    (reached : (loopSystem Worker std describe policy).Reachable (LearnsNew std) initial state) :
    SignalsCounted state := by
  have held : CountsHeld state :=
    reached.invariant database.held fun before action after holds new stepped => holds.step new stepped
  exact held.counted

end Invariant

/-! ### Two runs -/

theorem countedDatabase_freshLoop (decision : Decision) : CountedDatabase (freshLoop decision) where
  toUnused := unused_freshLoop decision
  counted := by
    rintro _ ⟨⟩
  traced := by
    rintro _ ⟨⟩

/-- The executions of a state, with what they count. -/
def LoopState.countedSignals (state : LoopState (Fin 1)) : List (Uuid × Nat) :=
  state.store.executions.committed.map fun row => (row.id, row.signalCount)

/-- Two runs for a decision learn new signals, and count them. -/
theorem signals_counted_twice : ∃ state : LoopState (Fin 1),
    state.countedSignals = [(11, 1), (13, 1)] ∧ SignalsCounted state := by
  have executed : ((loopSystem (Fin 1) tellingStd (fun _ => "") .required).guardedRun
      (LearnsNew tellingStd) (freshLoop metricDecision)
      (.submit 1 2 (metricOutcomes true) none 0 7 :: oneRun (metricRevision 7 true) 11 ++
        .submit 1 2 (metricOutcomes false) none 0 8 :: oneRun (metricRevision 8 false) 13)).any
        (fun state => decide (state.countedSignals = [(11, 1), (13, 1)])) = true := by
    decide +kernel
  obtain ⟨state, reached, counts⟩ := Transition.System.guardedRun_reaches executed
  exact ⟨state, counts, signals_counted tellingStd (fun _ => "") .required (freshLoop metricDecision) state
    (countedDatabase_freshLoop _) reached⟩

/-- **A signal that is learned again** is counted by the second execution, and its row names the first. -/
theorem relearned_signal_uncounted : ¬ ∀ state : LoopState (Fin 1),
    (loopSystem (Fin 1) .constant (fun _ => "") .required).Reachable (fun _ _ => True)
      (freshLoop plainDecision) state → SignalsCounted state := by
  have executed : ((loopSystem (Fin 1) .constant (fun _ => "") .required).run
      (freshLoop plainDecision) (.submit 1 2 [] none 0 7 :: (oneRun firstRevision 11 ++
        .submit 1 2 [] none 4 8 :: oneRun { firstRevision with id := 8, createdAt := 4 } 21))).any
        (fun state => decide (¬SignalsCounted state)) = true := by
    decide +kernel
  obtain ⟨state, -, reached, uncounted⟩ := Transition.System.run_reaches executed
  exact fun counts => uncounted (counts state reached)

end CosMonitor
