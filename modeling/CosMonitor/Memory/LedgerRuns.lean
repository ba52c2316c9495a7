/-
**Runs of the learning memory — one row for each signal, and what the calls return.**

Any number of transactions call `persist_in_session`, next to calls of `persist`, for any signals in
any order.

* `ledgerStep_cases`: what one step has done;
* `LedgerSound`: the invariant. No key is stored twice, the rows only grow, and they are the rows of the
  calls that are committed;
* `ledger_law`: it holds in every run in which a call for a stored signal finds it newer than the other
  signals of its target, and then every call returns a record with the hash of its signal;
* `ledger_returns_latest`: the signals A, B, A;
* `list_iff`: a listing returns the stored records exactly when there are none.
-/

import CosMonitor.Foundation.Transition
import CosMonitor.Memory.Ledger

set_option linter.unusedSectionVars false

namespace CosMonitor

/-! ### What one call has done -/

section Calls

variable {Worker : Type} [DecidableEq Worker] [Fintype Worker] {std : Stdlib} {worker : Worker}
  {ledger next : LedgerState Worker} {input : PersistLearningMemoryInput} {executions : List Uuid}
  {now : Timestamp} {fresh : Uuid}

/-- A row that was written for an input: its fields are those of the input. -/
def WrittenFrom (std : Stdlib) (input : PersistLearningMemoryInput) (row : LearningMemoryRecord) :
    Prop :=
  ∃ signal provenance now fresh, input.documents = .ok (signal, provenance) ∧
    row = input.toRow std signal provenance now fresh

/-- The key of the row of an input. -/
def PersistLearningMemoryInput.key (std : Stdlib) (input : PersistLearningMemoryInput) :
    Option (Uuid × MemoryTarget × Uuid × String) :=
  input.signal.map fun signal =>
    (input.tenantId, input.targetType, input.targetId, computeSignalHash std signal)

theorem WrittenFrom.key {row : LearningMemoryRecord} (written : WrittenFrom std input row) :
    input.key std = some row.signalKey := by
  obtain ⟨signal, provenance, now, fresh, bound, rfl⟩ := written
  unfold PersistLearningMemoryInput.key
  rw [(PersistLearningMemoryInput.documents_ok bound).1]
  rfl

/-- A row has the target of a key. -/
def LearningMemoryRecord.isFor (row : LearningMemoryRecord) (tenantId : Uuid)
    (targetType : MemoryTarget) (targetId : Uuid) : Prop :=
  row.tenantId = tenantId ∧ row.targetType = targetType ∧ row.targetId = targetId

instance (row : LearningMemoryRecord) (tenantId : Uuid) (targetType : MemoryTarget)
    (targetId : Uuid) : Decidable (row.isFor tenantId targetType targetId) :=
  inferInstanceAs (Decidable (_ ∧ _))

/-- The row of an input, where it is among the rows, is newer than every other signal of its
target. -/
def FindsNewest (std : Stdlib) (input : PersistLearningMemoryInput)
    (rows : List LearningMemoryRecord) : Prop :=
  ∀ own ∈ rows, input.key std = some own.signalKey → ∀ row ∈ rows,
    row.isFor input.tenantId input.targetType input.targetId → row.signalHash ≠ own.signalHash →
      row.createdAt < own.createdAt

instance (std : Stdlib) (input : PersistLearningMemoryInput) (rows : List LearningMemoryRecord) :
    Decidable (FindsNewest std input rows) :=
  inferInstanceAs (Decidable (∀ _ ∈ _, _ → ∀ _ ∈ _, _))

/-- A record of the target of an input, with the hash of its signal. -/
def Answers (std : Stdlib) (input : PersistLearningMemoryInput)
    (record : Option LearningMemoryRecord) : Prop :=
  ∃ found ∈ record, input.key std = some found.signalKey

instance (std : Stdlib) (input : PersistLearningMemoryInput) (record : Option LearningMemoryRecord) :
    Decidable (Answers std input record) :=
  inferInstanceAs (Decidable (∃ _ ∈ _, _))

/-- **The latest row of a target answers a repeated signal that is its newest.** -/
theorem latest_answers {rows : List LearningMemoryRecord} {row : LearningMemoryRecord}
    (written : WrittenFrom std input row) (stored : row.signalKey ∈ rows.map (·.signalKey))
    (newest : FindsNewest std input rows) :
    Answers std input
      (LedgerState.latest rows input.tenantId input.targetType input.targetId) := by
  obtain ⟨own, ownIn, sameKey⟩ := List.mem_map.mp stored
  have key := written.key
  rw [← sameKey] at key
  have target : own.isFor input.tenantId input.targetType input.targetId := by
    obtain ⟨signal, provenance, at', fresh', -, rfl⟩ := written
    have same : own.tenantId = input.tenantId ∧ own.targetType = input.targetType ∧
        own.targetId = input.targetId ∧ own.signalHash = computeSignalHash std signal := by
      simpa [LearningMemoryRecord.signalKey, PersistLearningMemoryInput.toRow] using sameKey
    exact ⟨same.1, same.2.1, same.2.2.1⟩
  have ownListed : own ∈ rows.filter fun row => decide (row.tenantId = input.tenantId ∧
      row.targetType = input.targetType ∧ row.targetId = input.targetId) :=
    List.mem_filter.mpr ⟨ownIn, decide_eq_true target⟩
  unfold LedgerState.latest
  cases latest : List.argmax LearningMemoryRecord.createdAt (rows.filter fun row =>
      decide (row.tenantId = input.tenantId ∧ row.targetType = input.targetType ∧
        row.targetId = input.targetId)) with
  | none =>
      rw [List.argmax_eq_none.mp latest] at ownListed
      cases ownListed
  | some found =>
      obtain ⟨foundIn, listed⟩ := List.mem_filter.mp (List.argmax_mem latest)
      have isFor : found.isFor input.tenantId input.targetType input.targetId :=
        of_decide_eq_true listed
      have sameHash : found.signalHash = own.signalHash := by
        by_contra differ
        have older := newest own ownIn key found foundIn isFor differ
        exact absurd (List.le_of_mem_argmax ownListed latest) (not_le.mpr older)
      refine ⟨found, rfl, ?_⟩
      rw [key]
      unfold LearningMemoryRecord.signalKey
      rw [isFor.1, isFor.2.1, isFor.2.2, sameHash, target.1, target.2.1, target.2.2]

/-- **What a call in a session has done when it returned**: it found the key, or added the row. -/
theorem persistInSession_returned {record : Option LearningMemoryRecord}
    (called : persistInSession std worker executions input now fresh ledger =
      some (.ok record, next)) :
    ∃ row, WrittenFrom std input row ∧
      (∀ other, other ≠ worker → row.signalKey ∉ (ledger.pending other).map (·.signalKey)) ∧
      ((row.signalKey ∈ (ledger.seen worker).map (·.signalKey) ∧
          record = LedgerState.latest (ledger.seen worker) input.tenantId input.targetType
            input.targetId ∧ next = ledger) ∨
        (row.signalKey ∉ (ledger.seen worker).map (·.signalKey) ∧ record = some row ∧
          next = ledger.setPending worker (ledger.pending worker ++ [row]))) := by
  unfold persistInSession at called
  split at called
  · cases called
  rename_i signal provenance bound
  dsimp only at called
  split at called
  · cases called
  rename_i free
  push Not at free
  refine ⟨_, ⟨signal, provenance, now, fresh, bound, rfl⟩, free, ?_⟩
  split at called
  · rename_i stored
    cases called
    exact .inl ⟨stored, rfl, rfl⟩
  rename_i unknown
  split at called
  · cases called
    exact .inr ⟨unknown, rfl, rfl⟩
  · cases called

/-- **What a call in a session of its own has done when it returned.** -/
theorem persist_returned {record : Option LearningMemoryRecord}
    (called : persist std executions input now fresh ledger = some (.ok record, next)) :
    ∃ row, WrittenFrom std input row ∧
      (∀ other, row.signalKey ∉ (ledger.pending other).map (·.signalKey)) ∧
      ((row.signalKey ∈ ledger.rows.map (·.signalKey) ∧
          record = LedgerState.latest ledger.rows input.tenantId input.targetType input.targetId ∧
          next = ledger) ∨
        (row.signalKey ∉ ledger.rows.map (·.signalKey) ∧ record = some row ∧
          next = { ledger with rows := ledger.rows ++ [row] })) := by
  unfold persist at called
  split at called
  · cases called
  rename_i signal provenance bound
  dsimp only at called
  split at called
  · cases called
  rename_i free
  push Not at free
  refine ⟨_, ⟨signal, provenance, now, fresh, bound, rfl⟩, free, ?_⟩
  split at called
  · rename_i stored
    cases called
    exact .inl ⟨stored, rfl, rfl⟩
  rename_i unknown
  split at called
  · cases called
    exact .inr ⟨unknown, rfl, rfl⟩
  · cases called

end Calls

/-! ### Runs -/

/-- A call that has returned. -/
structure LedgerCall where
  input : PersistLearningMemoryInput
  record : Option LearningMemoryRecord

/-- The ledger, every call that has returned, and the inputs of the calls in the open transactions and
of those that are committed. -/
structure LedgerRun (Worker : Type) where
  ledger : LedgerState Worker
  returned : List LedgerCall
  opened : Worker → List PersistLearningMemoryInput
  persisted : List PersistLearningMemoryInput

/-- The calls of the store, and the ends of the transactions around them. `executions` are the ids that
the foreign key sees. -/
inductive LedgerAction (Worker : Type) where
  | persist (executions : List Uuid) (input : PersistLearningMemoryInput) (now : Timestamp)
      (fresh : Uuid)
  | persistInSession (worker : Worker) (executions : List Uuid) (input : PersistLearningMemoryInput)
      (executionId : Option Uuid) (now : Timestamp) (fresh : Uuid)
  | commit (worker : Worker)
  | rollback (worker : Worker)

section Runs

variable {Worker : Type} [DecidableEq Worker] [Fintype Worker]

/-- End the transaction of a worker without its inserts. -/
def LedgerRun.rollback (run : LedgerRun Worker) (worker : Worker) : LedgerRun Worker :=
  { run with
    ledger := run.ledger.rollback worker
    opened := Function.update run.opened worker [] }

/-- Log a call of a worker's open transaction. -/
def openedWith (opened : Worker → List PersistLearningMemoryInput) (worker : Worker)
    (input : PersistLearningMemoryInput) : Worker → List PersistLearningMemoryInput :=
  Function.update opened worker (opened worker ++ [input])

/-- Run one call, or end one transaction; `none` while a call has to wait. A statement that raises in a
session aborts its transaction. -/
def ledgerStep (std : Stdlib) (run : LedgerRun Worker) : LedgerAction Worker →
    Option (LedgerRun Worker)
  | .persist executions input now fresh =>
      match persist std executions input now fresh run.ledger with
      | none => none
      | some (.error _, _) => some run
      | some (.ok record, ledger) => some { run with
          ledger
          returned := run.returned ++ [{ input, record }]
          persisted := run.persisted ++ [input] }
  | .persistInSession worker executions input executionId now fresh =>
      match persistInSession std worker executions (input.withExecution executionId) now fresh
        run.ledger with
      | none => none
      | some (.error _, _) => some (run.rollback worker)
      | some (.ok record, ledger) => some { run with
          ledger
          returned := run.returned ++ [{ input := input.withExecution executionId, record }]
          opened := openedWith run.opened worker (input.withExecution executionId) }
  | .commit worker => some { run with
      ledger := run.ledger.commit worker
      opened := Function.update run.opened worker []
      persisted := run.persisted ++ run.opened worker }
  | .rollback worker => some (run.rollback worker)

/-- The learning memory as a transition system. -/
def ledgerSystem (Worker : Type) [DecidableEq Worker] [Fintype Worker] (std : Stdlib) :
    Transition.System (LedgerRun Worker) (LedgerAction Worker) where
  step := ledgerStep std

/-- What a step has to respect: a call for a stored signal finds it newer than the other signals of its
target. -/
def RepeatAllowed (std : Stdlib) (run : LedgerRun Worker) : LedgerAction Worker → Prop
  | .persist _ input _ _ => FindsNewest std input run.ledger.rows
  | .persistInSession worker _ input _ _ _ => FindsNewest std input (run.ledger.seen worker)
  | .commit _ | .rollback _ => True

instance (std : Stdlib) (run : LedgerRun Worker) (action : LedgerAction Worker) :
    Decidable (RepeatAllowed std run action) := by
  cases action <;> unfold RepeatAllowed <;> infer_instance

/-- What a step has done: a call has raised, or returned a record, or a transaction has ended. -/
inductive LedgerStepped (std : Stdlib) (run : LedgerRun Worker) :
    LedgerAction Worker → LedgerRun Worker → Prop
  | raised (executions : List Uuid) (input : PersistLearningMemoryInput) (now : Timestamp)
      (fresh : Uuid) : LedgerStepped std run (.persist executions input now fresh) run
  | returned {executions : List Uuid} {input : PersistLearningMemoryInput} {now : Timestamp}
      {fresh : Uuid} {record : Option LearningMemoryRecord} {ledger : LedgerState Worker} :
      persist std executions input now fresh run.ledger = some (.ok record, ledger) →
      LedgerStepped std run (.persist executions input now fresh) { run with
        ledger
        returned := run.returned ++ [{ input, record }]
        persisted := run.persisted ++ [input] }
  | aborted (worker : Worker) (executions : List Uuid) (input : PersistLearningMemoryInput)
      (executionId : Option Uuid) (now : Timestamp) (fresh : Uuid) :
      LedgerStepped std run (.persistInSession worker executions input executionId now fresh)
        (run.rollback worker)
  | returnedInSession {worker : Worker} {executions : List Uuid} {input : PersistLearningMemoryInput}
      {executionId : Option Uuid} {now : Timestamp} {fresh : Uuid}
      {record : Option LearningMemoryRecord} {ledger : LedgerState Worker} :
      persistInSession std worker executions (input.withExecution executionId) now fresh run.ledger =
        some (.ok record, ledger) →
      LedgerStepped std run (.persistInSession worker executions input executionId now fresh) { run with
        ledger
        returned := run.returned ++ [{ input := input.withExecution executionId, record }]
        opened := openedWith run.opened worker (input.withExecution executionId) }
  | committed (worker : Worker) : LedgerStepped std run (.commit worker) { run with
      ledger := run.ledger.commit worker
      opened := Function.update run.opened worker []
      persisted := run.persisted ++ run.opened worker }
  | dropped (worker : Worker) : LedgerStepped std run (.rollback worker) (run.rollback worker)

/-- **Every step is one of these.** -/
theorem ledgerStep_cases {std : Stdlib} {run next : LedgerRun Worker} {action : LedgerAction Worker}
    (stepped : ledgerStep std run action = some next) : LedgerStepped std run action next := by
  cases action with
  | persist executions input now fresh =>
      unfold ledgerStep at stepped
      dsimp only at stepped
      split at stepped
      · cases stepped
      · cases stepped
        exact .raised executions input now fresh
      · rename_i called
        cases stepped
        exact .returned called
  | persistInSession worker executions input executionId now fresh =>
      unfold ledgerStep at stepped
      dsimp only at stepped
      split at stepped
      · cases stepped
      · cases stepped
        exact .aborted worker executions input executionId now fresh
      · rename_i called
        cases stepped
        exact .returnedInSession called
  | commit worker =>
      cases stepped
      exact .committed worker
  | rollback worker =>
      cases stepped
      exact .dropped worker

/-- The invariant, from an initial ledger. -/
structure LedgerSound (std : Stdlib) (initial : List LearningMemoryRecord) (run : LedgerRun Worker) :
    Prop where
  unique : (run.ledger.rows.map (·.signalKey)).Nodup
  pending : ∀ worker, ((run.ledger.pending worker).map (·.signalKey)).Nodup
  /-- what a transaction has inserted is neither in the table nor in another transaction -/
  fresh : ∀ worker, ∀ row ∈ run.ledger.pending worker,
    row.signalKey ∉ run.ledger.rows.map (·.signalKey)
  apart : ∀ first second, first ≠ second → ∀ row ∈ run.ledger.pending first,
    row.signalKey ∉ (run.ledger.pending second).map (·.signalKey)
  grown : initial <+: run.ledger.rows
  written : ∀ row ∈ run.ledger.rows, row ∈ initial ∨ ∃ input ∈ run.persisted, WrittenFrom std input row
  opened : ∀ worker, ∀ row ∈ run.ledger.pending worker,
    ∃ input ∈ run.opened worker, WrittenFrom std input row
  stored : ∀ input ∈ run.persisted, ∃ key ∈ input.key std, key ∈ run.ledger.rows.map (·.signalKey)
  seen : ∀ worker, ∀ input ∈ run.opened worker, ∃ key ∈ input.key std,
    key ∈ (run.ledger.seen worker).map (·.signalKey)

variable {std : Stdlib} {initial : List LearningMemoryRecord} {run next : LedgerRun Worker}
  {worker : Worker}

theorem LedgerSound.seen_unique (sound : LedgerSound std initial run) (worker : Worker) :
    ((run.ledger.seen worker).map (·.signalKey)).Nodup := by
  unfold LedgerState.seen
  rw [List.map_append, List.nodup_append]
  refine ⟨sound.unique, sound.pending worker, ?_⟩
  intro key stored other inserted same
  obtain ⟨row, member, rfl⟩ := List.mem_map.mp inserted
  rw [same] at stored
  exact sound.fresh worker row member stored

theorem LedgerSound.persist {executions : List Uuid} {input : PersistLearningMemoryInput}
    {now : Timestamp} {fresh : Uuid} {record : Option LearningMemoryRecord}
    {ledger : LedgerState Worker} {returned : List LedgerCall} (sound : LedgerSound std initial run)
    (called : CosMonitor.persist std executions input now fresh run.ledger = some (.ok record, ledger)) :
    LedgerSound std initial { run with ledger, returned, persisted := run.persisted ++ [input] } := by
  obtain ⟨row, written, free, outcome⟩ := persist_returned called
  rcases outcome with ⟨stored, -, rfl⟩ | ⟨unknown, -, rfl⟩
  · refine ⟨sound.unique, sound.pending, sound.fresh, sound.apart, sound.grown, ?_, sound.opened, ?_,
      sound.seen⟩
    · intro old oldIn
      rcases sound.written old oldIn with start | ⟨past, pastIn, from'⟩
      · exact .inl start
      · exact .inr ⟨past, List.mem_append_left _ pastIn, from'⟩
    · intro past pastIn
      rcases List.mem_append.mp pastIn with older | new
      · exact sound.stored past older
      · rw [List.mem_singleton.mp new]
        exact ⟨row.signalKey, written.key, stored⟩
  · refine ⟨?_, sound.pending, ?_, sound.apart, sound.grown.trans (List.prefix_append _ _), ?_,
      sound.opened, ?_, ?_⟩
    · show ((run.ledger.rows ++ [row]).map _).Nodup
      rw [List.map_append, List.nodup_append]
      refine ⟨sound.unique, List.nodup_singleton _, ?_⟩
      intro key stored other new same
      rw [List.map_singleton, List.mem_singleton] at new
      rw [same, new] at stored
      exact unknown stored
    · intro worker old oldIn stored
      obtain ⟨other, otherIn, same⟩ := List.mem_map.mp stored
      rcases List.mem_append.mp otherIn with older | new
      · exact sound.fresh worker old oldIn (List.mem_map.mpr ⟨other, older, same⟩)
      · rw [List.mem_singleton.mp new] at same
        exact free worker (List.mem_map.mpr ⟨old, oldIn, same.symm⟩)
    · intro old oldIn
      rcases List.mem_append.mp oldIn with older | new
      · rcases sound.written old older with start | ⟨past, pastIn, from'⟩
        · exact .inl start
        · exact .inr ⟨past, List.mem_append_left _ pastIn, from'⟩
      · rw [List.mem_singleton.mp new]
        exact .inr ⟨input, List.mem_append_right _ (List.mem_singleton_self _), written⟩
    · intro past pastIn
      show ∃ key ∈ past.key std, key ∈ (run.ledger.rows ++ [row]).map _
      rw [List.map_append]
      rcases List.mem_append.mp pastIn with older | new
      · obtain ⟨key, isKey, stored⟩ := sound.stored past older
        exact ⟨key, isKey, List.mem_append_left _ stored⟩
      · rw [List.mem_singleton.mp new]
        exact ⟨row.signalKey, written.key, List.mem_append_right _ (List.mem_singleton_self _)⟩
    · intro worker past pastIn
      obtain ⟨key, isKey, seen⟩ := sound.seen worker past pastIn
      refine ⟨key, isKey, ?_⟩
      obtain ⟨old, oldIn, same⟩ := List.mem_map.mp seen
      refine List.mem_map.mpr ⟨old, ?_, same⟩
      rcases List.mem_append.mp oldIn with stored | inserted
      · exact List.mem_append_left _ (List.mem_append_left _ stored)
      · exact List.mem_append_right _ inserted

theorem mem_openedWith {opened : Worker → List PersistLearningMemoryInput} {other : Worker}
    {input past : PersistLearningMemoryInput} :
    past ∈ openedWith opened worker input other ↔
      past ∈ opened other ∨ other = worker ∧ past = input := by
  unfold openedWith
  by_cases isWorker : other = worker
  · subst isWorker
    rw [Function.update_self, List.mem_append, List.mem_singleton]
    simp
  · rw [Function.update_of_ne isWorker]
    simp [isWorker]

theorem LedgerSound.found {input : PersistLearningMemoryInput} {row : LearningMemoryRecord}
    {returned : List LedgerCall} (sound : LedgerSound std initial run)
    (written : WrittenFrom std input row)
    (stored : row.signalKey ∈ (run.ledger.seen worker).map (·.signalKey)) :
    LedgerSound std initial { run with
      returned
      opened := openedWith run.opened worker input } := by
  refine ⟨sound.unique, sound.pending, sound.fresh, sound.apart, sound.grown, sound.written, ?_,
    sound.stored, ?_⟩
  · intro other old oldIn
    obtain ⟨past, pastIn, from'⟩ := sound.opened other old oldIn
    exact ⟨past, mem_openedWith.mpr (.inl pastIn), from'⟩
  · intro other past pastIn
    rcases mem_openedWith.mp pastIn with older | ⟨rfl, rfl⟩
    · exact sound.seen other past older
    · exact ⟨row.signalKey, written.key, stored⟩

theorem LedgerSound.inserted {input : PersistLearningMemoryInput} {row : LearningMemoryRecord}
    {returned : List LedgerCall} (sound : LedgerSound std initial run)
    (written : WrittenFrom std input row)
    (free : ∀ other, other ≠ worker →
      row.signalKey ∉ (run.ledger.pending other).map (·.signalKey))
    (unknown : row.signalKey ∉ (run.ledger.seen worker).map (·.signalKey)) :
    LedgerSound std initial { run with
      ledger := run.ledger.setPending worker (run.ledger.pending worker ++ [row])
      returned
      opened := openedWith run.opened worker input } := by
  have notStored : row.signalKey ∉ run.ledger.rows.map (·.signalKey) := by
    intro stored
    obtain ⟨old, oldIn, same⟩ := List.mem_map.mp stored
    exact unknown (List.mem_map.mpr ⟨old, List.mem_append_left _ oldIn, same⟩)
  have notOwn : row.signalKey ∉ (run.ledger.pending worker).map (·.signalKey) := by
    intro stored
    obtain ⟨old, oldIn, same⟩ := List.mem_map.mp stored
    exact unknown (List.mem_map.mpr ⟨old, List.mem_append_right _ oldIn, same⟩)
  have own : (run.ledger.setPending worker (run.ledger.pending worker ++ [row])).pending worker =
      run.ledger.pending worker ++ [row] := LedgerState.setPending_self _
  have others : ∀ other, other ≠ worker →
      (run.ledger.setPending worker (run.ledger.pending worker ++ [row])).pending other =
        run.ledger.pending other := fun other differ => LedgerState.setPending_ne differ _
  refine ⟨sound.unique, ?_, ?_, ?_, sound.grown, sound.written, ?_, sound.stored, ?_⟩
  · intro other
    by_cases isWorker : other = worker
    · rw [isWorker, own, List.map_append, List.nodup_append]
      refine ⟨sound.pending worker, List.nodup_singleton _, ?_⟩
      intro key stored new newIn same
      rw [List.map_singleton, List.mem_singleton] at newIn
      rw [same, newIn] at stored
      exact notOwn stored
    · rw [others other isWorker]
      exact sound.pending other
  · intro other old oldIn
    by_cases isWorker : other = worker
    · rw [isWorker, own] at oldIn
      rcases List.mem_append.mp oldIn with older | new
      · exact sound.fresh worker old older
      · rw [List.mem_singleton.mp new]
        exact notStored
    · rw [others other isWorker] at oldIn
      exact sound.fresh other old oldIn
  · intro first second differ old oldIn
    by_cases firstIs : first = worker
    · have secondIs : second ≠ worker := fun same => differ (firstIs.trans same.symm)
      rw [firstIs, own] at oldIn
      rw [others second secondIs]
      rcases List.mem_append.mp oldIn with older | new
      · rw [firstIs] at differ
        exact sound.apart worker second differ old older
      · rw [List.mem_singleton.mp new]
        exact free second secondIs
    · rw [others first firstIs] at oldIn
      by_cases secondIs : second = worker
      · rw [secondIs, own, List.map_append]
        intro stored
        rcases List.mem_append.mp stored with older | new
        · rw [secondIs] at differ
          exact sound.apart first worker differ old oldIn older
        · rw [List.map_singleton, List.mem_singleton] at new
          exact free first firstIs (List.mem_map.mpr ⟨old, oldIn, new⟩)
      · rw [others second secondIs]
        exact sound.apart first second differ old oldIn
  · intro other old oldIn
    by_cases isWorker : other = worker
    · rw [isWorker, own] at oldIn
      rcases List.mem_append.mp oldIn with older | new
      · obtain ⟨past, pastIn, from'⟩ := sound.opened worker old older
        rw [← isWorker] at pastIn
        exact ⟨past, mem_openedWith.mpr (.inl pastIn), from'⟩
      · rw [List.mem_singleton.mp new]
        exact ⟨input, mem_openedWith.mpr (.inr ⟨isWorker, rfl⟩), written⟩
    · rw [others other isWorker] at oldIn
      obtain ⟨past, pastIn, from'⟩ := sound.opened other old oldIn
      exact ⟨past, mem_openedWith.mpr (.inl pastIn), from'⟩
  · intro other past pastIn
    rcases mem_openedWith.mp pastIn with older | ⟨isWorker, isInput⟩
    · obtain ⟨key, isKey, seen⟩ := sound.seen other past older
      refine ⟨key, isKey, ?_⟩
      obtain ⟨old, oldIn, same⟩ := List.mem_map.mp seen
      refine List.mem_map.mpr ⟨old, ?_, same⟩
      rcases List.mem_append.mp oldIn with stored | inserted
      · exact List.mem_append_left _ stored
      · refine List.mem_append_right _ ?_
        by_cases isWorker : other = worker
        · rw [isWorker] at inserted ⊢
          rw [own]
          exact List.mem_append_left _ inserted
        · rw [others other isWorker]
          exact inserted
    · rw [isInput, isWorker]
      refine ⟨row.signalKey, written.key, List.mem_map.mpr ⟨row, ?_, rfl⟩⟩
      refine List.mem_append_right _ ?_
      rw [own]
      exact List.mem_append_right _ (List.mem_singleton_self _)

theorem LedgerSound.rollback (sound : LedgerSound std initial run) :
    LedgerSound std initial (run.rollback worker) := by
  have own : (run.ledger.setPending worker []).pending worker = [] := LedgerState.setPending_self []
  have others : ∀ other, other ≠ worker →
      (run.ledger.rollback worker).pending other = run.ledger.pending other :=
    fun other differ => LedgerState.setPending_ne differ _
  have kept : ∀ other, ∀ row ∈ (run.ledger.rollback worker).pending other,
      other ≠ worker ∧ row ∈ run.ledger.pending other := by
    intro other row member
    by_cases isWorker : other = worker
    · rw [isWorker] at member
      unfold LedgerState.rollback at member
      rw [own] at member
      cases member
    · rw [others other isWorker] at member
      exact ⟨isWorker, member⟩
  refine ⟨sound.unique, ?_, ?_, ?_, sound.grown, sound.written, ?_, sound.stored, ?_⟩
  · intro other
    by_cases isWorker : other = worker
    · rw [isWorker]
      show (((run.ledger.setPending worker []).pending worker).map _).Nodup
      rw [own]
      exact List.nodup_nil
    · show (((run.ledger.rollback worker).pending other).map _).Nodup
      rw [others other isWorker]
      exact sound.pending other
  · intro other row member
    exact sound.fresh other row (kept other row member).2
  · intro first second differ row member stored
    obtain ⟨old, oldIn, same⟩ := List.mem_map.mp stored
    exact sound.apart first second differ row (kept first row member).2
      (List.mem_map.mpr ⟨old, (kept second old oldIn).2, same⟩)
  · intro other row member
    obtain ⟨isOther, stays⟩ := kept other row member
    show ∃ input ∈ Function.update run.opened worker [] other, _
    rw [Function.update_of_ne isOther]
    exact sound.opened other row stays
  · intro other past pastIn
    by_cases isWorker : other = worker
    · rw [isWorker] at pastIn
      have nothing : (run.rollback worker).opened worker = [] := Function.update_self _ _ _
      rw [nothing] at pastIn
      cases pastIn
    · have same : (run.rollback worker).opened other = run.opened other :=
        Function.update_of_ne isWorker _ _
      rw [same] at pastIn
      show ∃ key ∈ past.key std, key ∈ (run.ledger.rows ++ (run.ledger.rollback worker).pending
        other).map _
      rw [others other isWorker]
      exact sound.seen other past pastIn

/-- **Committing a transaction keeps the invariant**: its rows become rows of the table. -/
theorem LedgerSound.commit (sound : LedgerSound std initial run) :
    LedgerSound std initial { run with
      ledger := run.ledger.commit worker
      opened := Function.update run.opened worker []
      persisted := run.persisted ++ run.opened worker } := by
  have dropped : LedgerSound std initial (run.rollback worker) := sound.rollback
  have others : ∀ other, other ≠ worker →
      (run.ledger.rollback worker).pending other = run.ledger.pending other :=
    fun other differ => LedgerState.setPending_ne differ _
  have notOwn : ∀ other, ∀ row ∈ (run.ledger.rollback worker).pending other, other ≠ worker := by
    intro other row member same
    rw [same] at member
    unfold LedgerState.rollback at member
    rw [LedgerState.setPending_self] at member
    cases member
  refine ⟨sound.seen_unique worker, dropped.pending, ?_, dropped.apart,
    sound.grown.trans (List.prefix_append _ _), ?_, dropped.opened, ?_, ?_⟩
  · intro other row member stored
    have isOther := notOwn other row member
    obtain ⟨old, oldIn, same⟩ := List.mem_map.mp stored
    rcases List.mem_append.mp oldIn with older | inserted
    · exact dropped.fresh other row member (List.mem_map.mpr ⟨old, older, same⟩)
    · have stays : row ∈ (run.ledger.rollback worker).pending other := member
      rw [others other isOther] at stays
      exact sound.apart other worker isOther row stays (List.mem_map.mpr ⟨old, inserted, same⟩)
  · intro row member
    rcases List.mem_append.mp member with older | inserted
    · rcases sound.written row older with start | ⟨past, pastIn, from'⟩
      · exact .inl start
      · exact .inr ⟨past, List.mem_append_left _ pastIn, from'⟩
    · obtain ⟨past, pastIn, from'⟩ := sound.opened worker row inserted
      exact .inr ⟨past, List.mem_append_right _ pastIn, from'⟩
  · intro past pastIn
    rcases List.mem_append.mp pastIn with older | new
    · obtain ⟨key, isKey, stored⟩ := sound.stored past older
      refine ⟨key, isKey, ?_⟩
      obtain ⟨old, oldIn, same⟩ := List.mem_map.mp stored
      exact List.mem_map.mpr ⟨old, List.mem_append_left _ oldIn, same⟩
    · exact sound.seen worker past new
  · intro other past pastIn
    obtain ⟨key, isKey, seen⟩ := dropped.seen other past pastIn
    refine ⟨key, isKey, ?_⟩
    obtain ⟨old, oldIn, same⟩ := List.mem_map.mp seen
    refine List.mem_map.mpr ⟨old, ?_, same⟩
    rcases List.mem_append.mp oldIn with stored | inserted
    · exact List.mem_append_left _ (List.mem_append_left _ stored)
    · exact List.mem_append_right _ inserted

/-- **Every step keeps the invariant.** -/
theorem LedgerSound.step {action : LedgerAction Worker} (sound : LedgerSound std initial run)
    (stepped : ledgerStep std run action = some next) : LedgerSound std initial next := by
  cases ledgerStep_cases stepped with
  | raised executions input now fresh => exact sound
  | returned called => exact sound.persist called
  | aborted worker executions input executionId now fresh => exact sound.rollback
  | returnedInSession called =>
      obtain ⟨row, written, free, ⟨stored, -, rfl⟩ | ⟨unknown, -, rfl⟩⟩ :=
        persistInSession_returned called
      · exact sound.found written stored
      · exact sound.inserted written free unknown
  | committed worker => exact sound.commit
  | dropped worker => exact sound.rollback

/-! ### What the calls return -/

/-- **An allowed step returns a record of its signal.** -/
theorem answers_step {action : LedgerAction Worker} (allowed : RepeatAllowed std run action)
    (stepped : ledgerStep std run action = some next)
    (answers : ∀ call ∈ run.returned, Answers std call.input call.record) :
    ∀ call ∈ next.returned, Answers std call.input call.record := by
  cases ledgerStep_cases stepped with
  | raised executions input now fresh => exact answers
  | returned called =>
      refine List.forall_mem_append.mpr ⟨answers, List.forall_mem_singleton.mpr ?_⟩
      obtain ⟨row, written, -, ⟨stored, rfl, -⟩ | ⟨-, rfl, -⟩⟩ := persist_returned called
      · exact latest_answers written stored allowed
      · exact ⟨row, rfl, written.key⟩
  | aborted worker executions input executionId now fresh => exact answers
  | returnedInSession called =>
      refine List.forall_mem_append.mpr ⟨answers, List.forall_mem_singleton.mpr ?_⟩
      obtain ⟨row, written, -, ⟨stored, rfl, -⟩ | ⟨-, rfl, -⟩⟩ := persistInSession_returned called
      · exact latest_answers written stored allowed
      · exact ⟨row, rfl, written.key⟩
  | committed worker => exact answers
  | dropped worker => exact answers

theorem rows_grow {action : LedgerAction Worker} (stepped : ledgerStep std run action = some next) :
    run.ledger.rows <+: next.ledger.rows := by
  cases ledgerStep_cases stepped with
  | raised executions input now fresh => exact List.prefix_rfl
  | returned called =>
      obtain ⟨row, -, -, ⟨-, -, rfl⟩ | ⟨-, -, rfl⟩⟩ := persist_returned called
      · exact List.prefix_rfl
      · exact List.prefix_append _ _
  | aborted worker executions input executionId now fresh => exact List.prefix_rfl
  | returnedInSession called =>
      show run.ledger.rows <+: LedgerState.rows _
      rw [(persistInSession_frame called).1]
  | committed worker => exact List.prefix_append _ _
  | dropped worker => exact List.prefix_rfl

/-- A ledger that no transaction uses, before any call. -/
structure UnusedLedger (run : LedgerRun Worker) : Prop where
  unique : (run.ledger.rows.map (·.signalKey)).Nodup
  pending : ∀ worker, run.ledger.pending worker = []
  opened : ∀ worker, run.opened worker = []
  returned : run.returned = []
  persisted : run.persisted = []

theorem UnusedLedger.sound (unused : UnusedLedger run) : LedgerSound std run.ledger.rows run := by
  refine ⟨unused.unique, ?_, ?_, ?_, List.prefix_rfl, fun _ => .inl, ?_, ?_, ?_⟩
  · intro worker
    rw [unused.pending]
    exact List.nodup_nil
  · intro worker row member
    rw [unused.pending] at member
    cases member
  · intro first second _ row member
    rw [unused.pending] at member
    cases member
  · intro worker row member
    rw [unused.pending] at member
    cases member
  · intro input member
    rw [unused.persisted] at member
    cases member
  · intro worker input member
    rw [unused.opened] at member
    cases member

/-- What the ledger promises: one row for each key that was there or that a committed call has
persisted, no row changes, and every call returns a record of its signal. -/
structure LedgerLaw (std : Stdlib) (initial : List LearningMemoryRecord) (run : LedgerRun Worker) :
    Prop where
  unique : (run.ledger.rows.map (·.signalKey)).Nodup
  keys : ∀ key, key ∈ run.ledger.rows.map (·.signalKey) ↔
    key ∈ initial.map (·.signalKey) ∨ ∃ input ∈ run.persisted, input.key std = some key
  grown : initial <+: run.ledger.rows
  answers : ∀ call ∈ run.returned, Answers std call.input call.record

/-- **The law of the ledger.** It holds in every state of a run in which each call for a stored signal
finds it newer than the other signals of its target, from any ledger that no transaction uses, for any
number of transactions; and no step changes a row. -/
theorem ledger_law (std : Stdlib) (initial run : LedgerRun Worker) (unused : UnusedLedger initial)
    (reached : (ledgerSystem Worker std).Reachable (RepeatAllowed std) initial run) :
    LedgerLaw std initial.ledger.rows run ∧ ∀ action next, ledgerStep std run action = some next →
      run.ledger.rows <+: next.ledger.rows := by
  have sound : LedgerSound std initial.ledger.rows run :=
    reached.invariant unused.sound fun before action after holds _ moved => holds.step moved
  have answers : ∀ call ∈ run.returned, Answers std call.input call.record := by
    refine reached.invariant (fun call member => ?_) fun before action after holds allowed moved =>
      answers_step allowed moved holds
    rw [unused.returned] at member
    cases member
  refine ⟨⟨sound.unique, fun key => ⟨fun stored => ?_, ?_⟩, sound.grown, answers⟩,
    fun action next stepped => rows_grow stepped⟩
  · obtain ⟨row, member, rfl⟩ := List.mem_map.mp stored
    rcases sound.written row member with start | ⟨input, inputIn, written⟩
    · exact .inl (List.mem_map_of_mem start)
    · exact .inr ⟨input, inputIn, written.key⟩
  · rintro (start | ⟨input, inputIn, isKey⟩)
    · obtain ⟨row, member, rfl⟩ := List.mem_map.mp start
      exact List.mem_map_of_mem (sound.grown.subset member)
    · obtain ⟨own, ownKey, stored⟩ := sound.stored input inputIn
      rw [Option.mem_unique ownKey isKey] at stored
      exact stored

end Runs

/-- A library with the hashes of two signals. -/
def scoreHashes : Stdlib :=
  { Stdlib.constant with
    sha256Hex := fun text =>
      if text = dumpsSorted .constant (.obj [("score", .int 0)]) then
        "628cb4ead38e34e34a34f78fa4481f2a0ccf8e9139acfae69d79dc997e90e36b"
      else "9b9b3a1471309177261cfe65ea9c298e0dd372e4b5d087f8d35d7b732485373d" }

/-- A signal of a pattern, without an execution. -/
def scoreInput (score : Int) : PersistLearningMemoryInput where
  tenantId := 1
  targetType := .pattern
  targetId := 2
  signal := some (.obj [("score", .int score)])
  provenance := .obj []
  executionId := none

/-- The empty ledger. -/
def emptyLedger : LedgerRun (Fin 1) where
  ledger := { rows := [], pending := fun _ => [] }
  returned := []
  opened := fun _ => []
  persisted := []

theorem unused_emptyLedger : UnusedLedger emptyLedger :=
  ⟨List.nodup_nil, fun _ => rfl, fun _ => rfl, rfl, rfl⟩

/-- The signals A, B and B again, the last in a transaction. -/
theorem ledger_law_repeated :
    ∃ run : LedgerRun (Fin 1), run.returned.length = 3 ∧ run.ledger.rows.length = 2 ∧
      LedgerLaw scoreHashes [] run := by
  have executed : ((ledgerSystem (Fin 1) scoreHashes).guardedRun (RepeatAllowed scoreHashes)
      emptyLedger [.persist [] (scoreInput 0) 1 11, .persist [] (scoreInput 1) 2 12,
        .persistInSession 0 [] (scoreInput 1) none 3 13, .commit 0]).map
          (fun run => (run.returned.length, run.ledger.rows.length)) = some (3, 2) := by
    decide +kernel
  obtain ⟨run, ran, counts⟩ := Option.map_eq_some_iff.mp executed
  obtain ⟨returned, rows⟩ := Prod.mk.inj counts
  exact ⟨run, returned, rows, (ledger_law scoreHashes emptyLedger run unused_emptyLedger
    (Transition.System.guardedRun_reachable ran)).1⟩

/-- The signals A, B and A again: the third call returns the record of B. -/
theorem ledger_returns_latest :
    ∃ run : LedgerRun (Fin 1),
      (ledgerSystem (Fin 1) scoreHashes).Reachable (fun _ _ => True) emptyLedger run ∧
      ¬LedgerLaw scoreHashes [] run := by
  have executed : ((ledgerSystem (Fin 1) scoreHashes).guardedRun (fun _ _ => True)
      emptyLedger [.persist [] (scoreInput 0) 1 11, .persist [] (scoreInput 1) 2 12,
        .persist [] (scoreInput 0) 3 13]).map
          (fun run => decide (∀ call ∈ run.returned, Answers scoreHashes call.input call.record)) =
      some false := by
    decide +kernel
  obtain ⟨run, ran, wrong⟩ := Option.map_eq_some_iff.mp executed
  exact ⟨run, Transition.System.guardedRun_reachable ran, fun law =>
    of_decide_eq_false wrong law.answers⟩

/-! ### Listings -/

section Listing

variable {Worker : Type} [DecidableEq Worker] [Fintype Worker]

/-- A listing of the stored records that a filter accepts: none twice, each as it was written, and one
for every input of a committed call that the filter accepts. -/
structure ListsPersisted (std : Stdlib) (initial : List LearningMemoryRecord) (run : LedgerRun Worker)
    (filter : MemoryFilter) (records : List LearningMemoryRecord) : Prop where
  stored : records.Perm (run.ledger.rows.filter filter.accepts)
  unique : (records.map (·.signalKey)).Nodup
  written : ∀ record ∈ records, record ∈ initial ∨ ∃ input ∈ run.persisted,
    WrittenFrom std input record
  complete : ∀ input ∈ run.persisted,
    filter.acceptsTarget input.tenantId input.targetType input.targetId = true →
      ∃ record ∈ records, input.key std = some record.signalKey

/-- **When a listing returns what was persisted.** `run` is any ledger that calls reach, in any number
of transactions: `list` returns its records exactly when the filter accepts none of them. -/
theorem list_iff (std : Stdlib) (initial run : LedgerRun Worker) (filter : MemoryFilter)
    (unused : UnusedLedger initial)
    (reached : (ledgerSystem Worker std).Reachable (fun _ _ => True) initial run) :
    (∃ records, listMemory filter run.ledger.rows = .ok records ∧
        ListsPersisted std initial.ledger.rows run filter records) ↔
      ∀ row ∈ run.ledger.rows, filter.accepts row = false := by
  have sound : LedgerSound std initial.ledger.rows run :=
    reached.invariant unused.sound fun before action after holds _ moved => holds.step moved
  constructor
  · rintro ⟨records, listed, -⟩ row member
    by_contra accepted
    have matching : row ∈ (run.ledger.rows.filter filter.accepts).mergeSort fun first second =>
        decide (second.createdAt ≤ first.createdAt) :=
      List.mem_mergeSort.mpr (List.mem_filter.mpr ⟨member, by simpa using accepted⟩)
    -- The first row of the listing is not decoded.
    unfold listMemory at listed
    cases sorted : (run.ledger.rows.filter filter.accepts).mergeSort fun first second =>
        decide (second.createdAt ≤ first.createdAt) with
    | nil =>
        rw [sorted] at matching
        cases matching
    | cons first rest =>
        rw [sorted, List.mapM_cons, rowToRecord_listColumns] at listed
        cases listed
  · intro nothing
    have none : run.ledger.rows.filter filter.accepts = [] := by
      rw [List.filter_eq_nil_iff]
      intro row member
      rw [nothing row member]
      exact Bool.false_ne_true
    refine ⟨[], ?_, ?_, List.nodup_nil, ?_, ?_⟩
    · unfold listMemory
      rw [none, List.mergeSort_nil, List.mapM_nil]
      rfl
    · rw [none]
    · rintro _ ⟨⟩
    · intro input inputIn accepted
      obtain ⟨key, isKey, stored⟩ := sound.stored input inputIn
      obtain ⟨row, member, rfl⟩ := List.mem_map.mp stored
      obtain ⟨signal, -, same⟩ := Option.map_eq_some_iff.mp isKey
      obtain ⟨tenant, target, targetId, -⟩ : input.tenantId = row.tenantId ∧
          input.targetType = row.targetType ∧ input.targetId = row.targetId ∧
          computeSignalHash std signal = row.signalHash := by
        simpa [LearningMemoryRecord.signalKey] using same
      have refused := nothing row member
      unfold MemoryFilter.accepts at refused
      rw [← tenant, ← target, ← targetId, accepted] at refused
      cases refused

end Listing

/-- One signal of the first tenant is stored. -/
def oneSignal : List (LedgerAction (Fin 1)) :=
  [.persist [] (scoreInput 0) 1 11]

/-- What is listed for another tenant is empty. -/
theorem list_iff_other_tenant :
    ∃ run : LedgerRun (Fin 1), run.ledger.rows.length = 1 ∧ ∃ records,
      listMemory ⟨2, none, none⟩ run.ledger.rows = .ok records ∧
        ListsPersisted scoreHashes [] run ⟨2, none, none⟩ records := by
  have executed : ((ledgerSystem (Fin 1) scoreHashes).guardedRun (fun _ _ => True) emptyLedger
      oneSignal).map (fun run => (run.ledger.rows.length,
        decide (∀ row ∈ run.ledger.rows, MemoryFilter.accepts ⟨2, none, none⟩ row = false))) =
      some (1, true) := by
    decide +kernel
  obtain ⟨run, ran, facts⟩ := Option.map_eq_some_iff.mp executed
  obtain ⟨stored, refused⟩ := Prod.mk.inj facts
  exact ⟨run, stored, (list_iff scoreHashes emptyLedger run ⟨2, none, none⟩ unused_emptyLedger
    (Transition.System.guardedRun_reachable ran)).mpr (of_decide_eq_true refused)⟩

/-- The listing of the tenant with the signal raises. -/
theorem list_raises :
    ∃ run : LedgerRun (Fin 1),
      (ledgerSystem (Fin 1) scoreHashes).Reachable (fun _ _ => True) emptyLedger run ∧
      ¬∃ records, listMemory ⟨1, none, none⟩ run.ledger.rows = .ok records ∧
        ListsPersisted scoreHashes [] run ⟨1, none, none⟩ records := by
  have executed : ((ledgerSystem (Fin 1) scoreHashes).guardedRun (fun _ _ => True) emptyLedger
      oneSignal).map (fun run => (listMemory ⟨1, none, none⟩ run.ledger.rows).toOption.isSome) =
      some false := by
    decide +kernel
  obtain ⟨run, ran, raised⟩ := Option.map_eq_some_iff.mp executed
  refine ⟨run, Transition.System.guardedRun_reachable ran, ?_⟩
  rintro ⟨records, listed, -⟩
  rw [listed] at raised
  cases raised

end CosMonitor
