/-
**The learning memory — an append-only ledger of signals.**

* `computeSignalHash`: SHA-256 of the signal with sorted keys; the unique index on the hash makes a
  repeated signal a no-op;
* `persistInSession`: the insert inside a caller's transaction, which waits while another transaction
  holds the same key;
* `persistInSession_cases`: it leaves the rows and the other transactions alone, and adds at most the
  row of its input;
* `persist`: the same in a session of its own;
* `listMemory`: the rows that a filter accepts, decoded column by column.
-/

import CosMonitor.Base.JsonTexts
import CosMonitor.Learning.ExecutionStore

set_option linter.unusedSectionVars false

namespace CosMonitor

/-- `TARGET_TYPES`. -/
inductive MemoryTarget where
  | pattern
  | context
  | insight
  | decision
  deriving DecidableEq, Repr

/-- A signal to persist; `none` is a signal with a float that JSON does not have. -/
structure PersistLearningMemoryInput where
  tenantId : Uuid
  targetType : MemoryTarget
  targetId : Uuid
  signal : Option Json
  provenance : Json
  executionId : Option Uuid
  deriving DecidableEq

/-- A row of `learning_memory`. -/
structure LearningMemoryRecord where
  id : Uuid
  tenantId : Uuid
  targetType : MemoryTarget
  targetId : Uuid
  signal : Json
  provenance : Json
  signalHash : String
  executionId : Option Uuid
  createdAt : Timestamp
  deriving DecidableEq

/-! ### The hash of a signal -/

section Hash

variable (std : Stdlib)

/-- Sorted keys, no white space. -/
def compactStyle : JsonStyle where
  floatText := std.floatRepr
  ascii := true
  keyAscii := true
  gap := []
  sortKeys := true

/-- `json.dumps(value, sort_keys=True, separators=(",", ":"))`. -/
def dumpsSorted (value : Json) : String :=
  String.ofList ((compactStyle std).chars value)

/-- Deterministic SHA-256 of a signal. -/
def computeSignalHash (signal : Json) : String :=
  std.sha256Hex (dumpsSorted std signal)

end Hash

/-! ### The table and its open transactions -/

/-- The committed rows, and the rows that every open transaction has inserted. -/
structure LedgerState (Worker : Type) where
  rows : List LearningMemoryRecord
  pending : Worker → List LearningMemoryRecord

/-- The key of `uq_learning_memory_signal`. -/
def LearningMemoryRecord.signalKey (record : LearningMemoryRecord) :
    Uuid × MemoryTarget × Uuid × String :=
  (record.tenantId, record.targetType, record.targetId, record.signalHash)

namespace LedgerState

variable {Worker : Type} [DecidableEq Worker]

/-- The rows that a transaction sees. -/
def seen (ledger : LedgerState Worker) (worker : Worker) : List LearningMemoryRecord :=
  ledger.rows ++ ledger.pending worker

/-- Put the rows that a transaction has inserted. -/
def setPending (ledger : LedgerState Worker) (worker : Worker) (rows : List LearningMemoryRecord) :
    LedgerState Worker :=
  { ledger with pending := Function.update ledger.pending worker rows }

/-- Drop what a transaction has inserted. -/
def rollback (ledger : LedgerState Worker) (worker : Worker) : LedgerState Worker :=
  ledger.setPending worker []

/-- Make what a transaction sees the table. -/
def commit (ledger : LedgerState Worker) (worker : Worker) : LedgerState Worker :=
  { ledger.setPending worker [] with rows := ledger.seen worker }

/-- `_GET_LATEST_SQL`: the latest row of a target. -/
def latest (rows : List LearningMemoryRecord) (tenantId : Uuid) (targetType : MemoryTarget)
    (targetId : Uuid) : Option LearningMemoryRecord :=
  let ofTarget := rows.filter fun row =>
    decide (row.tenantId = tenantId ∧ row.targetType = targetType ∧ row.targetId = targetId)
  -- the order of `Int` by name: the search for it may end at one that does not compute
  @List.argmax _ _ Int.instLinearOrder.toPreorder _ LearningMemoryRecord.createdAt ofTarget

end LedgerState

section Persist

variable {Worker : Type} [DecidableEq Worker] [Fintype Worker]

/-- The row of an input. -/
def PersistLearningMemoryInput.toRow (std : Stdlib) (input : PersistLearningMemoryInput)
    (signal provenance : Json) (now : Timestamp) (fresh : Uuid) : LearningMemoryRecord where
  id := fresh
  tenantId := input.tenantId
  targetType := input.targetType
  targetId := input.targetId
  signal
  provenance
  signalHash := computeSignalHash std signal
  executionId := input.executionId
  createdAt := now

/-- The two documents of an input as the statement binds them. -/
def PersistLearningMemoryInput.documents (input : PersistLearningMemoryInput) :
    Except DbError (Json × Json) :=
  match input.signal with
  | none => .error .invalidJson
  | some signal => do
      let signal ← jsonb signal
      let provenance ← jsonb input.provenance
      return (signal, provenance)

/-- `persist_in_session`: `INSERT … ON CONFLICT … DO NOTHING RETURNING`, and the latest row of the
target when nothing was inserted. `executions` are the ids that the foreign key of the transaction
sees. -/
def persistInSession (std : Stdlib) (worker : Worker) (executions : List Uuid)
    (input : PersistLearningMemoryInput) (now : Timestamp) (fresh : Uuid)
    (ledger : LedgerState Worker) : Answer (Option LearningMemoryRecord) (LedgerState Worker) :=
  match input.documents with
  | .error failure => some (.error failure, ledger)
  | .ok (signal, provenance) =>
      let row := input.toRow std signal provenance now fresh
      if ∃ other, other ≠ worker ∧ row.signalKey ∈ (ledger.pending other).map (·.signalKey) then none
      else if row.signalKey ∈ (ledger.seen worker).map (·.signalKey) then
        some (.ok (LedgerState.latest (ledger.seen worker) input.tenantId input.targetType
          input.targetId), ledger)
      else if input.executionId.all fun id => decide (id ∈ executions) then
        some (.ok (some row), ledger.setPending worker (ledger.pending worker ++ [row]))
      else some (.error (.foreignKeyViolation "execution_id"), ledger)

variable {std : Stdlib} {worker : Worker} {ledger next : LedgerState Worker}

@[simp] theorem LedgerState.setPending_self (rows : List LearningMemoryRecord) :
    (ledger.setPending worker rows).pending worker = rows := by
  unfold setPending
  exact Function.update_self _ _ _

theorem LedgerState.setPending_ne {other : Worker} (differ : other ≠ worker)
    (rows : List LearningMemoryRecord) :
    (ledger.setPending worker rows).pending other = ledger.pending other := by
  unfold setPending
  exact Function.update_of_ne differ _ _

theorem jsonb_ok {value stored : Json} (bound : jsonb value = .ok stored) : stored = value := by
  unfold jsonb at bound
  split at bound
  · cases bound
  · cases bound
    rfl

theorem PersistLearningMemoryInput.documents_ok {input : PersistLearningMemoryInput}
    {signal provenance : Json} (bound : input.documents = .ok (signal, provenance)) :
    input.signal = some signal ∧ provenance = input.provenance := by
  unfold documents at bound
  split at bound
  · cases bound
  · rename_i wanted given
    rw [given]
    cases first : jsonb wanted with
    | error failure =>
        rw [first] at bound
        cases bound
    | ok stored =>
        cases second : jsonb input.provenance with
        | error failure =>
            rw [first, second] at bound
            cases bound
        | ok storedProvenance =>
            rw [first, second] at bound
            cases bound
            exact ⟨by rw [jsonb_ok first], jsonb_ok second⟩

/-- **What persisting a signal has done**: nothing, or it has added the row of its input to what the
transaction has inserted. -/
theorem persistInSession_cases {executions : List Uuid} {input : PersistLearningMemoryInput}
    {now : Timestamp} {fresh : Uuid} {answer : Except DbError (Option LearningMemoryRecord)}
    (called : persistInSession std worker executions input now fresh ledger = some (answer, next)) :
    next = ledger ∨ ∃ row : LearningMemoryRecord,
      answer = .ok (some row) ∧ input.signal = some row.signal ∧ row.tenantId = input.tenantId ∧
        row.targetType = input.targetType ∧ row.targetId = input.targetId ∧
        row.executionId = input.executionId ∧
        next = ledger.setPending worker (ledger.pending worker ++ [row]) := by
  unfold persistInSession at called
  split at called
  · cases called
    exact .inl rfl
  · rename_i signal provenance bound
    dsimp only at called
    split at called
    · cases called
    split at called
    · cases called
      exact .inl rfl
    split at called
    · cases called
      exact .inr ⟨_, rfl, (PersistLearningMemoryInput.documents_ok bound).1, rfl, rfl, rfl, rfl, rfl⟩
    · cases called
      exact .inl rfl

theorem persistInSession_frame {executions : List Uuid} {input : PersistLearningMemoryInput}
    {now : Timestamp} {fresh : Uuid} {answer : Except DbError (Option LearningMemoryRecord)}
    (called : persistInSession std worker executions input now fresh ledger = some (answer, next)) :
    next.rows = ledger.rows ∧ ∀ other, other ≠ worker → next.pending other = ledger.pending other := by
  rcases persistInSession_cases called with rfl | ⟨row, -, -, -, -, -, -, rfl⟩
  · exact ⟨rfl, fun _ _ => rfl⟩
  · exact ⟨rfl, fun other differ => LedgerState.setPending_ne differ _⟩

/-- `record.execution_id if record.execution_id is not None else execution_id`. -/
def PersistLearningMemoryInput.withExecution (input : PersistLearningMemoryInput)
    (executionId : Option Uuid) : PersistLearningMemoryInput :=
  { input with executionId := input.executionId <|> executionId }

/-- `persist`: the insert in a session of its own, committed when it inserted a row. It waits while a
transaction holds the same key. -/
def persist (std : Stdlib) (executions : List Uuid) (input : PersistLearningMemoryInput)
    (now : Timestamp) (fresh : Uuid) (ledger : LedgerState Worker) :
    Answer (Option LearningMemoryRecord) (LedgerState Worker) :=
  match input.documents with
  | .error failure => some (.error failure, ledger)
  | .ok (signal, provenance) =>
      let row := input.toRow std signal provenance now fresh
      if ∃ other, row.signalKey ∈ (ledger.pending other).map (·.signalKey) then none
      else if row.signalKey ∈ ledger.rows.map (·.signalKey) then
        some (.ok (LedgerState.latest ledger.rows input.tenantId input.targetType input.targetId),
          ledger)
      else if input.executionId.all fun id => decide (id ∈ executions) then
        some (.ok (some row), { ledger with rows := ledger.rows ++ [row] })
      else some (.error (.foreignKeyViolation "execution_id"), ledger)

end Persist

/-! ### Reading -/

/-- The columns of `learning_memory`. -/
inductive LedgerColumn where
  | id
  | tenantId
  | targetType
  | targetId
  | signal
  | provenance
  | signalHash
  | executionId
  | createdAt
  deriving DecidableEq, Repr

/-- The name of a column. -/
def LedgerColumn.name : LedgerColumn → String
  | id => "id"
  | tenantId => "tenant_id"
  | targetType => "target_type"
  | targetId => "target_id"
  | signal => "signal"
  | provenance => "provenance"
  | signalHash => "signal_hash"
  | executionId => "execution_id"
  | createdAt => "created_at"

/-- The columns that `_LIST_SQL` selects. -/
def listColumns : List LedgerColumn :=
  [.id, .tenantId, .targetType, .targetId, .signal, .provenance, .signalHash, .createdAt]

/-- A row of a result: some columns of a row of the table. -/
structure SelectedRow where
  columns : List LedgerColumn
  row : LearningMemoryRecord

/-- `row[column]`. -/
def SelectedRow.get {Value : Type} (selected : SelectedRow) (column : LedgerColumn)
    (field : LearningMemoryRecord → Value) : Except PyError Value :=
  if column ∈ selected.columns then .ok (field selected.row) else .error (.keyError column.name)

/-- `_row_to_record`. -/
def rowToRecord (selected : SelectedRow) : Except PyError LearningMemoryRecord := do
  let id ← selected.get .id (·.id)
  let tenantId ← selected.get .tenantId (·.tenantId)
  let targetType ← selected.get .targetType (·.targetType)
  let targetId ← selected.get .targetId (·.targetId)
  let signal ← selected.get .signal (·.signal)
  let provenance ← selected.get .provenance (·.provenance)
  let signalHash ← selected.get .signalHash (·.signalHash)
  let executionId ← selected.get .executionId (·.executionId)
  let createdAt ← selected.get .createdAt (·.createdAt)
  return { id, tenantId, targetType, targetId, signal, provenance, signalHash, executionId, createdAt }

theorem rowToRecord_listColumns (row : LearningMemoryRecord) :
    rowToRecord { columns := listColumns, row } = .error (.keyError "execution_id") := rfl

/-- The text of a target type. -/
def MemoryTarget.text : MemoryTarget → String
  | pattern => "pattern"
  | context => "context"
  | insight => "insight"
  | decision => "decision"

/-- What `list` is asked for; `none` is a filter that is left out. -/
structure MemoryFilter where
  tenantId : Uuid
  targetType : Option String
  targetId : Option Uuid

/-- The condition of `_LIST_SQL`, on the target of a row. -/
def MemoryFilter.acceptsTarget (filter : MemoryFilter) (tenantId : Uuid) (targetType : MemoryTarget)
    (targetId : Uuid) : Bool :=
  decide (tenantId = filter.tenantId) &&
    (filter.targetType.all fun wanted => targetType.text == wanted) &&
    filter.targetId.all fun wanted => targetId == wanted

/-- The condition of `_LIST_SQL`. -/
def MemoryFilter.accepts (filter : MemoryFilter) (row : LearningMemoryRecord) : Bool :=
  filter.acceptsTarget row.tenantId row.targetType row.targetId

/-- `list`: `_LIST_SQL` with the latest row first, decoded row by row. -/
def listMemory (filter : MemoryFilter) (rows : List LearningMemoryRecord) :
    Except PyError (List LearningMemoryRecord) :=
  ((rows.filter filter.accepts).mergeSort fun first second =>
    decide (second.createdAt ≤ first.createdAt)).mapM fun row =>
      rowToRecord { columns := listColumns, row }

end CosMonitor
