/-
**`record_execution` — execution records, and the lifecycle of their decisions.**

A call runs three transactions: it looks the decision up, inserts a record whose id is derived from its
tenant, its decision and its instant, and updates the decision.

* `recordExecution`: a call, with the clocks that it reads and the transaction that fails;
* `executions_kept_iff`: over any sequence of calls, every record that is returned is stored and every
  decision has the status of a stored record, exactly when every record that is built is stored already,
  or has a new id and the clock of the database stands where it was built.
-/

import CosMonitor.Action.DecisionStore
import CosMonitor.Gateway.SubmitOutcomes

namespace CosMonitor

open Table

/-! ### Records -/

def executionRecordNamespace : Uuid := 0x83

/-- The statuses of an execution. -/
def executionStatuses : List String := ["executed", "failed", "cancelled", "unknown"]

/-- Derive the id from the tenant, the decision and the instant. -/
def executionRecordId (std : Stdlib) (tenantId decisionId : Uuid) (executedAt : PyDatetime) : Uuid :=
  std.uuid5 executionRecordNamespace
    (uuidText tenantId ++ ":" ++ uuidText decisionId ++ ":" ++ std.isoformat executedAt)

/-- What a call records. -/
structure ExecutionRecordCreate where
  tenantId : Uuid
  decisionId : Uuid
  executionStatus : String
  executedAt : PyDatetime
  executedBy : Option Uuid
  notes : Option String
  metadata : List (String × Json)
  deriving DecidableEq

/-- A record with its id and the clock at which it was built. -/
structure ExecutionRecord extends ExecutionRecordCreate where
  id : Uuid
  createdAt : Timestamp
  deriving DecidableEq

/-- Materialise a record. -/
def buildExecutionRecord (std : Stdlib) (create : ExecutionRecordCreate) (now : Timestamp) :
    ExecutionRecord :=
  { create with
    id := executionRecordId std create.tenantId create.decisionId create.executedAt
    createdAt := now }

/-- A row of `execution_records`. -/
structure ExecutionRow where
  id : Uuid
  tenantId : Uuid
  decisionId : Uuid
  executionStatus : String
  executedAt : Timestamp
  executedBy : Option Uuid
  notes : Option String
  metadata : List (String × Json)
  createdAt : Timestamp
  deriving DecidableEq

/-- A record as a row of the table. -/
def ExecutionRecord.row (record : ExecutionRecord) : ExecutionRow where
  id := record.id
  tenantId := record.tenantId
  decisionId := record.decisionId
  executionStatus := record.executionStatus
  executedAt := record.executedAt.instant
  executedBy := record.executedBy
  notes := record.notes
  metadata := record.metadata
  createdAt := record.createdAt

/-- `INSERT … ON CONFLICT (id) DO NOTHING`, which leaves `created_at` to the clock of the database. A
naive datetime goes in as its wall clock in UTC. -/
def insertExecutionRecord (record : ExecutionRecord) (now : Timestamp) (rows : List ExecutionRow) :
    Except DecisionWriteError (List ExecutionRow) := do
  let _ ← textColumn (record.notes.getD "")
  let _ ← (jsonb (.obj record.metadata)).mapError .database
  return (insertAbsent ExecutionRow.id { record.row with createdAt := now } rows).2

/-! ### Calls -/

/-- A call of `record_execution`. -/
structure ExecutionCall where
  tenantId : Uuid
  decisionId : Uuid
  executionStatus : String
  executedAt : Option PyDatetime
  executedBy : Option Uuid
  notes : Option String
  metadata : Option (List (String × Json))
  deriving DecidableEq

/-- The transactions of a call. -/
inductive ExecutionStage where
  | verify
  | insert
  | update
  deriving DecidableEq

/-- What a call meets: the clock when it starts, when it builds the record and when the database inserts
it, and the transaction that fails. -/
structure ExecutionWorld where
  calledAt : Timestamp
  builtAt : Timestamp
  insertedAt : Timestamp
  fails : ExecutionStage → Option LoopException

/-- The two tables. -/
structure ExecutionTables where
  decisions : List Decision
  records : List ExecutionRow
  deriving DecidableEq

/-- The status of a decision whose execution has this status. -/
def decisionStatusOf (executionStatus : String) : String :=
  if executionStatus = "executed" then "executing"
  else if executionStatus = "failed" then "rolled_back"
  else if executionStatus = "cancelled" then "rolled_back"
  else if executionStatus = "unknown" then "executing"
  else "executing"

/-- The instant that a call records. -/
def ExecutionCall.effectiveAt (call : ExecutionCall) (world : ExecutionWorld) : PyDatetime :=
  call.executedAt.getD (.utc world.calledAt)

/-- The record that a call builds. -/
def ExecutionCall.record (std : Stdlib) (call : ExecutionCall) (world : ExecutionWorld) :
    ExecutionRecord :=
  buildExecutionRecord std
    { tenantId := call.tenantId
      decisionId := call.decisionId
      executionStatus := call.executionStatus
      executedAt := call.effectiveAt world
      executedBy := call.executedBy
      notes := call.notes
      metadata := call.metadata.getD [] }
    world.builtAt

/-- The row that a call writes to its decision. -/
def ExecutionCall.apply (call : ExecutionCall) (world : ExecutionWorld) (decision : Decision) :
    Decision :=
  { decision with
    executedAt := some (call.effectiveAt world).instant
    status := decisionStatusOf call.executionStatus }

/-- `record_execution`: the record it returns, or what it raises, and the tables after it. -/
def recordExecution (std : Stdlib) (call : ExecutionCall) (world : ExecutionWorld)
    (tables : ExecutionTables) : Except SubmitException ExecutionRecord × ExecutionTables :=
  if call.executionStatus ∉ executionStatuses then (.error .invalidOutcomes, tables)
  else
    match world.fails .verify, findDecision call.tenantId call.decisionId tables.decisions with
    | some exception, _ => (.error (.raised exception), tables)
    | none, none => (.error (.decisionNotFound call.decisionId), tables)
    | none, some _ =>
        match world.fails .insert,
          insertExecutionRecord (call.record std world) world.insertedAt tables.records with
        | some exception, _ => (.error (.raised exception), tables)
        | none, .error (.database failure) => (.error (.raised (.database failure)), tables)
        | none, .error (.checkViolation _) => (.error (.raised (.database .badArgument)), tables)
        | none, .ok records =>
            match world.fails .update with
            | some exception => (.error (.raised exception), { tables with records })
            | none => (.ok (call.record std world), {
                decisions := updateDecision call.decisionId call.tenantId (call.apply world)
                  tables.decisions
                records })

/-! ### What a call promises -/

/-- The decision has the status and the instant of a stored record of it. -/
def DerivedExecution (tenantId decisionId : Uuid) (tables : ExecutionTables) : Prop :=
  ∃ row ∈ tables.records, ∃ decision,
    row.tenantId = tenantId ∧ row.decisionId = decisionId ∧
      findDecision tenantId decisionId tables.decisions = some decision ∧
      decision.status = decisionStatusOf row.executionStatus ∧ decision.executedAt = some row.executedAt

/-- **What a call promises**: where it returns a record, it is stored, and its decision is derived from a
stored record. -/
def ExecutionKept (std : Stdlib) (call : ExecutionCall) (world : ExecutionWorld)
    (tables : ExecutionTables) : Prop :=
  ∀ record, (recordExecution std call world tables).1 = .ok record →
    record.row ∈ (recordExecution std call world tables).2.records ∧
      DerivedExecution call.tenantId call.decisionId (recordExecution std call world tables).2

/-- A call that returns: its status is one of the four, no transaction fails, its decision is there and its
texts can be stored. -/
structure ExecutionAccepted (call : ExecutionCall) (world : ExecutionWorld) (tables : ExecutionTables) :
    Prop where
  status : call.executionStatus ∈ executionStatuses
  runs : ∀ stage, world.fails stage = none
  known : (findDecision call.tenantId call.decisionId tables.decisions).isSome
  notes : ∃ stored, textColumn (call.notes.getD "") = .ok stored
  metadata : ∃ stored, jsonb (.obj (call.metadata.getD [])) = .ok stored

/-- When it is kept: the call does not return, or its record is stored already, or its id is new and the
clock of the database stands where the record was built. -/
def ExecutionHonoured (std : Stdlib) (call : ExecutionCall) (world : ExecutionWorld)
    (tables : ExecutionTables) : Prop :=
  ExecutionAccepted call world tables → (call.record std world).row ∈ tables.records ∨
    (∀ row ∈ tables.records, row.id ≠ (call.record std world).id) ∧ world.builtAt = world.insertedAt

/-- A property of every call of a sequence, in the tables that it meets. -/
def EachExecution (std : Stdlib) (holds : ExecutionCall → ExecutionWorld → ExecutionTables → Prop) :
    ExecutionTables → List (ExecutionCall × ExecutionWorld) → Prop
  | _, [] => True
  | tables, (call, world) :: rest =>
      holds call world tables ∧ EachExecution std holds (recordExecution std call world tables).2 rest

/-! ### What a call has done -/

section Calls

variable {std : Stdlib} {call : ExecutionCall} {world : ExecutionWorld} {tables : ExecutionTables}
  {record : ExecutionRecord}

theorem insertExecutionRecord_ok {now : Timestamp} {rows after : List ExecutionRow} :
    insertExecutionRecord record now rows = .ok after ↔
      ((∃ stored, textColumn (record.notes.getD "") = .ok stored) ∧
        ∃ stored, jsonb (.obj record.metadata) = .ok stored) ∧
      after = (insertAbsent ExecutionRow.id { record.row with createdAt := now } rows).2 := by
  constructor
  · intro inserted
    obtain ⟨notes, isText, inserted⟩ := Result.bind_eq_ok.mp inserted
    obtain ⟨metadata, bound, inserted⟩ := Result.bind_eq_ok.mp inserted
    exact ⟨⟨⟨notes, isText⟩, metadata, Result.mapError_eq_ok.mp bound⟩,
      (Result.pure_eq_ok.mp inserted).symm⟩
  · rintro ⟨⟨⟨notes, isText⟩, metadata, bound⟩, rfl⟩
    exact Result.bind_eq_ok.mpr ⟨notes, isText, Result.bind_eq_ok.mpr
      ⟨metadata, Result.mapError_eq_ok.mpr bound, rfl⟩⟩

/-- The tables after a call that returns. -/
def ExecutionCall.after (std : Stdlib) (call : ExecutionCall) (world : ExecutionWorld)
    (tables : ExecutionTables) : ExecutionTables where
  decisions := updateDecision call.decisionId call.tenantId (call.apply world) tables.decisions
  records := (insertAbsent ExecutionRow.id
    { (call.record std world).row with createdAt := world.insertedAt } tables.records).2

/-- **What a call has done**: it returned its record and has run all its transactions, or it raised and
left the decisions alone. -/
theorem recordExecution_cases (std : Stdlib) (call : ExecutionCall) (world : ExecutionWorld)
    (tables : ExecutionTables) :
    (ExecutionAccepted call world tables ∧
        recordExecution std call world tables = (.ok (call.record std world), call.after std world tables)) ∨
      ¬ExecutionAccepted call world tables ∧ (∃ failure,
        (recordExecution std call world tables).1 = .error failure) ∧
          (recordExecution std call world tables).2.decisions = tables.decisions := by
  unfold recordExecution
  by_cases listed : call.executionStatus ∈ executionStatuses
  · rw [if_neg (not_not.mpr listed)]
    cases verified : world.fails .verify with
    | some exception =>
        refine .inr ⟨fun accepted => ?_, ⟨_, rfl⟩, rfl⟩
        cases verified.symm.trans (accepted.runs .verify)
    | none =>
        cases known : findDecision call.tenantId call.decisionId tables.decisions with
        | none =>
            refine .inr ⟨fun accepted => ?_, ⟨_, rfl⟩, rfl⟩
            have isThere := accepted.known
            rw [known] at isThere
            cases isThere
        | some decision =>
            dsimp only
            cases inserting : world.fails .insert with
            | some exception =>
                refine .inr ⟨fun accepted => ?_, ⟨_, rfl⟩, rfl⟩
                cases inserting.symm.trans (accepted.runs .insert)
            | none =>
                cases inserted : insertExecutionRecord (call.record std world) world.insertedAt
                  tables.records with
                | error failure =>
                    refine .inr ⟨fun accepted => ?_, ?_⟩
                    · have stored : insertExecutionRecord (call.record std world) world.insertedAt
                          tables.records = .ok (call.after std world tables).records :=
                        insertExecutionRecord_ok.mpr ⟨⟨accepted.notes, accepted.metadata⟩, rfl⟩
                      cases inserted.symm.trans stored
                    · cases failure with
                      | database failure => exact ⟨⟨_, rfl⟩, rfl⟩
                      | checkViolation column => exact ⟨⟨_, rfl⟩, rfl⟩
                | ok records =>
                    obtain ⟨⟨notes, metadata⟩, rfl⟩ := insertExecutionRecord_ok.mp inserted
                    dsimp only
                    cases updating : world.fails .update with
                    | some exception =>
                        refine .inr ⟨fun accepted => ?_, ⟨_, rfl⟩, rfl⟩
                        cases updating.symm.trans (accepted.runs .update)
                    | none =>
                        refine .inl ⟨⟨listed, ?_, by rw [known]; rfl, notes, metadata⟩, rfl⟩
                        rintro ⟨⟩
                        · exact verified
                        · exact inserting
                        · exact updating
  · rw [if_pos listed]
    exact .inr ⟨fun accepted => listed accepted.status, ⟨_, rfl⟩, rfl⟩

theorem find_after (accepted : ExecutionAccepted call world tables) :
    ∃ decision, findDecision call.tenantId call.decisionId (call.after std world tables).decisions =
      some (call.apply world decision) := by
  obtain ⟨decision, known⟩ := Option.isSome_iff_exists.mp accepted.known
  refine ⟨decision, ?_⟩
  have updated : findDecision call.tenantId call.decisionId (call.after std world tables).decisions =
      (findDecision call.tenantId call.decisionId tables.decisions).map (call.apply world) :=
    find_updateDecision fun row => ⟨rfl, rfl⟩
  rw [updated, known]
  rfl

/-- **A record is returned as it is stored** where it was stored already, or its id is new and the clock
of the database stands where it was built. -/
theorem record_stored_iff :
    (call.record std world).row ∈ (call.after std world tables).records ↔
      (call.record std world).row ∈ tables.records ∨
        (∀ row ∈ tables.records, row.id ≠ (call.record std world).id) ∧
          world.builtAt = world.insertedAt := by
  unfold ExecutionCall.after
  rcases insertAbsent_cases ExecutionRow.id
    { (call.record std world).row with createdAt := world.insertedAt } tables.records with
    ⟨⟨other, member, same⟩, ran⟩ | ⟨fresh, ran⟩
  · rw [ran]
    exact (or_iff_left fun new => new.1 other member same).symm
  · rw [ran, List.mem_append, List.mem_singleton]
    refine or_congr_right ⟨fun same => ⟨fresh, congrArg ExecutionRow.createdAt same⟩, fun new => ?_⟩
    rw [← new.2]
    rfl

theorem derived_of_stored (accepted : ExecutionAccepted call world tables)
    (stored : (call.record std world).row ∈ (call.after std world tables).records) :
    DerivedExecution call.tenantId call.decisionId (call.after std world tables) := by
  obtain ⟨decision, found⟩ := @find_after std call world tables accepted
  exact ⟨_, stored, _, rfl, rfl, found, rfl, rfl⟩

/-- **When a call keeps what it promises.** -/
theorem executionKept_iff (std : Stdlib) (call : ExecutionCall) (world : ExecutionWorld)
    (tables : ExecutionTables) :
    ExecutionKept std call world tables ↔ ExecutionHonoured std call world tables := by
  unfold ExecutionKept ExecutionHonoured
  rcases recordExecution_cases std call world tables with ⟨accepted, ran⟩ | ⟨refused, ⟨failure, raised⟩, -⟩
  · rw [ran]
    constructor
    · intro kept _
      exact record_stored_iff.mp (kept _ rfl).1
    · intro honoured record returned
      obtain rfl := Except.ok.inj returned
      have stored := record_stored_iff.mpr (honoured accepted)
      exact ⟨stored, derived_of_stored accepted stored⟩
  · rw [raised]
    exact iff_of_true (fun _ absent => nomatch absent) fun accepted => absurd accepted refused

/-- **Sequences of calls.** Every call of a sequence keeps what it promises exactly when each of them is
honoured in the tables that it meets: its record is stored already, or is new and was built where the
clock of the database stands. -/
theorem executions_kept_iff (std : Stdlib) (tables : ExecutionTables)
    (calls : List (ExecutionCall × ExecutionWorld)) :
    EachExecution std (ExecutionKept std) tables calls ↔
      EachExecution std (ExecutionHonoured std) tables calls := by
  induction calls generalizing tables with
  | nil => exact Iff.rfl
  | cons first rest ih =>
      obtain ⟨call, world⟩ := first
      exact and_congr (executionKept_iff std call world tables) (ih _)

end Calls

/-! ### One instant, two statuses -/

/-- An execution of the decision at one instant. -/
def executionAtOnce (executionStatus : String) : ExecutionCall where
  tenantId := 1
  decisionId := 2
  executionStatus
  executedAt := some (.utc 1767225600000000)
  executedBy := none
  notes := none
  metadata := none

/-- A call that no transaction fails and that takes no time. -/
def promptWorld (now : Timestamp) : ExecutionWorld where
  calledAt := now
  builtAt := now
  insertedAt := now
  fails := fun _ => none

/-- The tables after an execution and its failure at the same instant. -/
def contradictedTables : ExecutionTables :=
  (recordExecution countingStd (executionAtOnce "failed") (promptWorld 2)
    (recordExecution countingStd (executionAtOnce "executed") (promptWorld 1) ⟨[plainDecision], []⟩).2).2

/-- **A failure is returned that is not stored**: an execution is recorded, and its failure at the same
instant has the same id. The decision is rolled back, and its only record says that it was executed. -/
theorem second_execution_unstored :
    ¬ ∀ (std : Stdlib) (tables : ExecutionTables) (calls : List (ExecutionCall × ExecutionWorld)),
      EachExecution std (ExecutionKept std) tables calls := by
  intro kept
  obtain ⟨-, second, -⟩ := kept countingStd ⟨[plainDecision], []⟩
    [(executionAtOnce "executed", promptWorld 1), (executionAtOnce "failed", promptWorld 2)]
  obtain ⟨-, row, stored, decision, -, -, found, derived, -⟩ :=
    second ((executionAtOnce "failed").record countingStd (promptWorld 2)) rfl
  have statuses : ∀ row ∈ contradictedTables.records, row.executionStatus = "executed" := by
    decide +kernel
  have rolledBack : (findDecision 1 2 contradictedTables.decisions).map Decision.status =
      some "rolled_back" := by
    decide +kernel
  have isFound : findDecision 1 2 contradictedTables.decisions = some decision := found
  rw [isFound, Option.map_some, Option.some.injEq, derived, statuses row stored] at rolledBack
  exact absurd rolledBack (by decide)

end CosMonitor
