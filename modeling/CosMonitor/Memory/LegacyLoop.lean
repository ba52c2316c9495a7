/-
**The legacy learning loop next to the durable one.**

The gateway wires one of the two loops. Both compute the same signals; the legacy loop hands each of
them to `_persist_learning_signal`, whose parameters are keyword-only, in positional arguments.

* `Signature.bind`: how Python binds the arguments of a call;
* `runLearningLoop_raises`: the legacy loop raises for every decision, and has persisted nothing;
* `paths_agree_iff`: the two loops agree exactly when the durable one raises too, as `DurableRaises`
  says in terms of the database before the run.
-/

import CosMonitor.Memory.Takeover

set_option linter.unusedSectionVars false

namespace CosMonitor

open Versions (Consistent Lifecycle)

/-! ### Calls -/

/-- The parameters of a function without defaults: those that a position may give, and the keyword-only
ones. -/
structure Signature where
  positional : List String
  keywordOnly : List String

/-- Bind the arguments of a call, given as a number of positional arguments and the keywords: too many
positions, an unknown or repeated keyword and a missing parameter are a `TypeError`. -/
def Signature.bind (signature : Signature) (positions : Nat) (keywords : List String) :
    Except PyError Unit :=
  let open' := signature.positional.drop positions ++ signature.keywordOnly
  if positions ≤ signature.positional.length ∧ keywords.Nodup ∧ (∀ keyword ∈ keywords, keyword ∈ open') ∧
      ∀ parameter ∈ open', parameter ∈ keywords then .ok ()
  else .error .typeError

/-- The parameters of `_persist_learning_signal`. -/
def persistLearningSignalSignature : Signature where
  positional := []
  keywordOnly := ["memory_store", "tenant_id", "target_type", "target_id", "signal", "provenance"]

section Legacy

variable {Worker : Type} [DecidableEq Worker] [Fintype Worker]

/-- The input that persists a signal. -/
def SignalTuple.toInput (tuple : SignalTuple) (tenantId : Uuid) (executionId : Option Uuid) :
    PersistLearningMemoryInput where
  tenantId
  targetType := tuple.targetType
  targetId := tuple.targetId
  signal := tuple.signal
  provenance := tuple.provenance
  executionId

/-- `_persist_learning_signal`, called with a number of positional arguments and some keywords. -/
def persistLearningSignal (std : Stdlib) (executions : List Uuid) (positions : Nat)
    (keywords : List String) (tenantId : Uuid) (tuple : SignalTuple) (now : Timestamp) (fresh : Uuid)
    (ledger : LedgerState Worker) :
    Option (Except LoopException (Option LearningMemoryRecord) × LedgerState Worker) :=
  match persistLearningSignalSignature.bind positions keywords with
  | .error failure => some (.error (.python failure), ledger)
  | .ok () =>
      (persist std executions (tuple.toInput tenantId none) now fresh ledger).map
        fun (answer, next) => (answer.mapError .database, next)

/-- What the legacy loop has done: the exception that it raised, the records that it persisted, and
the ledger. -/
structure LegacyRun (Worker : Type) where
  raised : Option LoopException
  persisted : List (Option LearningMemoryRecord)
  ledger : LedgerState Worker

/-- Persist the signals one after the other, each committed at once. The loop gives six positional
arguments. -/
def persistLearningSignals (std : Stdlib) (executions : List Uuid) (tenantId : Uuid) :
    List SignalTuple → List (Timestamp × Uuid) → LegacyRun Worker → Option (LegacyRun Worker)
  | tuple :: rest, (now, fresh) :: clock, run =>
      match persistLearningSignal std executions 6 [] tenantId tuple now fresh run.ledger with
      | none => none
      | some (.error exception, ledger) => some { run with raised := some exception, ledger }
      | some (.ok record, ledger) => persistLearningSignals std executions tenantId rest clock
          { run with persisted := run.persisted ++ [record], ledger }
  | _, _, run => some run

/-- `run_learning_loop_for_decision`. `clock` gives the instants and the ids of the inserts; the loop
writes out the signals of `_compute_learning_signals` once more. -/
def runLearningLoop (std : Stdlib) (executions : List Uuid) (tenantId decisionId : Uuid)
    (reports : LearningReports) (decisions : List Decision) (clock : List (Timestamp × Uuid))
    (ledger : LedgerState Worker) : Option (LegacyRun Worker) :=
  match findDecision tenantId decisionId decisions with
  | none => some { raised := some (.python (.valueError "")), persisted := [], ledger }
  | some decision =>
      match buildConsolidation std (learningView decision.id decision.tenantId
        decision.expectedOutcomes decision.actualOutcomes) with
      | .error failure => some { raised := some (.python failure), persisted := [], ledger }
      | .ok consolidation =>
          persistLearningSignals std executions tenantId
            (computeLearningSignals tenantId decisionId consolidation reports) clock
            { raised := none, persisted := [], ledger }

/-- **The legacy loop raises**, and has persisted nothing. -/
theorem runLearningLoop_raises (std : Stdlib) (executions : List Uuid) (tenantId decisionId : Uuid)
    (reports : LearningReports) (decisions : List Decision) (first : Timestamp × Uuid)
    (clock : List (Timestamp × Uuid)) (ledger : LedgerState Worker) :
    ∃ exception, runLearningLoop std executions tenantId decisionId reports decisions
      (first :: clock) ledger = some { raised := some exception, persisted := [], ledger } := by
  unfold runLearningLoop
  cases findDecision tenantId decisionId decisions with
  | none => exact ⟨_, rfl⟩
  | some decision =>
      dsimp only
      cases buildConsolidation std (learningView decision.id decision.tenantId
          decision.expectedOutcomes decision.actualOutcomes) with
      | error failure => exact ⟨_, rfl⟩
      | ok consolidation =>
          -- The first signal is the consolidation; its call does not bind.
          exact ⟨_, rfl⟩

end Legacy

/-! ### The durable path -/

section Durable

variable {Worker : Type} [DecidableEq Worker] [Fintype Worker] {std : Stdlib}
  {describe : LoopException → String} {policy : BindPolicy} {before state next : LoopState Worker}
  {worker : Worker} {lifecycle : Lifecycle executionSchema.isActive} {revision : OutcomeRevision}
  {reports : LearningReports}

/-- The statement that persists the signal binds its documents. -/
def Storable (tuple : SignalTuple) : Prop :=
  ∃ documents, (tuple.toInput tuple.targetId none).documents = .ok documents

/-- The signals of the revision are not computed, or one of them is not stored. -/
def SignalsFail (std : Stdlib) (revision : OutcomeRevision) (reports : LearningReports)
    (decisions : List Decision) : Prop :=
  ∀ tuples, computeSignals std revision.tenantId revision.decisionId reports decisions = .ok tuples →
    ∃ tuple ∈ tuples, ¬Storable tuple

/-- **When the durable path raises**, in terms of the database before it: no other execution of the
revision is alive, and the driver refuses the update of the one that is there, or a signal fails. -/
def DurableRaises (std : Stdlib) (policy : BindPolicy) (before : LoopState Worker)
    (revision : OutcomeRevision) (reports : LearningReports) (now : Timestamp) : Prop :=
  ¬FindsAlive revision.id now before.store.executions.committed ∧
    ((policy = .required ∧
        (findActiveExecution revision.id before.store.executions.committed).isSome) ∨
      SignalsFail std revision reports before.decisions)

/-- A step of a worker inside its run, where the readers report what is given and nothing outside
raises. -/
def Uninterrupted (worker : Worker) (reports : LearningReports) (state : LoopState Worker)
    (action : LoopAction Worker) : Prop :=
  InsideRun worker state action ∧
    (∀ other found, action = .compute other found → found = reports) ∧
    ∀ other text ordinary, action ≠ .interrupt other text ordinary

/-- **What a claim answers**: nothing while another execution is alive, an error where the driver
refuses the update of the active execution, and an execution otherwise. -/
theorem claimExecution_answer {request : ExecutionRequest} {lock : Option String}
    {opened after : StoreState Worker} {now : Timestamp} {fresh : Uuid}
    {answer : Except DbError (Option LearningExecution)}
    (begun : Begun worker lock before.store opened)
    (consistent : Consistent executionSchema lifecycle opened.executions)
    (submitted : ∃ found ∈ opened.revisions, found.id = request.outcomeRevisionId)
    (committed : ∀ row ∈ opened.executions.committed, row.id ≠ fresh)
    (pending : ∀ other, ∀ row ∈ opened.executions.pending other, row.id ≠ fresh)
    (called : claimExecution policy worker request now fresh opened = some (answer, after)) :
    (FindsAlive request.outcomeRevisionId now (opened.seen worker) ∧ answer = .ok none) ∨
      ¬FindsAlive request.outcomeRevisionId now (opened.seen worker) ∧
        ((policy = .required ∧
            (findActiveExecution request.outcomeRevisionId (opened.seen worker)).isSome ∧
            ∃ failure, answer = .error failure) ∨
          ¬(policy = .required ∧
              (findActiveExecution request.outcomeRevisionId (opened.seen worker)).isSome) ∧
            ∃ row, answer = .ok (some row)) := by
  by_cases alive : FindsAlive request.outcomeRevisionId now (opened.seen worker)
  · rw [claimExecution_alive alive] at called
    cases called
    exact .inl ⟨alive, rfl⟩
  refine .inr ⟨alive, ?_⟩
  cases found : findActiveExecution request.outcomeRevisionId (opened.seen worker) with
  | none =>
      refine .inr ⟨?_, ?_⟩
      · rintro ⟨-, refused⟩
        cases refused
      unfold claimExecution at called
      rw [found] at called
      obtain ⟨⟨reply, last⟩, inserted, built⟩ := Option.map_eq_some_iff.mp called
      cases built
      obtain ⟨row, rfl⟩ := insertExecution_returns inserted submitted committed pending
        (findActiveExecution_none.mp found)
      exact ⟨row, rfl⟩
  | some existing =>
      obtain ⟨-, -, active⟩ := findActiveExecution_some found
      have known : existing.status = .pending ∨ existing.status = .running ∧
          isStale now existing = true := by
        cases status : existing.status with
        | pending => exact .inl rfl
        | running =>
            refine .inr ⟨rfl, ?_⟩
            by_contra fresh
            exact alive ⟨existing, found, status, by simpa using fresh⟩
        | completed =>
            rw [status] at active
            cases active
        | failed =>
            rw [status] at active
            cases active
        | stale =>
            rw [status] at active
            cases active
      cases policy with
      | nullable =>
          refine .inr ⟨?_, ?_⟩
          · rintro ⟨refused, -⟩
            cases refused
          rcases known with isPending | ⟨-, timedOut⟩
          · unfold claimExecution at called
            rw [found] at called
            dsimp only at called
            rw [isPending] at called
            obtain ⟨⟨reply, last⟩, updated, built⟩ := Option.map_eq_some_iff.mp called
            cases built
            rcases updateExecutionStatus_cases updated with ⟨-, required, -⟩ | ⟨-, old, rfl, -⟩
            · cases required
            · exact ⟨_, rfl⟩
          · exact claimExecution_stale begun consistent found timedOut submitted committed pending
              called
      | required =>
          refine .inl ⟨rfl, rfl, ?_⟩
          unfold claimExecution at called
          rw [found] at called
          dsimp only at called
          rcases known with isPending | ⟨isRunning, timedOut⟩
          · rw [isPending] at called
            obtain ⟨⟨reply, last⟩, updated, built⟩ := Option.map_eq_some_iff.mp called
            cases built
            rcases updateExecutionStatus_cases updated with ⟨-, -, _, rfl⟩ | ⟨complete, -⟩
            · exact ⟨_, rfl⟩
            · rcases complete with nullable | complete
              · cases nullable
              · cases complete
          · rw [isRunning] at called
            dsimp only at called
            rw [if_pos timedOut] at called
            cases called
            exact ⟨_, rfl⟩

/-- **What persisting a signal answers**: an error where a document does not bind, and a record
otherwise, when its execution is there. -/
theorem persistInSession_answer {executions : List Uuid} {input : PersistLearningMemoryInput}
    {now : Timestamp} {fresh : Uuid} {answer : Except DbError (Option LearningMemoryRecord)}
    {ledger after : LedgerState Worker}
    (called : persistInSession std worker executions input now fresh ledger = some (answer, after))
    (known : ∀ id ∈ input.executionId, id ∈ executions) :
    (∃ failure, input.documents = .error failure ∧ answer = .error failure) ∨
      (∃ documents, input.documents = .ok documents) ∧ ∃ record, answer = .ok (some record) := by
  unfold persistInSession at called
  split at called
  · rename_i failure bound
    cases called
    exact .inl ⟨failure, bound, rfl⟩
  · rename_i signal provenance bound
    refine .inr ⟨⟨_, bound⟩, ?_⟩
    dsimp only at called
    split at called
    · cases called
    split at called
    · rename_i repeated
      cases called
      -- The row with the key is a row of the target, so one of them is the latest.
      obtain ⟨row, member, same⟩ := List.mem_map.mp repeated
      unfold LearningMemoryRecord.signalKey at same
      obtain ⟨tenant, same⟩ := Prod.mk.inj same
      obtain ⟨type, same⟩ := Prod.mk.inj same
      obtain ⟨target, -⟩ := Prod.mk.inj same
      cases latest : LedgerState.latest (ledger.seen worker) input.tenantId input.targetType
          input.targetId with
      | some record => exact ⟨record, rfl⟩
      | none =>
          unfold LedgerState.latest at latest
          rw [List.argmax_eq_none, List.filter_eq_nil_iff] at latest
          exact absurd (decide_eq_true ⟨tenant, type, target⟩) (latest row member)
    split at called
    · cases called
      exact ⟨_, rfl⟩
    · rename_i unknown
      rw [Option.all_eq_true] at unknown
      exact absurd (fun id member => decide_eq_true (known id member)) unknown

/-- What an uninterrupted run has done so far, by where it is. -/
def Followed (std : Stdlib) (revision : OutcomeRevision) (reports : LearningReports)
    (decisions : List Decision) (state : LoopState Worker) : LoopPhase → Prop
  | .begun run => run.revision = revision ∧ state.decisions = decisions
  | .persisting _ remaining persisted => ∃ done,
      computeSignals std revision.tenantId revision.decisionId reports decisions =
        .ok (done ++ remaining) ∧
      (∀ tuple ∈ done, Storable tuple) ∧ persisted.length = done.length
  | .completed _ persisted | .ended (.completed _ persisted) => ∃ tuples,
      computeSignals std revision.tenantId revision.decisionId reports decisions = .ok tuples ∧
      (∀ tuple ∈ tuples, Storable tuple) ∧ persisted.length = tuples.length
  | .marking .. | .ended (.raised ..) => SignalsFail std revision reports decisions
  | .idle | .ended .skipped => False

variable {decisions : List Decision}

theorem followed_raise (run : LearningRun) (exception : LoopException)
    (fails : SignalsFail std revision reports decisions) :
    Followed std revision reports decisions (raiseInRun worker run exception state)
      ((raiseInRun worker run exception state).phases worker) := by
  unfold raiseInRun
  rw [LoopState.setPhase_self]
  cases exception.isOrdinary with
  | true => exact fails
  | false => exact fails

/-- **An uninterrupted step** raises only where the signals fail. -/
theorem Followed.step {action : LoopAction Worker} (held : Held lifecycle state)
    (followed : Followed std revision reports decisions state (state.phases worker))
    (uninterrupted : Uninterrupted worker reports state action)
    (stepped : loopStep std describe policy state action = some next) :
    Followed std revision reports decisions next (next.phases worker) := by
  obtain ⟨⟨own, notBegin⟩, given, notOutside⟩ := uninterrupted
  cases action with
  | submit tenantId decisionId actualOutcomes executedAt now fresh => cases own
  | begin other revision now fresh => exact absurd rfl (by cases own; exact notBegin revision now fresh)
  | compute other found =>
      cases own
      rw [given worker found rfl] at stepped
      obtain ⟨run, phase, -⟩ := compute_cases stepped
      rw [phase] at followed
      obtain ⟨rfl, rfl⟩ := followed
      unfold loopStep at stepped
      dsimp only at stepped
      rw [phase] at stepped
      dsimp only at stepped
      cases computed : computeSignals std run.revision.tenantId run.revision.decisionId reports
          state.decisions with
      | error exception =>
          rw [computed] at stepped
          cases stepped
          refine followed_raise run exception fun tuples same => ?_
          rw [computed] at same
          cases same
      | ok tuples =>
          rw [computed] at stepped
          cases stepped
          rw [LoopState.setPhase_self]
          exact ⟨[], computed, by rintro _ ⟨⟩, rfl⟩
  | persist other now fresh =>
      cases own
      obtain ⟨run, tuple, rest, persisted, phase, -⟩ := persist_cases stepped
      rw [phase] at followed
      obtain ⟨done, computed, storable, length⟩ := followed
      unfold loopStep at stepped
      dsimp only at stepped
      rw [phase] at stepped
      dsimp only at stepped
      cases called : persistSignal std worker run tuple now fresh state with
      | none =>
          rw [called] at stepped
          cases stepped
      | some reply =>
          obtain ⟨answer, ledger⟩ := reply
          rw [called] at stepped
          obtain ⟨row, seen, content⟩ := (held.owns worker run (by rw [phase]; rfl)).row
          have execution : run.execution.id ∈ (state.store.seen worker).map (·.id) :=
            List.mem_map.mpr ⟨row, seen, congrArg ExecutionContent.id content⟩
          rcases persistInSession_answer called (by rintro id ⟨⟩; exact execution) with
            ⟨failure, unbound, rfl⟩ | ⟨bound, record, rfl⟩
          · cases stepped
            refine followed_raise run _ fun tuples same => ?_
            rw [computed] at same
            cases same
            refine ⟨tuple, List.mem_append_right _ List.mem_cons_self, ?_⟩
            rintro ⟨documents, stored⟩
            cases unbound.symm.trans stored
          · cases stepped
            rw [LoopState.setPhase_self]
            refine ⟨done ++ [tuple], by rw [computed, List.append_cons], ?_, ?_⟩
            · intro other member
              rcases List.mem_append.mp member with old | new
              · exact storable other old
              · rw [List.mem_singleton.mp new]
                exact bound
            · rw [List.length_append, List.length_append, length]
              rfl
  | complete other now =>
      cases own
      obtain ⟨run, persisted, changed, store, phase, called, rfl⟩ := complete_cases stepped
      rw [phase] at followed
      rw [LoopState.setPhase_self]
      obtain ⟨done, computed, storable, length⟩ := followed
      rw [List.append_nil] at computed
      exact ⟨done, computed, storable, length⟩
  | commit other =>
      cases own
      obtain ⟨run, persisted, phase, rfl⟩ := commit_cases stepped
      rw [phase] at followed
      rw [LoopState.setPhase_self]
      exact followed
  | interrupt other text ordinary => exact absurd rfl (notOutside other text ordinary)
  | markFailed other now =>
      cases own
      obtain ⟨run, exception, answer, store, phase, called, rfl⟩ := markFailed_cases stepped
      rw [phase] at followed
      rw [LoopState.setPhase_self]
      exact followed

theorem ended_stuck {action : LoopAction Worker} {outcome : LoopOutcome}
    (ended : state.phases worker = .ended outcome) (inside : InsideRun worker state action) :
    loopStep std describe policy state action = none := by
  obtain ⟨own, notBegin⟩ := inside
  unfold loopStep
  cases action with
  | submit tenantId decisionId actualOutcomes executedAt now fresh => cases own
  | begin other revision now fresh =>
      cases own
      exact absurd rfl (notBegin revision now fresh)
  | compute | persist | complete | commit | markFailed =>
      cases own
      dsimp only
      rw [ended]
  | interrupt other text ordinary =>
      cases own
      dsimp only
      rw [ended]
      rfl

/-- The invariant of an uninterrupted run. -/
structure Following (std : Stdlib) (revision : OutcomeRevision) (reports : LearningReports)
    (decisions : List Decision) (worker : Worker) (state : LoopState Worker) : Prop where
  held : Held endedStays state
  followed : Followed std revision reports decisions state (state.phases worker)

end Durable

/-! ### The two paths -/

section Paths

variable {Worker : Type} [DecidableEq Worker] [Fintype Worker]

/-- What a record says about which target. -/
def LearningMemoryRecord.written (record : LearningMemoryRecord) :
    MemoryTarget × Uuid × Json × Json :=
  (record.targetType, record.targetId, record.signal, record.provenance)

/-- The records that a run of the durable path has persisted. -/
def LoopOutcome.persisted : LoopOutcome → List LearningMemoryRecord
  | completed _ persisted => persisted
  | skipped | raised .. => []

/-- A run of the durable path raised. -/
def LoopOutcome.Raises : LoopOutcome → Prop
  | raised .. => True
  | skipped | completed .. => False

instance decidableRaises : DecidablePred LoopOutcome.Raises
  | .raised .. => isTrue trivial
  | .skipped | .completed .. => isFalse id

/-- The two paths persist the same, and neither raises where the other succeeds. -/
def PathsAgree (legacy : LegacyRun Worker) (durable : LoopOutcome) : Prop :=
  legacy.persisted.map (·.map LearningMemoryRecord.written) =
      durable.persisted.map (fun record => some record.written) ∧
    (legacy.raised.isSome ↔ durable.Raises)

/-- **The two paths agree exactly when the durable one raises.** `before` is any database that the
workers reach. The durable path begins there for a submitted revision, and its steps are not
interrupted; the legacy path runs there with the same reports. -/
theorem paths_agree_iff (std : Stdlib) (describe : LoopException → String) (policy : BindPolicy)
    (initial before opened after : LoopState Worker) (worker : Worker) (revision : OutcomeRevision)
    (reports : LearningReports) (now : Timestamp) (fresh : Uuid) (outcome : LoopOutcome)
    (executions : List Uuid) (first : Timestamp × Uuid) (clock : List (Timestamp × Uuid))
    (legacy : LegacyRun Worker) (unused : Unused initial)
    (reachable : (loopSystem Worker std describe policy).Reachable (fun _ _ => True) initial before)
    (issued : Unissued fresh before)
    (began : loopStep std describe policy before (.begin worker revision now fresh) = some opened)
    (ran : (loopSystem Worker std describe policy).Reachable (Uninterrupted worker reports) opened
      after)
    (ended : (after.phases worker).outcome = some outcome)
    (called : runLearningLoop std executions revision.tenantId revision.decisionId reports
      before.decisions (first :: clock) before.ledger = some legacy) :
    PathsAgree legacy outcome ↔ DurableRaises std policy before revision reports now := by
  -- The legacy path raises, so the paths agree when the durable one does and persists nothing.
  obtain ⟨exception, raises⟩ := runLearningLoop_raises std executions revision.tenantId
    revision.decisionId reports before.decisions first clock before.ledger
  rw [raises] at called
  cases called
  have agree : PathsAgree
      ({ raised := some exception, persisted := [], ledger := before.ledger } : LegacyRun Worker)
      outcome ↔ outcome.Raises := by
    cases outcome with
    | skipped => exact ⟨fun same => same.2.mp rfl, False.elim⟩
    | completed id persisted => exact ⟨fun same => same.2.mp rfl, False.elim⟩
    | raised original reached => exact ⟨fun _ => trivial, fun _ => ⟨rfl, fun _ => trivial, fun _ => rfl⟩⟩
  rw [agree]
  have held : Held endedStays before := reachable.invariant (unused.held endedStays)
    fun _ _ _ holds _ moved => holds.step moved (fun _ _ => ⟨rfl, False.elim⟩)
      fun _ _ _ _ _ _ _ _ _ _ _ => ⟨rfl, False.elim⟩
  have heldOpened : Held endedStays opened := held.step began (fun _ _ => ⟨rfl, False.elim⟩)
    fun _ _ _ _ _ _ _ _ _ _ _ => ⟨rfl, False.elim⟩
  have phase := LoopPhase.ended_of_outcome ended
  have stays : ∀ final, opened.phases worker = .ended final → outcome = final := by
    intro final isFinal
    rcases Relation.ReflTransGen.cases_head ran with rfl | ⟨_, ⟨action, uninterrupted, stepped⟩, -⟩
    · rw [phase] at isFinal
      cases isFinal
      rfl
    · have stuck : loopStep std describe policy opened action = none :=
        ended_stuck isFinal uninterrupted.1
      cases stuck.symm.trans stepped
  obtain ⟨submitted, -, open', transaction, ends⟩ := begin_cases began
  have begun := begun_of_begin transaction
  have opening := begun_consistent transaction held.consistent
  have claim : ∀ answer store, claimExecution policy worker revision.request now fresh open' =
      some (answer, store) → _ := fun answer store claimed =>
    claimExecution_answer begun opening (by rw [begun.revisions]; exact ⟨revision, submitted, rfl⟩)
      (by rw [begun.committed]; exact issued.committed) (begun.pending_ne issued.pending) claimed
  rw [begun.seen] at claim
  rcases ends with ⟨failure, store, ⟨error, last, claimed⟩, -, -, rfl⟩ |
    ⟨store, ⟨last, claimed⟩, -, -, rfl⟩ | ⟨execution, store, claimed, rfl⟩
  · rw [stays _ (LoopState.setPhase_self _)]
    rcases claim _ _ claimed with ⟨-, none⟩ | ⟨dead, ⟨required, found, -⟩ | ⟨-, row, some⟩⟩
    · cases none
    · exact ⟨fun _ => ⟨dead, .inl ⟨required, found⟩⟩, fun _ => trivial⟩
    · cases some
  · rw [stays _ (LoopState.setPhase_self _)]
    rcases claim _ _ claimed with ⟨alive, -⟩ | ⟨-, ⟨-, -, _, none⟩ | ⟨-, row, some⟩⟩
    · exact ⟨False.elim, fun raised => raised.1 alive⟩
    · cases none
    · cases some
  · rcases claim _ _ claimed with ⟨-, none⟩ | ⟨dead, ⟨-, -, _, none⟩ | ⟨accepted, -⟩⟩
    · cases none
    · cases none
    have starts : Following std revision reports before.decisions worker
        (({ before with store }).setPhase worker (.begun { revision, execution })) := by
      refine ⟨heldOpened, ?_⟩
      rw [LoopState.setPhase_self]
      exact ⟨rfl, rfl⟩
    have follows : Following std revision reports before.decisions worker after := by
      refine ran.invariant starts fun _ _ _ holds uninterrupted stepped => ⟨?_, ?_⟩
      · exact holds.held.step stepped (fun _ _ => ⟨rfl, False.elim⟩) fun _ _ _ _ _ _ _ _ _ _ _ =>
          ⟨rfl, False.elim⟩
      · exact holds.followed.step holds.held uninterrupted stepped
    have followed := follows.followed
    rw [phase] at followed
    cases outcome with
    | skipped => exact followed.elim
    | completed id persisted =>
        refine ⟨False.elim, ?_⟩
        rintro ⟨-, refused | fails⟩
        · exact accepted refused
        · obtain ⟨tuples, computed, storable, -⟩ := followed
          obtain ⟨tuple, member, unstorable⟩ := fails tuples computed
          exact unstorable (storable tuple member)
    | raised original reached => exact ⟨fun _ => ⟨dead, .inr followed⟩, fun _ => trivial⟩

/-- The steps of an uninterrupted run for a decision without expected outcomes. -/
def plainSteps : List (LoopAction (Fin 1)) :=
  [.compute 0 noReports, .persist 0 2 12, .complete 0 3, .commit 0]

theorem plainSteps_uninterrupted : ∀ action ∈ plainSteps, ∀ state : LoopState (Fin 1),
    Uninterrupted 0 noReports state action := by
  unfold plainSteps
  rintro action member state
  rw [List.mem_cons, List.mem_cons, List.mem_cons, List.mem_singleton] at member
  rcases member with rfl | rfl | rfl | rfl
  all_goals simp [Uninterrupted, InsideRun, LoopAction.worker]

/-- The database in which the outcomes of the plain decision are observed. -/
def observedLoop : LoopState (Fin 1) :=
  { loopWith [] with
    decisions := [{ plainDecision with
      actualOutcomes := some [.obj [("metric", .str "latency"), ("value", .bool true)]]
      outcomeStatus := "observed" }] }

/-- The run of an observed decision completes, and the legacy path raises. -/
theorem paths_disagree :
    ∃ (opened after : LoopState (Fin 1)) (outcome : LoopOutcome) (legacy : LegacyRun (Fin 1)),
      loopStep .constant (fun _ => "") .nullable observedLoop (.begin 0 firstRevision 1 11) =
        some opened ∧
      (loopSystem (Fin 1) .constant (fun _ => "") .nullable).Reachable (Uninterrupted 0 noReports)
        opened after ∧
      (after.phases 0).outcome = some outcome ∧
      runLearningLoop .constant [] firstRevision.tenantId firstRevision.decisionId noReports
        observedLoop.decisions [(2, 12)] observedLoop.ledger = some legacy ∧
      ¬PathsAgree legacy outcome := by
  have executed : ((loopStep .constant (fun _ => "") .nullable observedLoop
      (.begin 0 firstRevision 1 11)).bind fun opened =>
        ((loopSystem (Fin 1) .constant (fun _ => "") .nullable).run opened plainSteps).map
          fun after => (after.phases 0).outcome.map fun outcome => decide outcome.Raises) =
            some (some false) := by
    decide +kernel
  obtain ⟨opened, began, rest⟩ := Option.bind_eq_some_iff.mp executed
  obtain ⟨after, ran, answer⟩ := Option.map_eq_some_iff.mp rest
  obtain ⟨outcome, ended, returns⟩ := Option.map_eq_some_iff.mp answer
  obtain ⟨exception, raises⟩ := runLearningLoop_raises .constant [] firstRevision.tenantId
    firstRevision.decisionId noReports observedLoop.decisions (2, 12) [] observedLoop.ledger
  refine ⟨opened, after, outcome, _, began,
    Transition.System.run_reachable ran plainSteps_uninterrupted, ended, raises, ?_⟩
  rintro ⟨-, raised⟩
  exact of_decide_eq_false returns (raised.mp rfl)

/-- Both paths raise for a decision that is gone. -/
theorem paths_agree_gone :
    ∃ (after : LoopState (Fin 1)) (outcome : LoopOutcome) (legacy : LegacyRun (Fin 1)),
      (after.phases 0).outcome = some outcome ∧
      runLearningLoop .constant [] firstRevision.tenantId firstRevision.decisionId noReports []
        [(2, 12)] (loopWith []).ledger = some legacy ∧
      PathsAgree legacy outcome := by
  have executed : ((loopStep .constant (fun _ => "") .nullable
      { loopWith [] with decisions := [] } (.begin 0 firstRevision 1 11)).bind fun opened =>
        ((loopSystem (Fin 1) .constant (fun _ => "") .nullable).run opened
          [.compute 0 noReports, .markFailed 0 2]).bind fun after => (after.phases 0).outcome) =
      some (.raised (.decisionNotFound 2) (.decisionNotFound 2)) := by
    decide +kernel
  obtain ⟨opened, began, rest⟩ := Option.bind_eq_some_iff.mp executed
  obtain ⟨after, ran, ended⟩ := Option.bind_eq_some_iff.mp rest
  obtain ⟨exception, raises⟩ := runLearningLoop_raises .constant [] firstRevision.tenantId
    firstRevision.decisionId noReports [] (2, 12) [] (loopWith []).ledger
  have unused : Unused (loopWith []) := unused_loopWith List.nodup_nil (by rintro _ ⟨⟩)
  refine ⟨after, _, _, ended, raises, ?_⟩
  refine (paths_agree_iff .constant (fun _ => "") .nullable { loopWith [] with decisions := [] }
    { loopWith [] with decisions := [] } opened after 0 firstRevision noReports 1 11 _ [] (2, 12) [] _
    ⟨unused.ids, unused.activeOnce, unused.revisionIds, unused.unused⟩ .refl ⟨?_, ?_, ?_⟩ began
    (Transition.System.run_reachable ran ?_) ended raises).mpr ⟨by decide, .inr ?_⟩
  · rintro _ ⟨⟩
  · rintro _ _ ⟨⟩
  · rintro _ _ ⟨⟩
  · intro action member state
    rw [List.mem_cons, List.mem_singleton] at member
    rcases member with rfl | rfl
    all_goals simp [Uninterrupted, InsideRun, LoopAction.worker]
  · rintro tuples ⟨⟩

end Paths

end CosMonitor
