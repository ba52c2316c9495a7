/-
**`submit_decision_outcomes` — what the gateway stores before it answers.**

* `LearningLoopStore`: the store behind `run_for_decision`, which leaves the decisions and the outcome
  revisions alone (`h3Learning` and `legacyLearning` are the two that the code has);
* `submitDecisionOutcomes`: the durable route, the legacy route and the plain one. The durable route
  runs both of its phases in one `try`, and answers `outcomes_submitted` whatever it catches;
* `kept_iff`: the answer is kept exactly when no route loses it, as `Honoured` says.
-/

import CosMonitor.Access.Rbac
import CosMonitor.Memory.LegacyLoop

set_option linter.unusedSectionVars false

namespace CosMonitor

/-! ### Tenants -/

/-- `AuthorizationContext.resolve`: the effective tenant of a request. -/
def resolveTenant (role tenantId requestedTenantId : String) : Except AccessError String :=
  if requestedTenantId = tenantId then .ok requestedTenantId
  else
    match crossTenantAllowed role with
    | .error failure => .error failure
    | .ok true => .ok requestedTenantId
    | .ok false => .error .tenantIsolation

/-! ### The learning loop store -/

/-- What a learning run computed, besides the signals that it persisted. -/
structure LearningFigures where
  consolidationFeedback : ℚ
  brier : Option PyFloat
  ece : Option ℚ
  patternsRefined : Nat
  contextsRevised : Nat
  insightsTransformed : Nat

/-- The result of `run_for_decision`. Only a durable run has an execution and a revision. -/
structure LearningResult where
  status : String
  executionId : Option Uuid
  outcomeRevisionId : Option Uuid
  figures : LearningFigures
  persistedSignals : Nat

/-- The field `learning_loop` of an answer. -/
inductive LearningEntry where
  | durable (result : LearningResult)
  | completed (figures : LearningFigures) (persistedSignals : Nat)
  | failed (error : LoopException)
  | pending

section Stores

variable {Worker : Type} [DecidableEq Worker] [Fintype Worker]

/-- Two states with the same decisions and outcome revisions. -/
structure SameRecords (before after : LoopState Worker) : Prop where
  decisions : after.decisions = before.decisions
  revisions : after.store.revisions = before.store.revisions

theorem SameRecords.trans {before between after : LoopState Worker}
    (first : SameRecords before between) (second : SameRecords between after) :
    SameRecords before after :=
  ⟨second.decisions.trans first.decisions, second.revisions.trans first.revisions⟩

/-- A learning loop store: `run` is `run_for_decision`, called with an outcome revision or without one,
and `none` while it has not returned. It writes executions and the ledger, nothing else. -/
structure LearningLoopStore (Worker : Type) [DecidableEq Worker] [Fintype Worker] where
  run : Uuid → Uuid → Option OutcomeRevision → LoopState Worker →
    Option (Except LoopException LearningResult × LoopState Worker)
  frame : ∀ {tenantId decisionId revision state answer next},
    run tenantId decisionId revision state = some (answer, next) → SameRecords state next

theorem loopStep_frame {std : Stdlib} {describe : LoopException → String} {policy : BindPolicy}
    {state next : LoopState Worker} {action : LoopAction Worker} {worker : Worker}
    (own : action.worker = some worker)
    (stepped : loopStep std describe policy state action = some next) : SameRecords state next := by
  cases action with
  | submit tenantId decisionId actualOutcomes executedAt now fresh => cases own
  | begin other revision now fresh =>
      obtain ⟨-, -, opened, began, ends⟩ := begin_cases stepped
      have begun := begun_of_begin began
      rcases ends with ⟨_, store, -, -, revisions, rfl⟩ | ⟨store, -, -, revisions, rfl⟩ |
        ⟨execution, store, claimed, rfl⟩
      · exact ⟨rfl, revisions⟩
      · exact ⟨rfl, revisions⟩
      · exact ⟨rfl, (claimExecution_within claimed).revisions.trans begun.revisions⟩
  | compute other reports =>
      obtain ⟨run, -, ⟨exception, rfl⟩ | ⟨tuples, -, rfl⟩⟩ := compute_cases stepped
      · exact ⟨rfl, rfl⟩
      · exact ⟨rfl, rfl⟩
  | persist other now fresh =>
      obtain ⟨run, tuple, rest, persisted, -, ⟨exception, rfl⟩ | ⟨record, ledger, -, rfl⟩⟩ :=
        persist_cases stepped
      · exact ⟨rfl, rfl⟩
      · exact ⟨rfl, rfl⟩
  | complete other now =>
      obtain ⟨run, persisted, row, store, -, called, rfl⟩ := complete_cases stepped
      exact ⟨rfl, (changeExecution_within called).revisions⟩
  | commit other =>
      obtain ⟨run, persisted, -, rfl⟩ := commit_cases stepped
      exact ⟨rfl, rfl⟩
  | interrupt other text ordinary =>
      obtain ⟨run, -, rfl⟩ := interrupt_cases stepped
      exact ⟨rfl, rfl⟩
  | markFailed other now =>
      obtain ⟨run, exception, answer, store, -, called, rfl⟩ := markFailed_cases stepped
      exact ⟨rfl, failExecution_revisions called⟩

/-- A step of a worker inside its run, as a test. -/
def LoopAction.within (worker : Worker) : LoopAction Worker → Bool
  | .begin .. => false
  | action => decide (action.worker = some worker)

/-- What the caller of a run that has ended gets. -/
def LoopOutcome.toAnswer (figures : LearningFigures) (revision : OutcomeRevision) :
    LoopOutcome → Except LoopException LearningResult
  | skipped => .ok {
      status := "skipped"
      executionId := none
      outcomeRevisionId := some revision.id
      figures := ⟨0, some (.finite 0), some 0, 0, 0, 0⟩
      persistedSignals := 0 }
  | completed executionId persisted => .ok {
      status := "completed"
      executionId := some executionId
      outcomeRevisionId := some revision.id
      figures
      persistedSignals := persisted.length }
  | raised _ reached => .error reached

/-- `H3LearningLoopStore`: a worker begins a run for the revision and takes the steps of `schedule`,
in which any of its statements may raise. -/
def h3Learning (std : Stdlib) (describe : LoopException → String) (policy : BindPolicy)
    (worker : Worker) (now : Timestamp) (fresh : Uuid) (schedule : List (LoopAction Worker))
    (figures : LearningFigures) : LearningLoopStore Worker where
  run _ _ revision state :=
    match revision with
    | none => some (.error (.python .typeError), state)
    | some revision =>
        (loopStep std describe policy state (.begin worker revision now fresh)).bind fun opened =>
          ((loopSystem Worker std describe policy).guardedRun
              (fun _ action => action.within worker = true) opened schedule).bind fun after =>
            (after.phases worker).outcome.map fun outcome =>
              (outcome.toAnswer figures revision, after)
  frame := by
    intro tenantId decisionId revision state answer next returned
    cases revision with
    | none =>
        cases returned
        exact ⟨rfl, rfl⟩
    | some revision =>
        obtain ⟨opened, began, rest⟩ := Option.bind_eq_some_iff.mp returned
        obtain ⟨after, ran, ended⟩ := Option.bind_eq_some_iff.mp rest
        obtain ⟨outcome, -, built⟩ := Option.map_eq_some_iff.mp ended
        cases built
        have own : ∀ action : LoopAction Worker, action.within worker = true →
            action.worker = some worker := by
          intro action inside
          cases action with
          | begin other revision now fresh => cases inside
          | submit tenantId decisionId actualOutcomes executedAt now fresh => cases inside
          | _ => exact of_decide_eq_true inside
        exact (Transition.System.guardedRun_reachable ran).invariant (loopStep_frame rfl began)
          fun before action after kept inside stepped =>
            kept.trans (loopStep_frame (own action inside) stepped)

/-- `LearningLoopStore`: the legacy loop has no parameter for a revision. -/
def legacyLearning (std : Stdlib) (executions : List Uuid) (reports : LearningReports)
    (clock : List (Timestamp × Uuid)) (figures : LearningFigures) : LearningLoopStore Worker where
  run tenantId decisionId revision state :=
    match revision with
    | some _ => some (.error (.python .typeError), state)
    | none =>
        (runLearningLoop std executions tenantId decisionId reports state.decisions clock
          state.ledger).map fun run =>
            (match run.raised with
              | some exception => .error exception
              | none => .ok {
                  status := "completed"
                  executionId := none
                  outcomeRevisionId := none
                  figures
                  persistedSignals := run.persisted.length },
            { state with ledger := run.ledger })
  frame := by
    intro tenantId decisionId revision state answer next returned
    cases revision with
    | some revision =>
        cases returned
        exact ⟨rfl, rfl⟩
    | none =>
        obtain ⟨run, -, built⟩ := Option.map_eq_some_iff.mp returned
        cases built
        exact ⟨rfl, rfl⟩

end Stores

/-! ### The routes -/

/-- A call of `submit_decision_outcomes` with a verified token. -/
structure OutcomesCall where
  role : String
  tokenTenantId : String
  requestedTenantId : String
  decisionId : String
  actualOutcomes : List Json
  executedAt : Option Timestamp

/-- What a call raises. -/
inductive SubmitException where
  /-- `RuntimeError`: there is no decision read store -/
  | notConfigured
  | access (error : AccessError)
  /-- `InvalidOutcomesError` -/
  | invalidOutcomes
  /-- `DecisionNotFoundError` -/
  | decisionNotFound (decisionId : Uuid)
  | raised (exception : LoopException)

/-- The field `decision` of an answer: a status, or the row. -/
inductive SubmittedDecision where
  | accepted (status : String)
  | row (decision : Decision)

/-- An answer of `submit_decision_outcomes`. -/
structure SubmitResult where
  decision : SubmittedDecision
  status : Option String
  learningLoop : LearningEntry

/-- The answer says `outcomes_submitted`, in the place where its route says it. -/
def SubmitResult.Submitted (result : SubmitResult) : Prop :=
  result.decision = .accepted "outcomes_submitted" ∨ result.status = some "outcomes_submitted"

/-- `ValueError` of `uuid.UUID`. -/
def badUuid : LoopException :=
  .python (.valueError "badly formed hexadecimal UUID string")

/-- The row with its outcomes observed, and executed when an instant is given. -/
def Decision.submitted (decision : Decision) (actualOutcomes : List Json)
    (executedAt : Option Timestamp) : Decision :=
  { decision with
    actualOutcomes := some actualOutcomes
    outcomeStatus := "observed"
    executedAt := executedAt <|> decision.executedAt }

section Routes

variable {Worker : Type} [DecidableEq Worker] [Fintype Worker]

/-- What the gateway was built with. -/
structure GatewayWiring (Worker : Type) [DecidableEq Worker] [Fintype Worker] where
  decisionReadStore : Bool
  executionStore : Bool
  learningLoopStore : Option (LearningLoopStore Worker)

/-- `UPDATE decisions … WHERE id AND tenant_id`. -/
def updateOutcomes (tenantId decisionId : Uuid) (call : OutcomesCall) (decisions : List Decision) :
    List Decision :=
  decisions.map fun decision =>
    if decision.id = decisionId ∧ decision.tenantId = tenantId then
      decision.submitted call.actualOutcomes call.executedAt
    else decision

/-- `DecisionReadStore.submit_outcomes`. `failure` is what the database raises before the commit. -/
def submitOutcomes (tenantId decisionId : Uuid) (call : OutcomesCall) (failure : Option LoopException)
    (state : LoopState Worker) : Except SubmitException Decision × LoopState Worker :=
  if call.actualOutcomes = [] then (.error .invalidOutcomes, state)
  else
    match failure with
    | some exception => (.error (.raised exception), state)
    | none =>
        match findDecision tenantId decisionId state.decisions with
        | none => (.error (.decisionNotFound decisionId), state)
        | some decision =>
            match jsonb (.arr call.actualOutcomes) with
            | .error refused => (.error (.raised (.database refused)), state)
            | .ok _ => (.ok (decision.submitted call.actualOutcomes call.executedAt),
                { state with decisions := updateOutcomes tenantId decisionId call state.decisions })

/-- The first phase of the durable route, with what the database raises before the commit. -/
def firstPhase (tenantId decisionId : Uuid) (call : OutcomesCall) (failure : Option LoopException)
    (now : Timestamp) (fresh : Uuid) (state : LoopState Worker) :
    Except LoopException (OutcomeRevision × LoopState Worker) :=
  match failure with
  | some exception => .error exception
  | none => submitOutcomesWithRevision tenantId decisionId call.actualOutcomes call.executedAt now
      fresh state

/-- The `try` of the durable route: the identifiers, the first phase and the learning run. -/
def durableBody (learning : LearningLoopStore Worker) (tenantId : String) (call : OutcomesCall)
    (failure : Option LoopException) (now : Timestamp) (fresh : Uuid) (state : LoopState Worker) :
    Option (Except LoopException LearningResult × LoopState Worker) :=
  match parseUuid tenantId, parseUuid call.decisionId with
  | some tenant, some decision =>
      match firstPhase tenant decision call failure now fresh state with
      | .error exception => some (.error exception, state)
      | .ok (revision, next) => learning.run tenant decision (some revision) next
  | _, _ => some (.error badUuid, state)

/-- `except Exception` around what stores or learns: the entry of an exception that it catches. -/
def caught (entry : LearningResult → LearningEntry) (answer : Except LoopException LearningResult) :
    Except SubmitException LearningEntry :=
  match answer with
  | .ok result => .ok (entry result)
  | .error exception =>
      if exception.isOrdinary then .ok (.failed exception) else .error (.raised exception)

/-- The durable route. -/
def durableRoute (learning : LearningLoopStore Worker) (tenantId : String) (call : OutcomesCall)
    (failure : Option LoopException) (now : Timestamp) (fresh : Uuid) (state : LoopState Worker) :
    Option (Except SubmitException SubmitResult × LoopState Worker) :=
  (durableBody learning tenantId call failure now fresh state).map fun (answer, next) =>
    ((caught .durable answer).map fun learningLoop =>
      { decision := .accepted "outcomes_submitted", status := none, learningLoop }, next)

/-- Submit the outcomes through the decision read store, and go on with the identifiers. -/
def submitThen (tenantId : String) (call : OutcomesCall) (failure : Option LoopException)
    (learn : Uuid → Uuid → LoopState Worker →
      Option (Except SubmitException LearningEntry × LoopState Worker))
    (state : LoopState Worker) : Option (Except SubmitException SubmitResult × LoopState Worker) :=
  match parseUuid tenantId, parseUuid call.decisionId with
  | some tenant, some decision =>
      match submitOutcomes tenant decision call failure state with
      | (.error exception, next) => some (.error exception, next)
      | (.ok row, next) =>
          (learn tenant decision next).map fun (answer, last) =>
            (answer.map fun learningLoop =>
              { decision := .row row, status := some "outcomes_submitted", learningLoop }, last)
  | _, _ => some (.error (.raised badUuid), state)

/-- The legacy route: only the learning run is inside the `try`. -/
def legacyRoute (learning : LearningLoopStore Worker) (tenantId : String) (call : OutcomesCall)
    (failure : Option LoopException) (state : LoopState Worker) :
    Option (Except SubmitException SubmitResult × LoopState Worker) :=
  submitThen tenantId call failure (fun tenant decision next =>
    (learning.run tenant decision none next).map fun (answer, last) =>
      (caught (fun result => .completed result.figures result.persistedSignals) answer, last)) state

/-- The route without a learning loop store. -/
def plainRoute (tenantId : String) (call : OutcomesCall) (failure : Option LoopException)
    (state : LoopState Worker) : Option (Except SubmitException SubmitResult × LoopState Worker) :=
  submitThen tenantId call failure (fun _ _ next => some (.ok .pending, next)) state

/-- `submit_decision_outcomes`; `none` while the learning run has not returned. -/
def submitDecisionOutcomes (wiring : GatewayWiring Worker) (call : OutcomesCall)
    (failure : Option LoopException) (now : Timestamp) (fresh : Uuid) (state : LoopState Worker) :
    Option (Except SubmitException SubmitResult × LoopState Worker) :=
  if wiring.decisionReadStore then
    match resolveTenant call.role call.tokenTenantId call.requestedTenantId with
    | .error refused => some (.error (.access refused), state)
    | .ok tenantId =>
        match wiring.learningLoopStore, wiring.executionStore with
        | some learning, true => durableRoute learning tenantId call failure now fresh state
        | some learning, false => legacyRoute learning tenantId call failure state
        | none, _ => plainRoute tenantId call failure state
  else some (.error .notConfigured, state)

/-! ### What an answer promises -/

/-- The row of the decision has exactly the outcomes, and is observed. -/
def HasOutcomes (tenantId decisionId : Uuid) (outcomes : List Json) (state : LoopState Worker) : Prop :=
  ∃ row, findDecision tenantId decisionId state.decisions = some row ∧
    row.actualOutcomes = some outcomes ∧ row.outcomeStatus = "observed"

/-- A revision with the outcomes. -/
def HasRevision (tenantId decisionId : Uuid) (outcomes : List Json) (state : LoopState Worker) : Prop :=
  ∃ revision ∈ state.store.revisions, revision.tenantId = tenantId ∧
    revision.decisionId = decisionId ∧ revision.actualOutcomes = outcomes

/-- The outcomes of a call are stored: its tenant and its decision are there, with the outcomes, and
with a revision where the execution store is wired. -/
def Stored (wired : Bool) (call : OutcomesCall) (state : LoopState Worker) : Prop :=
  ∃ text tenant decision,
    resolveTenant call.role call.tokenTenantId call.requestedTenantId = .ok text ∧
    parseUuid text = some tenant ∧ parseUuid call.decisionId = some decision ∧
    HasOutcomes tenant decision call.actualOutcomes state ∧
    (wired = true → HasRevision tenant decision call.actualOutcomes state)

/-- **What a call promises**: it answers `outcomes_submitted` and the outcomes are stored, or it raises
and neither table has changed. -/
def Kept (wired : Bool) (call : OutcomesCall) (before : LoopState Worker)
    (answer : Except SubmitException SubmitResult) (after : LoopState Worker) : Prop :=
  match answer with
  | .ok result => result.Submitted ∧ Stored wired call after
  | .error _ => SameRecords before after

/-! ### When it is kept -/

/-- The driver binds the outcomes, and the database raises nothing. -/
def Accepts (call : OutcomesCall) (failure : Option LoopException) : Prop :=
  failure = none ∧ ∃ stored, jsonb (.arr call.actualOutcomes) = .ok stored

/-- The first phase of the durable route stores the outcomes. -/
def FirstPhaseStores (tenantId decisionId : Uuid) (call : OutcomesCall)
    (failure : Option LoopException) (fresh : Uuid) (before : LoopState Worker) : Prop :=
  Accepts call failure ∧ (∀ revision ∈ before.store.revisions, revision.id ≠ fresh) ∧
    (findDecision tenantId decisionId before.decisions).isSome

/-- The decision read store stores the outcomes. -/
def ReadStoreStores (tenantId decisionId : Uuid) (call : OutcomesCall)
    (failure : Option LoopException) (before : LoopState Worker) : Prop :=
  call.actualOutcomes ≠ [] ∧ Accepts call failure ∧
    (findDecision tenantId decisionId before.decisions).isSome

/-- The revision that the first phase adds. -/
def OutcomesCall.revision (call : OutcomesCall) (tenantId decisionId : Uuid) (now : Timestamp)
    (fresh : Uuid) : OutcomeRevision where
  id := fresh
  tenantId
  decisionId
  actualOutcomes := call.actualOutcomes
  executedAt := call.executedAt
  createdAt := now

/-- The outcomes written to the row of the decision. -/
def LoopState.observe (state : LoopState Worker) (tenantId decisionId : Uuid) (call : OutcomesCall) :
    LoopState Worker :=
  { state with decisions := updateOutcomes tenantId decisionId call state.decisions }

/-- The outcomes written by the first phase. -/
def LoopState.revise (state : LoopState Worker) (tenantId decisionId : Uuid) (call : OutcomesCall)
    (now : Timestamp) (fresh : Uuid) : LoopState Worker :=
  { state.observe tenantId decisionId call with
    store := { state.store with
      revisions := state.store.revisions ++ [call.revision tenantId decisionId now fresh] } }

/-- What is raised is no `Exception`: the handler of a route lets it through. -/
def Escapes (exception : LoopException) : Prop :=
  exception.isOrdinary = false

/-- A learning run ends in what no handler catches. -/
def Stops (run : Option (Except LoopException LearningResult × LoopState Worker)) : Prop :=
  ∃ exception last, run = some (.error exception, last) ∧ Escapes exception

/-- When the durable route keeps what it promises: its first phase stores and the learning run does not
stop it, or an exception that it does not catch stops the first phase, or the same outcomes were there
before. -/
def DurableHonoured (learning : LearningLoopStore Worker) (text : String) (call : OutcomesCall)
    (failure : Option LoopException) (now : Timestamp) (fresh : Uuid) (before : LoopState Worker) :
    Prop :=
  ∃ tenant decision, parseUuid text = some tenant ∧ parseUuid call.decisionId = some decision ∧
    (FirstPhaseStores tenant decision call failure fresh before ∧
        ¬Stops (learning.run tenant decision (some (call.revision tenant decision now fresh))
          (before.revise tenant decision call now fresh)) ∨
      ¬FirstPhaseStores tenant decision call failure fresh before ∧
        ((∃ exception ∈ failure, Escapes exception) ∨ Stored true call before))

/-- When the legacy route keeps what it promises: the learning run does not stop it, once the outcomes
are stored, or they were there before. -/
def LegacyHonoured (learning : LearningLoopStore Worker) (text : String) (call : OutcomesCall)
    (failure : Option LoopException) (before : LoopState Worker) : Prop :=
  ∀ tenant decision, parseUuid text = some tenant → parseUuid call.decisionId = some decision →
    ReadStoreStores tenant decision call failure before →
      ¬Stops (learning.run tenant decision none (before.observe tenant decision call)) ∨
        updateOutcomes tenant decision call before.decisions = before.decisions

/-- When the plain route keeps what it promises: it adds no revision. -/
def PlainHonoured (wired : Bool) (text : String) (call : OutcomesCall)
    (failure : Option LoopException) (before : LoopState Worker) : Prop :=
  ∀ tenant decision, parseUuid text = some tenant → parseUuid call.decisionId = some decision →
    ReadStoreStores tenant decision call failure before → wired = true →
      HasRevision tenant decision call.actualOutcomes before

/-- **When a call keeps what it promises**, in terms of the database before it, of its arguments and of
what its stores raise. -/
def Honoured (wiring : GatewayWiring Worker) (call : OutcomesCall) (failure : Option LoopException)
    (now : Timestamp) (fresh : Uuid) (before : LoopState Worker) : Prop :=
  ∀ text, wiring.decisionReadStore = true →
    resolveTenant call.role call.tokenTenantId call.requestedTenantId = .ok text →
    match wiring.learningLoopStore, wiring.executionStore with
    | some learning, true => DurableHonoured learning text call failure now fresh before
    | some learning, false => LegacyHonoured learning text call failure before
    | none, wired => PlainHonoured wired text call failure before

variable {wiring : GatewayWiring Worker} {call : OutcomesCall} {failure : Option LoopException}
  {now : Timestamp} {fresh tenant decision : Uuid} {before after : LoopState Worker}

theorem findDecision_update {decisions : List Decision} {row : Decision}
    (found : findDecision tenant decision decisions = some row) :
    findDecision tenant decision (updateOutcomes tenant decision call decisions) =
      some (row.submitted call.actualOutcomes call.executedAt) := by
  have updated : updateOutcomes tenant decision call decisions =
      Table.updateWhere (fun other => decide (other.id = decision ∧ other.tenantId = tenant))
        (fun other => other.submitted call.actualOutcomes call.executedAt) decisions := by
    simp [updateOutcomes, Table.updateWhere]
  unfold findDecision at found ⊢
  rw [updated, Table.find_updateWhere, found, Option.map_some]
  exact fun _ => rfl

theorem observe_hasOutcomes (known : (findDecision tenant decision before.decisions).isSome) :
    HasOutcomes tenant decision call.actualOutcomes (before.observe tenant decision call) := by
  obtain ⟨row, found⟩ := Option.isSome_iff_exists.mp known
  exact ⟨_, findDecision_update found, rfl, rfl⟩

theorem SameRecords.stored {wired : Bool} (same : SameRecords before after) :
    Stored wired call after ↔ Stored wired call before := by
  unfold Stored HasOutcomes HasRevision
  rw [same.decisions, same.revisions]

theorem stored_iff {wired : Bool} {text : String}
    (resolved : resolveTenant call.role call.tokenTenantId call.requestedTenantId = .ok text)
    (isTenant : parseUuid text = some tenant) (isDecision : parseUuid call.decisionId = some decision) :
    Stored wired call before ↔ HasOutcomes tenant decision call.actualOutcomes before ∧
      (wired = true → HasRevision tenant decision call.actualOutcomes before) := by
  constructor
  · rintro ⟨other, otherTenant, otherDecision, known, readsTenant, readsDecision, stored⟩
    cases resolved.symm.trans known
    cases isTenant.symm.trans readsTenant
    cases isDecision.symm.trans readsDecision
    exact stored
  · exact fun stored => ⟨text, tenant, decision, resolved, isTenant, isDecision, stored⟩

/-- **The first phase**: it stores, or it raises, and what it raises escapes only where the database
raised it. -/
theorem firstPhase_answer (tenant decision : Uuid) (call : OutcomesCall)
    (failure : Option LoopException) (now : Timestamp) (fresh : Uuid) (before : LoopState Worker) :
    (FirstPhaseStores tenant decision call failure fresh before ∧
        firstPhase tenant decision call failure now fresh before =
          .ok (call.revision tenant decision now fresh,
            before.revise tenant decision call now fresh)) ∨
      ¬FirstPhaseStores tenant decision call failure fresh before ∧
        ∃ exception, firstPhase tenant decision call failure now fresh before = .error exception ∧
          (Escapes exception ↔ ∃ raised ∈ failure, Escapes raised) := by
  unfold firstPhase
  cases failure with
  | some exception =>
      refine .inr ⟨fun stores => Option.some_ne_none _ stores.1.1, exception, rfl, ?_⟩
      simp
  | none =>
      dsimp only
      unfold submitOutcomesWithRevision
      cases bound : jsonb (.arr call.actualOutcomes) with
      | error refused =>
          refine .inr ⟨?_, _, rfl, by simp [Escapes, LoopException.isOrdinary]⟩
          rintro ⟨⟨-, stored, accepted⟩, -⟩
          cases bound.symm.trans accepted
      | ok stored =>
          dsimp only
          by_cases taken : ∃ revision ∈ before.store.revisions, revision.id = fresh
          · rw [if_pos taken]
            refine .inr ⟨?_, _, rfl, by simp [Escapes, LoopException.isOrdinary]⟩
            rintro ⟨-, unused, -⟩
            obtain ⟨revision, member, same⟩ := taken
            exact unused revision member same
          rw [if_neg taken]
          by_cases missing : (findDecision tenant decision before.decisions).isNone
          · rw [if_pos missing]
            refine .inr ⟨?_, _, rfl, by simp [Escapes, LoopException.isOrdinary]⟩
            rintro ⟨-, -, known⟩
            rw [Option.isNone_iff_eq_none.mp missing] at known
            cases known
          · rw [if_neg missing]
            push Not at taken
            refine .inl ⟨⟨⟨rfl, stored, bound⟩, taken, ?_⟩, rfl⟩
            rwa [Bool.not_eq_true, Option.isNone_eq_false_iff] at missing

/-- **The decision read store**: it stores, or it raises and has changed nothing. -/
theorem submitOutcomes_answer (tenant decision : Uuid) (call : OutcomesCall)
    (failure : Option LoopException) (before : LoopState Worker) :
    (ReadStoreStores tenant decision call failure before ∧
        ∃ row, submitOutcomes tenant decision call failure before =
          (.ok row, before.observe tenant decision call)) ∨
      ¬ReadStoreStores tenant decision call failure before ∧
        ∃ exception, submitOutcomes tenant decision call failure before = (.error exception, before) := by
  unfold submitOutcomes
  by_cases empty : call.actualOutcomes = []
  · rw [if_pos empty]
    exact .inr ⟨fun stores => stores.1 empty, _, rfl⟩
  rw [if_neg empty]
  cases failure with
  | some exception => exact .inr ⟨fun stores => Option.some_ne_none _ stores.2.1.1, _, rfl⟩
  | none =>
      dsimp only
      cases found : findDecision tenant decision before.decisions with
      | none =>
          refine .inr ⟨?_, _, rfl⟩
          rintro ⟨-, -, known⟩
          rw [found] at known
          cases known
      | some row =>
          dsimp only
          cases bound : jsonb (.arr call.actualOutcomes) with
          | error refused =>
              refine .inr ⟨?_, _, rfl⟩
              rintro ⟨-, ⟨-, stored, accepted⟩, -⟩
              cases bound.symm.trans accepted
          | ok stored => exact .inl ⟨⟨empty, ⟨rfl, stored, bound⟩, by rw [found]; rfl⟩, _, rfl⟩

theorem caught_escapes {exception : LoopException} (entry : LearningResult → LearningEntry)
    (escapes : Escapes exception) :
    caught entry (.error exception) = .error (.raised exception) := by
  unfold Escapes at escapes
  simp [caught, escapes]

theorem caught_answer (entry : LearningResult → LearningEntry)
    (answer : Except LoopException LearningResult) :
    (∃ learned, caught entry answer = .ok learned ∧
        ∀ exception, answer = .error exception → ¬Escapes exception) ∨
      ∃ exception, answer = .error exception ∧ Escapes exception ∧
        caught entry answer = .error (.raised exception) := by
  cases answer with
  | ok result => exact .inl ⟨_, rfl, by rintro _ ⟨⟩⟩
  | error exception =>
      by_cases ordinary : exception.isOrdinary
      · refine .inl ⟨.failed exception, by simp [caught, ordinary], ?_⟩
        rintro _ ⟨⟩ escapes
        cases ordinary.symm.trans escapes
      · have escapes : Escapes exception := eq_false_of_ne_true ordinary
        exact .inr ⟨exception, rfl, escapes, caught_escapes entry escapes⟩

theorem revise_stored {text : String} {wired : Bool}
    (resolved : resolveTenant call.role call.tokenTenantId call.requestedTenantId = .ok text)
    (isTenant : parseUuid text = some tenant) (isDecision : parseUuid call.decisionId = some decision)
    (known : (findDecision tenant decision before.decisions).isSome) :
    Stored wired call (before.revise tenant decision call now fresh) := by
  have row : HasOutcomes tenant decision call.actualOutcomes (before.observe tenant decision call) :=
    observe_hasOutcomes known
  exact (stored_iff resolved isTenant isDecision).mpr
    ⟨row, fun _ => ⟨_, List.mem_append_right _ (List.mem_singleton_self _), rfl, rfl, rfl⟩⟩

theorem durableHonoured_iff {learning : LearningLoopStore Worker} {text : String}
    (isTenant : parseUuid text = some tenant) (isDecision : parseUuid call.decisionId = some decision) :
    DurableHonoured learning text call failure now fresh before ↔
      FirstPhaseStores tenant decision call failure fresh before ∧
          ¬Stops (learning.run tenant decision (some (call.revision tenant decision now fresh))
            (before.revise tenant decision call now fresh)) ∨
        ¬FirstPhaseStores tenant decision call failure fresh before ∧
          ((∃ exception ∈ failure, Escapes exception) ∨ Stored true call before) := by
  constructor
  · rintro ⟨other, otherDecision, readsTenant, readsDecision, honoured⟩
    cases isTenant.symm.trans readsTenant
    cases isDecision.symm.trans readsDecision
    exact honoured
  · exact fun honoured => ⟨tenant, decision, isTenant, isDecision, honoured⟩

theorem revise_changes (frame : SameRecords (before.revise tenant decision call now fresh) after) :
    ¬SameRecords before after := by
  intro same
  have longer := congrArg List.length (frame.revisions.symm.trans same.revisions)
  unfold LoopState.revise at longer
  rw [List.length_append, List.length_singleton] at longer
  omega

/-- **The durable route.** -/
theorem durableRoute_kept {learning : LearningLoopStore Worker} {text : String}
    {answer : Except SubmitException SubmitResult}
    (resolved : resolveTenant call.role call.tokenTenantId call.requestedTenantId = .ok text)
    (called : durableRoute learning text call failure now fresh before = some (answer, after)) :
    Kept true call before answer after ↔
      DurableHonoured learning text call failure now fresh before := by
  obtain ⟨⟨learned, last⟩, ran, built⟩ := Option.map_eq_some_iff.mp called
  cases built
  unfold durableBody at ran
  split at ran
  · rename_i tenant decision isTenant isDecision
    rw [durableHonoured_iff isTenant isDecision]
    rcases firstPhase_answer tenant decision call failure now fresh before with
      ⟨stores, answered⟩ | ⟨notStores, exception, answered, escapes⟩
    · rw [answered] at ran
      dsimp only at ran
      have frame := learning.frame ran
      rcases caught_answer .durable learned with ⟨entry, handled, stays⟩ | ⟨exception, rfl, stops, raised⟩
      · have stored : Stored true call after :=
          frame.stored.mpr (revise_stored resolved isTenant isDecision stores.2.2)
        have runs : ¬Stops (learning.run tenant decision
            (some (call.revision tenant decision now fresh))
            (before.revise tenant decision call now fresh)) := by
          rintro ⟨exception, other, same, stops⟩
          cases ran.symm.trans same
          exact stays exception rfl stops
        rw [handled]
        exact iff_of_true ⟨.inl rfl, stored⟩ (.inl ⟨stores, runs⟩)
      · rw [raised]
        refine iff_of_false (revise_changes frame) ?_
        rintro (⟨-, runs⟩ | ⟨notStores, -⟩)
        · exact runs ⟨exception, after, ran, stops⟩
        · exact notStores stores
    · rw [answered] at ran
      cases ran
      rcases caught_answer .durable (.error exception) with ⟨entry, handled, stays⟩ |
        ⟨other, same, stops, raised⟩
      · rw [handled]
        constructor
        · exact fun kept => .inr ⟨notStores, .inr kept.2⟩
        · rintro (⟨stores, -⟩ | ⟨-, raised | stored⟩)
          · exact absurd stores notStores
          · exact absurd (escapes.mpr raised) (stays exception rfl)
          · exact ⟨.inl rfl, stored⟩
      · cases same
        rw [raised]
        exact iff_of_true ⟨rfl, rfl⟩ (.inr ⟨notStores, .inl (escapes.mp stops)⟩)
  · rename_i unparsed
    cases ran
    -- The `ValueError` of an identifier is caught as well.
    refine iff_of_false ?_ ?_
    · rintro ⟨-, other, tenant, decision, known, isTenant, isDecision, -⟩
      cases resolved.symm.trans known
      exact unparsed tenant decision isTenant isDecision
    · rintro ⟨tenant, decision, isTenant, isDecision, -⟩
      exact unparsed tenant decision isTenant isDecision

/-- **The two routes through the decision read store**, up to what they learn. -/
theorem submitThen_kept {text : String} {wired : Bool}
    {learn : Uuid → Uuid → LoopState Worker →
      Option (Except SubmitException LearningEntry × LoopState Worker)}
    {answer : Except SubmitException SubmitResult}
    (resolved : resolveTenant call.role call.tokenTenantId call.requestedTenantId = .ok text)
    (frame : ∀ {tenant decision state learned last},
      learn tenant decision state = some (learned, last) → SameRecords state last)
    (called : submitThen text call failure learn before = some (answer, after)) :
    Kept wired call before answer after ↔
      ∀ tenant decision, parseUuid text = some tenant → parseUuid call.decisionId = some decision →
        ReadStoreStores tenant decision call failure before →
          ((∃ entry last, learn tenant decision (before.observe tenant decision call) =
              some (.ok entry, last)) → wired = true →
            HasRevision tenant decision call.actualOutcomes before) ∧
          ((∃ exception last, learn tenant decision (before.observe tenant decision call) =
              some (.error exception, last)) →
            updateOutcomes tenant decision call before.decisions = before.decisions) := by
  unfold submitThen at called
  split at called
  · rename_i tenant decision isTenant isDecision
    have here {property : Uuid → Uuid → Prop} :
        (∀ other otherDecision, parseUuid text = some other →
          parseUuid call.decisionId = some otherDecision → property other otherDecision) ↔
        property tenant decision := by
      constructor
      · exact fun holds => holds tenant decision isTenant isDecision
      · rintro holds other otherDecision readsTenant readsDecision
        cases isTenant.symm.trans readsTenant
        cases isDecision.symm.trans readsDecision
        exact holds
    rw [here]
    rcases submitOutcomes_answer tenant decision call failure before with
      ⟨stores, row, answered⟩ | ⟨notStores, exception, answered⟩
    · rw [answered] at called
      obtain ⟨⟨learned, last⟩, ran, built⟩ := Option.map_eq_some_iff.mp called
      cases built
      have same := frame ran
      rw [ran]
      cases learned with
      | error exception =>
          constructor
          · refine fun kept _ => ⟨?_, fun _ => same.decisions.symm.trans kept.decisions⟩
            rintro ⟨entry, last, learns⟩
            cases learns
          · intro honoured
            have unchanged := (honoured stores).2 ⟨exception, after, rfl⟩
            exact ⟨same.decisions.trans unchanged, same.revisions⟩
      | ok entry =>
          constructor
          · rintro ⟨-, stored⟩ -
            have kept := (stored_iff resolved isTenant isDecision).mp (same.stored.mp stored)
            refine ⟨fun _ => kept.2, ?_⟩
            rintro ⟨exception, last, learns⟩
            cases learns
          · intro honoured
            have revised := (honoured stores).1 ⟨entry, after, rfl⟩
            exact ⟨.inr rfl, same.stored.mpr ((stored_iff resolved isTenant isDecision).mpr
              ⟨observe_hasOutcomes stores.2.2, revised⟩)⟩
    · rw [answered] at called
      cases called
      exact iff_of_true ⟨rfl, rfl⟩ fun stores => absurd stores notStores
  · rename_i unparsed
    cases called
    refine iff_of_true ⟨rfl, rfl⟩ fun tenant decision isTenant isDecision => ?_
    exact (unparsed tenant decision isTenant isDecision).elim

/-- **The legacy route.** -/
theorem legacyRoute_kept {learning : LearningLoopStore Worker} {text : String}
    {answer : Except SubmitException SubmitResult}
    (resolved : resolveTenant call.role call.tokenTenantId call.requestedTenantId = .ok text)
    (called : legacyRoute learning text call failure before = some (answer, after)) :
    Kept false call before answer after ↔ LegacyHonoured learning text call failure before := by
  have frame : ∀ {tenant decision : Uuid} {state : LoopState Worker}
      {learned : Except SubmitException LearningEntry} {last : LoopState Worker},
      ((learning.run tenant decision none state).map fun (answer, last) =>
        (caught (fun result => .completed result.figures result.persistedSignals) answer, last)) =
        some (learned, last) → SameRecords state last := by
    intro tenant decision state learned last returned
    obtain ⟨⟨answer, next⟩, ran, built⟩ := Option.map_eq_some_iff.mp returned
    cases built
    exact learning.frame ran
  rw [submitThen_kept resolved frame called]
  unfold LegacyHonoured
  refine forall₄_congr fun tenant decision _ _ => forall_congr' fun _ => ?_
  -- Only what escapes the handler makes the learning run an error.
  have stops : (∃ exception last, ((learning.run tenant decision none
      (before.observe tenant decision call)).map fun (answer, last) =>
        (caught (fun result => .completed result.figures result.persistedSignals) answer, last)) =
          some (.error exception, last)) ↔
      Stops (learning.run tenant decision none (before.observe tenant decision call)) := by
    constructor
    · rintro ⟨exception, last, returned⟩
      obtain ⟨⟨answer, next⟩, ran, built⟩ := Option.map_eq_some_iff.mp returned
      obtain ⟨error, -⟩ := Prod.mk.inj built
      rcases caught_answer (fun result => .completed result.figures result.persistedSignals) answer with
        ⟨entry, handled, -⟩ | ⟨raised, isError, escapes, -⟩
      · cases handled.symm.trans error
      · rw [isError] at ran
        exact ⟨raised, next, ran, escapes⟩
    · rintro ⟨exception, last, ran, escapes⟩
      refine ⟨.raised exception, last, ?_⟩
      rw [ran]
      exact congrArg (fun answer => some (answer, last)) (caught_escapes _ escapes)
  rw [stops, ← imp_iff_not_or]
  exact ⟨fun honoured => honoured.2, fun honoured => ⟨fun _ wired => absurd wired Bool.false_ne_true,
    honoured⟩⟩

/-- **The plain route.** -/
theorem plainRoute_kept {text : String} {wired : Bool} {answer : Except SubmitException SubmitResult}
    (resolved : resolveTenant call.role call.tokenTenantId call.requestedTenantId = .ok text)
    (called : plainRoute text call failure before = some (answer, after)) :
    Kept wired call before answer after ↔ PlainHonoured wired text call failure before := by
  rw [submitThen_kept resolved (fun returned => by cases returned; exact ⟨rfl, rfl⟩) called]
  unfold PlainHonoured
  refine forall₄_congr fun tenant decision _ _ => forall_congr' fun _ => ?_
  constructor
  · exact fun honoured => honoured.1 ⟨.pending, _, rfl⟩
  · refine fun honoured => ⟨fun _ => honoured, ?_⟩
    rintro ⟨exception, last, returned⟩
    cases returned

/-- **A call keeps what it promises exactly when it is honoured**: the decision has the outcomes it
answers for, with a revision where the execution store is wired, or it raises and has changed neither
table. -/
theorem kept_iff (wiring : GatewayWiring Worker) (call : OutcomesCall)
    (failure : Option LoopException) (now : Timestamp) (fresh : Uuid) (before after : LoopState Worker)
    (answer : Except SubmitException SubmitResult)
    (called : submitDecisionOutcomes wiring call failure now fresh before = some (answer, after)) :
    Kept wiring.executionStore call before answer after ↔
      Honoured wiring call failure now fresh before := by
  unfold submitDecisionOutcomes at called
  by_cases reads : wiring.decisionReadStore
  · rw [if_pos reads] at called
    cases resolved : resolveTenant call.role call.tokenTenantId call.requestedTenantId with
    | error refused =>
        rw [resolved] at called
        cases called
        refine iff_of_true ⟨rfl, rfl⟩ fun text _ granted => ?_
        cases resolved.symm.trans granted
    | ok text =>
        rw [resolved] at called
        have here : Honoured wiring call failure now fresh before ↔
            match wiring.learningLoopStore, wiring.executionStore with
            | some learning, true => DurableHonoured learning text call failure now fresh before
            | some learning, false => LegacyHonoured learning text call failure before
            | none, wired => PlainHonoured wired text call failure before := by
          refine ⟨fun honoured => honoured text reads resolved, fun honoured other _ granted => ?_⟩
          cases resolved.symm.trans granted
          exact honoured
        rw [here]
        dsimp only at called
        split at called
        · rename_i isWired
          rw [isWired]
          exact durableRoute_kept resolved called
        · rename_i isWired
          rw [isWired]
          exact legacyRoute_kept resolved called
        · exact plainRoute_kept resolved called
  · rw [if_neg reads] at called
    cases called
    exact iff_of_true ⟨rfl, rfl⟩ fun text isThere => absurd isThere reads

end Routes

/-! ### Concrete calls -/

/-- An observed outcome for a decision of the first tenant, submitted by its administrator. -/
def outcomesCall (decisionId : Uuid) : OutcomesCall where
  role := Role.admin.name
  tokenTenantId := uuidText 1
  requestedTenantId := uuidText 1
  decisionId := uuidText decisionId
  actualOutcomes := [.obj [("metric", .str "latency"), ("value", .bool true)]]
  executedAt := none

theorem outcomesCall_resolved (decisionId : Uuid) :
    resolveTenant (outcomesCall decisionId).role (outcomesCall decisionId).tokenTenantId
      (outcomesCall decisionId).requestedTenantId = .ok (uuidText 1) :=
  if_pos rfl

theorem outcomesCall_decision (decisionId : Uuid) :
    parseUuid (outcomesCall decisionId).decisionId = some decisionId :=
  parseUuid_uuidText decisionId

/-- A gateway with the execution store and the durable loop, whose run is not interrupted. -/
def durableWiring : GatewayWiring (Fin 1) where
  decisionReadStore := true
  executionStore := true
  learningLoopStore := some (h3Learning .constant (fun _ => "") .nullable 0 1 11 plainSteps
    ⟨0, none, none, 0, 0, 0⟩)

/-- A call that the durable route honours. -/
theorem kept_durable : ∃ answer after,
    submitDecisionOutcomes durableWiring (outcomesCall 2) none 1 21 (freshLoop plainDecision) =
      some (answer, after) ∧
    Kept durableWiring.executionStore (outcomesCall 2) (freshLoop plainDecision) answer after := by
  have returns : (submitDecisionOutcomes durableWiring (outcomesCall 2) none 1 21
      (freshLoop plainDecision)).isSome = true := by
    decide +kernel
  obtain ⟨⟨answer, after⟩, called⟩ := Option.isSome_iff_exists.mp returns
  refine ⟨answer, after, called, (kept_iff durableWiring (outcomesCall 2) none 1 21
    (freshLoop plainDecision) after answer called).mpr fun text _ resolved => ?_⟩
  rw [outcomesCall_resolved, Except.ok.injEq] at resolved
  rw [← resolved]
  refine (durableHonoured_iff (parseUuid_uuidText 1)
    (outcomesCall_decision 2)).mpr (.inl ⟨?_, ?_⟩)
  · exact ⟨⟨rfl, _, rfl⟩, by rintro _ ⟨⟩, rfl⟩
  · rintro ⟨exception, last, ran, -⟩
    have learned : ((h3Learning .constant (fun _ => "") .nullable 0 1 11 plainSteps
        ⟨0, none, none, 0, 0, 0⟩).run 1 2 (some ((outcomesCall 2).revision 1 2 1 21))
        ((freshLoop plainDecision).revise 1 2 (outcomesCall 2) 1 21)).map
          (fun (answer, _) => answer.isOk) = some true := by
      decide +kernel
    rw [ran] at learned
    cases learned

/-- **An answer for outcomes that were not stored**: the database raises in the first phase, the
handler of the second one catches it, and the row is as it was. -/
theorem outcomes_lost : ∃ result after,
    submitDecisionOutcomes durableWiring (outcomesCall 2) (some (.outside "connection lost" true)) 1 21
      (freshLoop plainDecision) = some (.ok result, after) ∧
    result.Submitted ∧ after = freshLoop plainDecision ∧
    ¬Kept durableWiring.executionStore (outcomesCall 2) (freshLoop plainDecision) (.ok result) after := by
  have tenant : parseUuid (uuidText 1) = some 1 := parseUuid_uuidText 1
  have decision := outcomesCall_decision 2
  refine ⟨{
    decision := .accepted "outcomes_submitted"
    status := none
    learningLoop := .failed (.outside "connection lost" true) }, freshLoop plainDecision, ?_, .inl rfl,
    rfl, ?_⟩
  · unfold submitDecisionOutcomes
    rw [outcomesCall_resolved]
    show durableRoute _ (uuidText 1) (outcomesCall 2) _ 1 21 _ = _
    unfold durableRoute durableBody
    rw [tenant, decision]
    rfl
  · rintro ⟨-, text, readTenant, readDecision, resolved, isTenant, isDecision, stored, -⟩
    cases Except.ok.inj ((outcomesCall_resolved 2).symm.trans resolved)
    cases tenant.symm.trans isTenant
    cases decision.symm.trans isDecision
    obtain ⟨row, found, actual, -⟩ := stored
    cases found
    cases actual

end CosMonitor
