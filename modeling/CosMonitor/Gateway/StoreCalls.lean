/-
**The methods of the gateway, and what they call on its stores.**

Each method that takes a token checks that its store is there, resolves the tenant of the request and
calls the store with it.

* `StoreCall`: a call of a store, with all its arguments;
* `GatewayService.withinTenant`: the shape of the methods;
* `Confined`: a computation that calls the stores with a given tenant only, and the rules for it;
* `GatewayMethod.run_confined`: every method is confined to the tenant that the token resolves to;
* `gateway_calls_own`: without the superadmin role that is the tenant of the token, and a request for
  another one raises before it calls a store.
-/

import CosMonitor.Access.Security
import CosMonitor.Gateway.SubmitOutcomes
import CosMonitor.Report.Documents
import CosMonitor.Report.ReportService

namespace CosMonitor

open Result

/-! ### The stores -/

/-- The stores that a gateway may be built with. -/
inductive GatewayStore where
  | decisionStore
  | reportStore
  | observationStore
  | auditStore
  | insightStore
  | decisionReadStore
  | recommendationReadStore
  | cognitiveTraceStore
  | consolidationStore
  | patternRefinementStore
  | contextRevisionStore
  | insightTransformationStore
  | memoryStore
  | timelineStore
  | learningLoopStore
  | executionStore
  deriving DecidableEq

/-- The filters of `list_audit_logs`. -/
structure AuditQuery where
  limit : Int := 50
  offset : Int := 0
  userId : Option String := none
  cognitiveLayer : Option String := none
  cognitiveConcept : Option String := none
  action : Option String := none
  dateFrom : Option String := none
  dateTo : Option String := none
  sort : String := "timestamp_desc"

/-- The filters of `list_observations`. -/
structure ObservationQuery where
  limit : Int := 50
  offset : Int := 0
  factType : Option String := none
  sourceType : Option String := none
  qualityClass : Option String := none
  sort : String := "captured_at_desc"

/-- What `record_execution` stores about the execution of a decision. -/
structure ExecutionRecordInput where
  executionStatus : String := "executed"
  executedAt : Option Timestamp := none
  executedBy : Option Uuid := none
  notes : Option String := none
  metadata : Json := .obj []

/-- A call of a store. -/
inductive StoreCall where
  | listDecisions (tenantId : Uuid)
  | listReports (tenantId : Uuid)
  | listAuditLogs (tenantId : Uuid) (query : AuditQuery)
  | listInsights (tenantId : Uuid) (limit offset : Int) (sort : String)
  | getInsight (tenantId insightId : Uuid)
  | getDecision (tenantId decisionId : Uuid)
  | getRecommendation (tenantId recommendationId : Uuid)
  | submitOutcomesWithRevision (tenantId decisionId : Uuid) (actualOutcomes : List Json)
      (executedAt : Option Timestamp)
  | submitOutcomes (tenantId decisionId : Uuid) (actualOutcomes : List Json)
      (executedAt : Option Timestamp)
  | runForDecision (tenantId decisionId : Uuid) (outcomeRevisionId : Option Uuid)
  | recordExecution (tenantId decisionId : Uuid) (execution : ExecutionRecordInput)
  | getTrace (tenantId reportId : Uuid)
  | buildForTenant (tenantId : Uuid) (limitPerConcept : Int) (ascending : Bool)
  | consolidateForTenant (tenantId : Uuid)
  | refineForTenant (tenantId : Uuid)
  | reviseForTenant (tenantId : Uuid)
  | journalForTenant (tenantId : Uuid)
  | persist (record : PersistLearningMemoryInput)
  | list (filter : MemoryFilter)
  | listObservations (tenantId : Uuid) (query : ObservationQuery)

namespace StoreCall

/-- The tenant that a store is called with. -/
def tenantId : StoreCall → Uuid
  | listDecisions tenantId | listReports tenantId | listAuditLogs tenantId _
  | listInsights tenantId _ _ _ | getInsight tenantId _ | getDecision tenantId _
  | getRecommendation tenantId _ | submitOutcomesWithRevision tenantId _ _ _
  | submitOutcomes tenantId _ _ _ | runForDecision tenantId _ _ | recordExecution tenantId _ _
  | getTrace tenantId _ | buildForTenant tenantId _ _ | consolidateForTenant tenantId
  | refineForTenant tenantId | reviseForTenant tenantId | journalForTenant tenantId
  | listObservations tenantId _ => tenantId
  | persist record => record.tenantId
  | list filter => filter.tenantId

/-- What a call answers. A report that the gateway only dumps is the JSON document that it dumps. -/
abbrev Answer : StoreCall → Type
  | listDecisions _ => List Decision
  | listReports _ => List (Report Json)
  | submitOutcomesWithRevision _ _ _ _ => OutcomeRevision
  | submitOutcomes _ _ _ _ => Decision
  | runForDecision _ _ _ => LearningResult
  | persist _ => LearningMemoryRecord
  | list _ => List LearningMemoryRecord
  | listAuditLogs _ _ | listInsights _ _ _ _ | getInsight _ _ | getDecision _ _
  | getRecommendation _ _ | recordExecution _ _ _ | getTrace _ _ | buildForTenant _ _ _
  | consolidateForTenant _ | refineForTenant _ | reviseForTenant _ | journalForTenant _
  | listObservations _ _ => Json

end StoreCall

/-! ### The gateway -/

/-- What a method of the gateway raises. -/
inductive GatewayError where
  /-- `RuntimeError`: "… not configured in gateway" -/
  | notConfigured (store : GatewayStore)
  | access (error : AccessError)
  /-- `AuthorizationError`: "role … lacks Decision Authority for action …" -/
  | unauthorized (role action : String)
  | raised (exception : LoopException)

/-- The counters of a gateway, and the calls that it has made, the latest last. -/
structure GatewayState where
  calls : List StoreCall
  totalRejected403 : Nat
  outcomeTransitionsTotal : Nat
  outcomeTransitionsByRoute : String → Nat

/-- A computation of the gateway. -/
abbrev Gatewaying : Type → Type :=
  Effect GatewayState GatewayError

/-- A gateway: its stores, and what each call of one answers or raises after the calls before it. -/
structure GatewayService where
  configured : GatewayStore → Bool
  answers : List StoreCall → (call : StoreCall) → Except LoopException call.Answer
  formats : ViewFormats

/-- `uuid.UUID(text)`. -/
def readUuid (text : String) : Gatewaying Uuid :=
  match parseUuid text with
  | some id => pure id
  | none => Effect.raise (.raised badUuid)

/-- `uuid.UUID(text) if text else None`. -/
def readOptionalUuid (text : Option String) : Gatewaying (Option Uuid) :=
  match text with
  | none => pure none
  | some text => if text = "" then pure none else readUuid text >>= fun id => pure (some id)

/-- `AuthorizationContext.resolve`: without a requested tenant it is the token's own. -/
def resolveScope (token : TokenPayload) : Option String → Except AccessError String
  | none => .ok token.tenantId
  | some requested => resolveTenant token.role token.tenantId requested

/-- `_resolve_tenant`: a rejected request is counted. -/
def resolveContext (token : TokenPayload) (requestedTenantId : Option String) : Gatewaying String :=
  fun state =>
    match resolveScope token requestedTenantId with
    | .ok tenant => (.ok tenant, state)
    | .error .tenantIsolation => (.error (.access .tenantIsolation),
        { state with totalRejected403 := state.totalRejected403 + 1 })
    | .error failure => (.error (.access failure), state)

/-- Count a transition of outcomes. -/
def countTransition (route : String) : Gatewaying Unit :=
  Effect.write fun state => { state with
    outcomeTransitionsTotal := state.outcomeTransitionsTotal + 1
    outcomeTransitionsByRoute := fun other =>
      state.outcomeTransitionsByRoute other + if other = route then 1 else 0 }

/-- `except Exception` around what only stores and identifiers can raise. -/
def catching {Value : Type} (body : Gatewaying Value) (handler : LoopException → Value) :
    Gatewaying Value :=
  fun state =>
    match body state with
    | (.error (.raised exception), after) =>
        if exception.isOrdinary then (.ok (handler exception), after)
        else (.error (.raised exception), after)
    | ended => ended

/-! ### Authority -/

section Authority

/-- The risks up to which a role commits. -/
def Role.riskCeiling : Role → List String
  | .admin => ["low", "medium"]
  | .superadmin => ["low", "medium", "high"]
  | .viewer | .operator => []

/-- Whether the role may commit a decision of this risk. -/
def commitRiskAllowed (role risk : String) : Except GatewayError Bool := do
  let declared ← (requireValidRole role).mapError .access
  if risk ∈ ["low", "medium", "high"] then return decide (risk ∈ declared.riskCeiling)
  else .error (.raised (.python (.valueError s!"unknown risk tolerance: {risk}")))

/-- Whether the role may commit. -/
def commitAllowed (role : String) (risk : Option String) : Except GatewayError Bool := do
  let held ← (can role .commit).mapError .access
  if !held then return false
  else
    match risk with
    | none => return true
    | some risk => commitRiskAllowed role risk

/-- `ACTION_PERMISSION`, whose keys are `ACTIONS`. -/
def actionPermission (action : String) : Option Permission :=
  [("read", .read), ("propose", .propose), ("ack", .ack), ("commit", .commit),
    ("execute", .execute)].lookup action

/-- `authorize_action`. A requested tenant that is empty counts as none. -/
def authorizeAction (token : TokenPayload) (action : String) (risk requestedTenantId : Option String) :
    Except GatewayError Bool :=
  match actionPermission action with
  | none => .error (.raised (.python (.valueError s!"unknown action: {action}")))
  | some permission => do
      let allowed ← if permission = .commit then commitAllowed token.role risk
        else (can token.role permission).mapError .access
      if !allowed then return false
      else if requestedTarget token.tenantId requestedTenantId ≠ token.tenantId then
        (crossTenantAllowed token.role).mapError .access
      else return true

/-- `require_authorized`. -/
def requireAuthorized (token : TokenPayload) (action : String)
    (risk requestedTenantId : Option String) : Gatewaying Unit :=
  fun state =>
    match authorizeAction token action risk requestedTenantId with
    | .ok true => (.ok (), state)
    | .ok false => (.error (.unauthorized token.role action),
        { state with totalRejected403 := state.totalRejected403 + 1 })
    | .error failure => (.error failure, state)

end Authority

/-! ### The methods -/

/-- `_decision_payload`. -/
def decisionPayload (formats : ViewFormats) (decision : Decision) : Json :=
  .obj
    [("id", idValue decision.id),
      ("tenant_id", idValue decision.tenantId),
      ("recommendation_id", idValue decision.recommendationId),
      ("confidence_id", idValue decision.confidenceId),
      ("authority_id", idValue decision.authorityId),
      ("commitment", .str decision.commitment),
      ("risk_tolerance", .str decision.riskTolerance),
      ("status", .str decision.status),
      ("committed_at", formats.instant decision.committedAt)]

/-- `_report_payload`. -/
def reportPayload (formats : ViewFormats) (report : Report Json) : Json :=
  .obj
    [("id", idValue report.id),
      ("tenant_id", idValue report.tenantId),
      ("report_type", .str report.reportType),
      ("title", .str report.title),
      ("period_start", .str report.periodStart.isoformat),
      ("period_end", .str report.periodEnd.isoformat),
      ("generated_at", formats.instant report.generatedAt)]

/-- `LearningMemoryRecord.to_payload`. -/
def LearningMemoryRecord.payload (formats : ViewFormats) (record : LearningMemoryRecord) : Json :=
  .obj
    [("id", idValue record.id),
      ("tenant_id", idValue record.tenantId),
      ("target_type", .str record.targetType.text),
      ("target_id", idValue record.targetId),
      ("signal", record.signal),
      ("provenance", record.provenance),
      ("signal_hash", .str record.signalHash),
      ("execution_id", (record.executionId.map idValue).getD .null),
      ("created_at", formats.instant record.createdAt)]

/-- The target types that may be persisted through the gateway. -/
def persistedTarget (text : String) : Option MemoryTarget :=
  [("pattern", .pattern), ("context", .context), ("insight", .insight)].lookup text

namespace GatewayService

variable (gateway : GatewayService) (token : TokenPayload) (requestedTenantId : Option String)

/-- Call a store. -/
def call (call : StoreCall) : Gatewaying call.Answer :=
  fun state => ((gateway.answers state.calls call).mapError .raised,
    { state with calls := state.calls ++ [call] })

/-- The shape of the methods: the store has to be there, and the tenant is resolved. -/
def withinTenant {Value : Type} (store : GatewayStore) (body : String → Gatewaying Value) :
    Gatewaying Value :=
  if gateway.configured store then resolveContext token requestedTenantId >>= body
  else Effect.raise (.notConfigured store)

/-- `ensure_tenant_access`. -/
def ensureTenantAccess : Gatewaying Unit := do
  let _ ← resolveContext token requestedTenantId
  return ()

def listDecisions : Gatewaying (List Json) :=
  gateway.withinTenant token requestedTenantId .decisionStore fun tenant => do
    let tenantId ← readUuid tenant
    let decisions ← gateway.call (.listDecisions tenantId)
    return decisions.map (decisionPayload gateway.formats)

def listReports : Gatewaying (List Json) :=
  gateway.withinTenant token requestedTenantId .reportStore fun tenant => do
    let tenantId ← readUuid tenant
    let reports ← gateway.call (.listReports tenantId)
    return reports.map (reportPayload gateway.formats)

def listAuditLogs (query : AuditQuery) : Gatewaying Json :=
  gateway.withinTenant token requestedTenantId .auditStore fun tenant => do
    let tenantId ← readUuid tenant
    gateway.call (.listAuditLogs tenantId query)

def listInsights (limit offset : Int) (sort : String) : Gatewaying Json :=
  gateway.withinTenant token requestedTenantId .insightStore fun tenant => do
    let tenantId ← readUuid tenant
    gateway.call (.listInsights tenantId limit offset sort)

def getInsight (insightId : String) : Gatewaying Json :=
  gateway.withinTenant token requestedTenantId .insightStore fun tenant => do
    let tenantId ← readUuid tenant
    let insightId ← readUuid insightId
    gateway.call (.getInsight tenantId insightId)

def getDecision (decisionId : String) : Gatewaying Json :=
  gateway.withinTenant token requestedTenantId .decisionReadStore fun tenant => do
    let tenantId ← readUuid tenant
    let decisionId ← readUuid decisionId
    gateway.call (.getDecision tenantId decisionId)

def getRecommendation (recommendationId : String) : Gatewaying Json :=
  gateway.withinTenant token requestedTenantId .recommendationReadStore fun tenant => do
    let tenantId ← readUuid tenant
    let recommendationId ← readUuid recommendationId
    gateway.call (.getRecommendation tenantId recommendationId)

/-- The durable route: both phases are inside one `try`. -/
def submitDurably (tenant decisionId : String) (actualOutcomes : List Json)
    (executedAt : Option Timestamp) : Gatewaying SubmitResult := do
  let learningLoop ← catching (do
    let tenantId ← readUuid tenant
    let decisionId ← readUuid decisionId
    let revision ← gateway.call
      (.submitOutcomesWithRevision tenantId decisionId actualOutcomes executedAt)
    countTransition "LearningExecutionStore.submit_outcomes_with_revision"
    let result ← gateway.call (.runForDecision tenantId decisionId (some revision.id))
    return LearningEntry.durable result) .failed
  return { decision := .accepted "outcomes_submitted", status := none, learningLoop }

/-- The outcomes go through the read store, and what follows is learned. -/
def submitThenLearn (tenant decisionId : String) (actualOutcomes : List Json)
    (executedAt : Option Timestamp) (learn : Gatewaying LearningEntry) : Gatewaying SubmitResult := do
  let tenantId ← readUuid tenant
  let readId ← readUuid decisionId
  let row ← gateway.call (.submitOutcomes tenantId readId actualOutcomes executedAt)
  countTransition "DecisionReadStore.submit_outcomes"
  let learningLoop ← learn
  return { decision := .row row, status := some "outcomes_submitted", learningLoop }

def submitDecisionOutcomes (decisionId : String) (actualOutcomes : List Json)
    (executedAt : Option Timestamp) : Gatewaying SubmitResult :=
  gateway.withinTenant token requestedTenantId .decisionReadStore fun tenant =>
    if gateway.configured .executionStore && gateway.configured .learningLoopStore then
      gateway.submitDurably tenant decisionId actualOutcomes executedAt
    else if gateway.configured .learningLoopStore then
      gateway.submitThenLearn tenant decisionId actualOutcomes executedAt
        (catching (do
          let tenantId ← readUuid tenant
          let decisionId ← readUuid decisionId
          let result ← gateway.call (.runForDecision tenantId decisionId none)
          return LearningEntry.completed result.figures result.persistedSignals) .failed)
    else gateway.submitThenLearn tenant decisionId actualOutcomes executedAt (pure .pending)

def recordDecisionExecution (decisionId executionStatus : String) (executedAt : Option Timestamp)
    (executedBy notes : Option String) (metadata : Option Json) : Gatewaying Json :=
  gateway.withinTenant token requestedTenantId .decisionReadStore fun tenant => do
    let tenantId ← readUuid tenant
    let decisionId ← readUuid decisionId
    let executedBy ← readOptionalUuid executedBy
    gateway.call (.recordExecution tenantId decisionId
      { executionStatus, executedAt, executedBy, notes, metadata := (metadata.getD .null).or (.obj []) })

def getCognitiveTrace (reportId : String) : Gatewaying Json :=
  gateway.withinTenant token requestedTenantId .cognitiveTraceStore fun tenant => do
    let tenantId ← readUuid tenant
    let reportId ← readUuid reportId
    gateway.call (.getTrace tenantId reportId)

def getCognitiveTimeline (limitPerConcept : Int) (ascending : Bool) : Gatewaying Json :=
  gateway.withinTenant token requestedTenantId .timelineStore fun tenant => do
    let tenantId ← readUuid tenant
    gateway.call (.buildForTenant tenantId limitPerConcept ascending)

def getConsolidation : Gatewaying Json :=
  gateway.withinTenant token requestedTenantId .consolidationStore fun tenant => do
    let tenantId ← readUuid tenant
    gateway.call (.consolidateForTenant tenantId)

def getPatternRefinement : Gatewaying Json :=
  gateway.withinTenant token requestedTenantId .patternRefinementStore fun tenant => do
    let tenantId ← readUuid tenant
    gateway.call (.refineForTenant tenantId)

def getContextRevision : Gatewaying Json :=
  gateway.withinTenant token requestedTenantId .contextRevisionStore fun tenant => do
    let tenantId ← readUuid tenant
    gateway.call (.reviseForTenant tenantId)

def getInsightTransformation : Gatewaying Json :=
  gateway.withinTenant token requestedTenantId .insightTransformationStore fun tenant => do
    let tenantId ← readUuid tenant
    gateway.call (.journalForTenant tenantId)

/-- `persist_learning_memory`: the target type and the authority come before the tenant. -/
def persistLearningMemory (targetType targetId : String) (signal provenance : Json) :
    Gatewaying Json :=
  if gateway.configured .memoryStore then
    match persistedTarget targetType with
    | none => Effect.raise (.raised (.python (.valueError s!"invalid target_type: {targetType}")))
    | some targetType => do
        requireAuthorized token "commit" none requestedTenantId
        let tenant ← resolveContext token requestedTenantId
        let tenantId ← readUuid tenant
        let targetId ← readUuid targetId
        let record ← gateway.call (.persist
          { tenantId, targetType, targetId, signal := some signal, provenance, executionId := none })
        return record.payload gateway.formats
  else Effect.raise (.notConfigured .memoryStore)

/-- `get_learning_memory`: the authority comes before the tenant. -/
def getLearningMemory (targetType targetId : Option String) : Gatewaying Json :=
  if gateway.configured .memoryStore then do
    requireAuthorized token "read" none requestedTenantId
    let tenant ← resolveContext token requestedTenantId
    let tenantId ← readUuid tenant
    let targetId ← readOptionalUuid targetId
    let records ← gateway.call (.list { tenantId, targetType, targetId })
    return .obj [("memories", .arr (records.map (LearningMemoryRecord.payload gateway.formats))),
      ("total", .int records.length)]
  else Effect.raise (.notConfigured .memoryStore)

def listObservations (query : ObservationQuery) : Gatewaying Json :=
  gateway.withinTenant token requestedTenantId .observationStore fun tenant => do
    let tenantId ← readUuid tenant
    gateway.call (.listObservations tenantId query)

end GatewayService

/-- A read or write method of the gateway that takes a token, with its other arguments. -/
inductive GatewayMethod where
  | ensureTenantAccess
  | listDecisions
  | listReports
  | listAuditLogs (query : AuditQuery)
  | listInsights (limit offset : Int) (sort : String)
  | getInsight (insightId : String)
  | getDecision (decisionId : String)
  | getRecommendation (recommendationId : String)
  | submitDecisionOutcomes (decisionId : String) (actualOutcomes : List Json)
      (executedAt : Option Timestamp)
  | recordDecisionExecution (decisionId executionStatus : String) (executedAt : Option Timestamp)
      (executedBy notes : Option String) (metadata : Option Json)
  | getCognitiveTrace (reportId : String)
  | getCognitiveTimeline (limitPerConcept : Int) (ascending : Bool)
  | getConsolidation
  | getPatternRefinement
  | getContextRevision
  | getInsightTransformation
  | persistLearningMemory (targetType targetId : String) (signal provenance : Json)
  | getLearningMemory (targetType targetId : Option String)
  | listObservations (query : ObservationQuery)

/-- What a method does, apart from what it answers. -/
def forget {Value : Type} (computation : Gatewaying Value) : Gatewaying Unit :=
  computation >>= fun _ => pure ()

/-- A call of a method. -/
def GatewayMethod.run (gateway : GatewayService) (token : TokenPayload)
    (requestedTenantId : Option String) : GatewayMethod → Gatewaying Unit
  | ensureTenantAccess => GatewayService.ensureTenantAccess token requestedTenantId
  | listDecisions => forget (gateway.listDecisions token requestedTenantId)
  | listReports => forget (gateway.listReports token requestedTenantId)
  | listAuditLogs query => forget (gateway.listAuditLogs token requestedTenantId query)
  | listInsights limit offset sort =>
      forget (gateway.listInsights token requestedTenantId limit offset sort)
  | getInsight insightId => forget (gateway.getInsight token requestedTenantId insightId)
  | getDecision decisionId => forget (gateway.getDecision token requestedTenantId decisionId)
  | getRecommendation recommendationId =>
      forget (gateway.getRecommendation token requestedTenantId recommendationId)
  | submitDecisionOutcomes decisionId actualOutcomes executedAt => forget
      (gateway.submitDecisionOutcomes token requestedTenantId decisionId actualOutcomes executedAt)
  | recordDecisionExecution decisionId executionStatus executedAt executedBy notes metadata => forget
      (gateway.recordDecisionExecution token requestedTenantId decisionId executionStatus executedAt
        executedBy notes metadata)
  | getCognitiveTrace reportId =>
      forget (gateway.getCognitiveTrace token requestedTenantId reportId)
  | getCognitiveTimeline limitPerConcept ascending =>
      forget (gateway.getCognitiveTimeline token requestedTenantId limitPerConcept ascending)
  | getConsolidation => forget (gateway.getConsolidation token requestedTenantId)
  | getPatternRefinement => forget (gateway.getPatternRefinement token requestedTenantId)
  | getContextRevision => forget (gateway.getContextRevision token requestedTenantId)
  | getInsightTransformation => forget (gateway.getInsightTransformation token requestedTenantId)
  | persistLearningMemory targetType targetId signal provenance => forget
      (gateway.persistLearningMemory token requestedTenantId targetType targetId signal provenance)
  | getLearningMemory targetType targetId =>
      forget (gateway.getLearningMemory token requestedTenantId targetType targetId)
  | listObservations query => forget (gateway.listObservations token requestedTenantId query)

/-! ### Confinement -/

section Confinement

/-- The calls that a computation has added are with tenants of a set only. -/
def CallsWithin (allowed : Uuid → Prop) (before after : GatewayState) : Prop :=
  ∃ calls, after.calls = before.calls ++ calls ∧ ∀ call ∈ calls, allowed call.tenantId

/-- A computation calls the stores with tenants of a set only, whatever they answer. -/
abbrev Confined {Value : Type} (allowed : Uuid → Prop) (computation : Gatewaying Value) : Prop :=
  Effect.Keeps (CallsWithin allowed) computation

/-- The tenant that a request reaches with a token. -/
def Reaches (token : TokenPayload) (requestedTenantId : Option String) (tenantId : Uuid) : Prop :=
  ∃ tenant, resolveScope token requestedTenantId = .ok tenant ∧ parseUuid tenant = some tenantId

variable {First Second : Type} {allowed : Uuid → Prop} {gateway : GatewayService}
  {token : TokenPayload} {requestedTenantId : Option String}

instance : Std.Refl (CallsWithin allowed) :=
  ⟨fun state => ⟨[], (List.append_nil state.calls).symm, fun _ absent => (nomatch absent)⟩⟩

instance : IsTrans GatewayState (CallsWithin allowed) := by
  constructor
  rintro before between after ⟨first, isBetween, firstAllowed⟩ ⟨second, isAfter, secondAllowed⟩
  refine ⟨first ++ second, by rw [isAfter, isBetween, List.append_assoc], fun call member => ?_⟩
  exact (List.mem_append.mp member).elim (firstAllowed call) (secondAllowed call)

theorem confined_of_same {computation : Gatewaying First}
    (same : ∀ before, (computation before).2.calls = before.calls) : Confined allowed computation :=
  fun before => ⟨[], by rw [same, List.append_nil], fun _ absent => (nomatch absent)⟩

theorem confined_forget {computation : Gatewaying First} (confined : Confined allowed computation) :
    Confined allowed (forget computation) :=
  confined.bind fun _ => .pure

/-- **A call with an allowed tenant.** -/
theorem confined_call {call : StoreCall} (own : allowed call.tenantId) :
    Confined allowed (gateway.call call) :=
  fun _ => ⟨[call], rfl, fun _ member => by rwa [List.mem_singleton.mp member]⟩

theorem confined_readUuid {text : String} {next : Uuid → Gatewaying First}
    (confined : ∀ id, parseUuid text = some id → Confined allowed (next id)) :
    Confined allowed (readUuid text >>= next) := by
  unfold readUuid
  cases parsed : parseUuid text with
  | none => exact confined_of_same fun _ => rfl
  | some id => exact confined id parsed

theorem confined_readOptionalUuid {text : Option String} :
    Confined allowed (readOptionalUuid text) := by
  unfold readOptionalUuid
  cases text with
  | none => exact .pure
  | some text =>
      dsimp only
      split
      · exact .pure
      · exact confined_readUuid fun _ _ => .pure

theorem confined_countTransition {route : String} : Confined allowed (countTransition route) :=
  confined_of_same fun _ => rfl

theorem confined_requireAuthorized {action : String} {risk : Option String} :
    Confined allowed (requireAuthorized token action risk requestedTenantId) := by
  refine confined_of_same fun before => ?_
  unfold requireAuthorized
  rcases authorizeAction token action risk requestedTenantId with failure | allowed
  · rfl
  · cases allowed <;> rfl

theorem confined_catching {body : Gatewaying First} {handler : LoopException → First}
    (confined : Confined allowed body) : Confined allowed (catching body handler) := by
  intro before
  have ran := confined before
  unfold catching
  generalize body before = ended at ran ⊢
  rcases ended with ⟨failure | value, after⟩
  · cases failure with
    | raised exception =>
        dsimp only
        split
        · exact ran
        · exact ran
    | _ => exact ran
  · exact ran

/-- **A rejected request calls nothing**, and a resolved one goes on with its tenant. -/
theorem resolveContext_cases (token : TokenPayload) (requestedTenantId : Option String)
    (next : String → Gatewaying First) (before : GatewayState) :
    (∃ tenant, resolveScope token requestedTenantId = .ok tenant ∧
      (resolveContext token requestedTenantId >>= next) before = next tenant before) ∨
    (∃ failure error after, resolveScope token requestedTenantId = .error failure ∧
      (resolveContext token requestedTenantId >>= next) before = (.error error, after) ∧
      after.calls = before.calls) := by
  cases resolved : resolveScope token requestedTenantId with
  | ok tenant =>
      have returned : resolveContext token requestedTenantId before = (.ok tenant, before) := by
        unfold resolveContext
        rw [resolved]
      exact .inl ⟨tenant, rfl, Effect.bind_ran returned⟩
  | error failure =>
      have raised : ∃ error after, resolveContext token requestedTenantId before =
          (.error error, after) ∧ after.calls = before.calls := by
        unfold resolveContext
        rw [resolved]
        cases failure <;> exact ⟨_, _, rfl, rfl⟩
      obtain ⟨error, after, raised, same⟩ := raised
      exact .inr ⟨failure, error, after, rfl, Effect.bind_raised raised, same⟩

theorem confined_resolveContext {next : String → Gatewaying First}
    (confined : ∀ tenant, resolveScope token requestedTenantId = .ok tenant →
      Confined allowed (next tenant)) :
    Confined allowed (resolveContext token requestedTenantId >>= next) := by
  intro before
  obtain ⟨tenant, resolved, ran⟩ | ⟨_, _, after, _, ran, same⟩ :=
    resolveContext_cases token requestedTenantId next before
  · rw [ran]
    exact confined tenant resolved before
  · rw [ran]
    exact ⟨[], by rw [same, List.append_nil], fun _ absent => (nomatch absent)⟩

/-- **The shape of the methods is confined** to the tenant of the request, where what it calls the store
with is. -/
theorem confined_withinTenant {store : GatewayStore} {body : String → Gatewaying First}
    (confined : ∀ tenant, resolveScope token requestedTenantId = .ok tenant →
      Confined (Reaches token requestedTenantId) (body tenant)) :
    Confined (Reaches token requestedTenantId)
      (gateway.withinTenant token requestedTenantId store body) := by
  unfold GatewayService.withinTenant
  split
  · exact confined_resolveContext confined
  · exact .raise

theorem confined_submitThenLearn {tenant decisionId : String} {actualOutcomes : List Json}
    {executedAt : Option Timestamp} {learn : Gatewaying LearningEntry}
    (reached : ∀ tenantId, parseUuid tenant = some tenantId → allowed tenantId)
    (confined : Confined allowed learn) :
    Confined allowed
      (gateway.submitThenLearn tenant decisionId actualOutcomes executedAt learn) := by
  unfold GatewayService.submitThenLearn
  refine confined_readUuid fun tenantId isTenant => confined_readUuid fun _ _ => ?_
  refine (confined_call (reached tenantId isTenant)).bind fun row => ?_
  exact confined_countTransition.bind fun _ => confined.bind fun _ => .pure

theorem confined_submitDecisionOutcomes {decisionId : String} {actualOutcomes : List Json}
    {executedAt : Option Timestamp} :
    Confined (Reaches token requestedTenantId) (gateway.submitDecisionOutcomes token requestedTenantId
      decisionId actualOutcomes executedAt) := by
  refine confined_withinTenant fun tenant resolved => ?_
  have reached : ∀ tenantId, parseUuid tenant = some tenantId →
      Reaches token requestedTenantId tenantId :=
    fun tenantId isTenant => ⟨tenant, resolved, isTenant⟩
  split
  · refine (confined_catching ?_).bind fun _ => .pure
    refine confined_readUuid fun tenantId isTenant => confined_readUuid fun _ _ => ?_
    refine (confined_call (reached tenantId isTenant)).bind fun _ => ?_
    refine confined_countTransition.bind fun _ => ?_
    exact (confined_call (reached tenantId isTenant)).bind fun _ => .pure
  · split
    · refine confined_submitThenLearn reached (confined_catching ?_)
      refine confined_readUuid fun tenantId isTenant => confined_readUuid fun _ _ => ?_
      exact (confined_call (reached tenantId isTenant)).bind fun _ => .pure
    · exact confined_submitThenLearn reached .pure

/-- **Every method is confined to the tenant that the token resolves to.** -/
theorem GatewayMethod.run_confined (method : GatewayMethod) :
    Confined (Reaches token requestedTenantId) (method.run gateway token requestedTenantId) := by
  -- A method of the common shape whose body calls one store.
  have single {store : GatewayStore} {Answer : Type} {body : Uuid → Gatewaying Answer}
      (confined : ∀ tenantId, Reaches token requestedTenantId tenantId →
        Confined (Reaches token requestedTenantId) (body tenantId)) :
      Confined (Reaches token requestedTenantId) (forget
        (gateway.withinTenant token requestedTenantId store fun tenant => readUuid tenant >>= body)) :=
    confined_forget (confined_withinTenant fun tenant resolved =>
      confined_readUuid fun tenantId isTenant => confined tenantId ⟨tenant, resolved, isTenant⟩)
  cases method with
  | ensureTenantAccess => exact confined_resolveContext fun _ _ => .pure
  | listDecisions => exact single fun _ reached => (confined_call reached).bind fun _ => .pure
  | listReports => exact single fun _ reached => (confined_call reached).bind fun _ => .pure
  | listAuditLogs query => exact single fun _ reached => confined_call reached
  | listInsights limit offset sort => exact single fun _ reached => confined_call reached
  | getInsight insightId =>
      exact single fun _ reached => confined_readUuid fun _ _ => confined_call reached
  | getDecision decisionId =>
      exact single fun _ reached => confined_readUuid fun _ _ => confined_call reached
  | getRecommendation recommendationId =>
      exact single fun _ reached => confined_readUuid fun _ _ => confined_call reached
  | submitDecisionOutcomes decisionId actualOutcomes executedAt =>
      exact confined_forget confined_submitDecisionOutcomes
  | recordDecisionExecution decisionId executionStatus executedAt executedBy notes metadata =>
      exact single fun _ reached => confined_readUuid fun _ _ =>
        confined_readOptionalUuid.bind fun _ => confined_call reached
  | getCognitiveTrace reportId =>
      exact single fun _ reached => confined_readUuid fun _ _ => confined_call reached
  | getCognitiveTimeline limitPerConcept ascending =>
      exact single fun _ reached => confined_call reached
  | getConsolidation => exact single fun _ reached => confined_call reached
  | getPatternRefinement => exact single fun _ reached => confined_call reached
  | getContextRevision => exact single fun _ reached => confined_call reached
  | getInsightTransformation => exact single fun _ reached => confined_call reached
  | persistLearningMemory targetType targetId signal provenance =>
      refine confined_forget ?_
      unfold GatewayService.persistLearningMemory
      split
      · split
        · exact .raise
        · refine confined_requireAuthorized.bind fun _ => confined_resolveContext fun tenant resolved => ?_
          refine confined_readUuid fun tenantId isTenant => confined_readUuid fun _ _ => ?_
          exact (confined_call ⟨tenant, resolved, isTenant⟩).bind fun _ => .pure
      · exact .raise
  | getLearningMemory targetType targetId =>
      refine confined_forget ?_
      unfold GatewayService.getLearningMemory
      split
      · refine confined_requireAuthorized.bind fun _ => confined_resolveContext fun tenant resolved => ?_
        refine confined_readUuid fun tenantId isTenant => confined_readOptionalUuid.bind fun _ => ?_
        exact (confined_call ⟨tenant, resolved, isTenant⟩).bind fun _ => .pure
      · exact .raise
  | listObservations query => exact single fun _ reached => confined_call reached

end Confinement

/-! ### Refusal -/

section Refusal

variable {First Second : Type} {gateway : GatewayService} {token : TokenPayload}
  {requestedTenantId : Option String}

/-- A computation that never returns a value. -/
def Raises (computation : Gatewaying First) : Prop :=
  ∀ before, ∃ error, (computation before).1 = .error error

theorem raises_raise {error : GatewayError} : Raises (Effect.raise error : Gatewaying First) :=
  fun _ => ⟨error, rfl⟩

theorem Raises.bind {first : Gatewaying First} {next : First → Gatewaying Second}
    (raises : Raises first) : Raises (first >>= next) := by
  intro before
  obtain ⟨error, raised⟩ := raises before
  have ended : first before = (.error error, (first before).2) := Prod.ext raised rfl
  exact ⟨error, by rw [Effect.bind_raised ended]⟩

theorem raises_bind {first : Gatewaying First} {next : First → Gatewaying Second}
    (raises : ∀ value, Raises (next value)) : Raises (first >>= next) := by
  intro before
  rcases ran : first before with ⟨failure | value, after⟩
  · exact ⟨failure, by rw [Effect.bind_raised ran]⟩
  · rw [Effect.bind_ran ran]
    exact raises value after

theorem raises_resolveContext {failure : AccessError}
    (refused : resolveScope token requestedTenantId = .error failure)
    {next : String → Gatewaying First} :
    Raises (resolveContext token requestedTenantId >>= next) := by
  intro before
  obtain ⟨tenant, resolved, -⟩ | ⟨_, error, _, _, raised, _⟩ :=
    resolveContext_cases token requestedTenantId next before
  · rw [refused] at resolved
    cases resolved
  · exact ⟨error, by rw [raised]⟩

theorem raises_withinTenant {failure : AccessError}
    (refused : resolveScope token requestedTenantId = .error failure) {store : GatewayStore}
    {body : String → Gatewaying First} :
    Raises (gateway.withinTenant token requestedTenantId store body) := by
  unfold GatewayService.withinTenant
  split
  · exact raises_resolveContext refused
  · exact raises_raise

/-- **Every method raises for a refused tenant.** -/
theorem GatewayMethod.run_raises {failure : AccessError}
    (refused : resolveScope token requestedTenantId = .error failure) (method : GatewayMethod) :
    Raises (method.run gateway token requestedTenantId) := by
  cases method with
  | ensureTenantAccess => exact raises_resolveContext refused
  | persistLearningMemory targetType targetId signal provenance =>
      refine Raises.bind ?_
      unfold GatewayService.persistLearningMemory
      split
      · split
        · exact raises_raise
        · exact raises_bind fun _ => raises_resolveContext refused
      · exact raises_raise
  | getLearningMemory targetType targetId =>
      refine Raises.bind ?_
      unfold GatewayService.getLearningMemory
      split
      · exact raises_bind fun _ => raises_resolveContext refused
      · exact raises_raise
  | _ => exact (raises_withinTenant refused).bind

theorem resolveScope_other {target : String} (notSuper : token.role ≠ Role.superadmin.name)
    (other : target ≠ token.tenantId) : ∃ failure, resolveScope token (some target) = .error failure := by
  unfold resolveScope resolveTenant
  dsimp only
  rw [if_neg other]
  cases asked : crossTenantAllowed token.role with
  | error failure => exact ⟨failure, rfl⟩
  | ok allowed =>
      rw [crossTenantAllowed_false notSuper asked]
      exact ⟨.tenantIsolation, rfl⟩

theorem resolveScope_own {tenant : String} (notSuper : token.role ≠ Role.superadmin.name)
    (resolved : resolveScope token requestedTenantId = .ok tenant) : tenant = token.tenantId := by
  cases requestedTenantId with
  | none => exact (Except.ok.inj resolved).symm
  | some target =>
      by_cases own : target = token.tenantId
      · rw [own] at resolved
        unfold resolveScope resolveTenant at resolved
        dsimp only at resolved
        rw [if_pos rfl] at resolved
        exact (Except.ok.inj resolved).symm
      · obtain ⟨failure, refused⟩ := resolveScope_other notSuper own
        rw [refused] at resolved
        cases resolved

/-- **Tenant isolation of the gateway.** Whatever stores it has, whatever they answer and whatever has been
called before: without the superadmin role, a method calls them with the tenant of the token only. A
request that names another tenant raises, and calls nothing. -/
theorem gateway_calls_own (gateway : GatewayService) (method : GatewayMethod) (token : TokenPayload)
    (requestedTenantId : Option String) (before : GatewayState)
    (notSuper : token.role ≠ Role.superadmin.name) :
    ∃ calls, (method.run gateway token requestedTenantId before).2.calls = before.calls ++ calls ∧
      (∀ call ∈ calls, parseUuid token.tenantId = some call.tenantId) ∧
      ∀ target ∈ requestedTenantId, target ≠ token.tenantId →
        calls = [] ∧ ∃ error, (method.run gateway token requestedTenantId before).1 = .error error := by
  have confined : Confined (Reaches token requestedTenantId)
      (method.run gateway token requestedTenantId) :=
    method.run_confined
  obtain ⟨calls, added, reached⟩ := confined before
  refine ⟨calls, added, fun call member => ?_, fun target named other => ?_⟩
  · obtain ⟨tenant, resolved, isTenant⟩ := reached call member
    rwa [resolveScope_own notSuper resolved] at isTenant
  · obtain rfl := Option.mem_def.mp named
    obtain ⟨failure, refused⟩ := resolveScope_other notSuper other
    refine ⟨List.eq_nil_iff_forall_not_mem.mpr fun call member => ?_,
      method.run_raises refused before⟩
    obtain ⟨tenant, resolved, -⟩ := reached call member
    rw [refused] at resolved
    cases resolved

end Refusal

/-! ### An administrator -/

/-- A gateway with all stores, none of which answers. -/
def silentGateway : GatewayService where
  configured := fun _ => true
  answers := fun _ _ => .error (.outside "connection lost" true)
  formats := { std := .constant, justification := fun _ => "" }

/-- An administrator of the first tenant. -/
def adminToken : TokenPayload where
  userId := uuidText 7
  tenantId := uuidText 1
  email := "admin@example.org"
  role := Role.admin.name
  tokenType := "access"
  exp := 60
  jti := ""
  installationId := ""

/-- A gateway that has called nothing. -/
def idleGateway : GatewayState where
  calls := []
  totalRejected403 := 0
  outcomeTransitionsTotal := 0
  outcomeTransitionsByRoute := fun _ => 0

/-- The decisions of the own tenant are read, and those of another one are not. -/
theorem gateway_calls_own_admin :
    (GatewayMethod.listDecisions.run silentGateway adminToken (some (uuidText 1))
      idleGateway).2.calls.map StoreCall.tenantId = [1] ∧
    (GatewayMethod.listDecisions.run silentGateway adminToken (some (uuidText 2))
      idleGateway).2.calls = [] ∧
    ∃ error, (GatewayMethod.listDecisions.run silentGateway adminToken (some (uuidText 2))
      idleGateway).1 = .error error := by
  obtain ⟨calls, added, -, refused⟩ := gateway_calls_own silentGateway .listDecisions adminToken
    (some (uuidText 2)) idleGateway (by decide)
  obtain ⟨rfl, raised⟩ := refused (uuidText 2) rfl (by decide +kernel)
  exact ⟨by decide +kernel, added, raised⟩

end CosMonitor
