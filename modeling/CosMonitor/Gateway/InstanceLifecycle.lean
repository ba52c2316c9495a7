/-
**The life of an agent instance: registrations, heartbeats, stops and the reconciler.**

The service function and the HTTP handlers of `agent_instances`, statement by statement, and the cycle of
`HeartbeatReconciler`. Calls of all kinds run interleaved, and every statement may fail. What differs between
the code as it stands and a repaired one is an argument: the reader of the payload attributes, the comparison of
a row's `UUID` with a text, and whether the server has the database functions.

* `InstanceStep`, `instanceProgram_writes`: what a statement of any of the calls does to the table;
* `instances_lifecycle`: at most one instance of an installation runs, a stopped instance is stopped for good and
  keeps its row, whatever the interleaving;
* `reconciled_for_good`: what a cycle of the reconciler finds stale never runs again;
* `heartbeats_refused`: as the code stands, no heartbeat and no stop is accepted.
-/

import CosMonitor.Foundation.Histories
import CosMonitor.Gateway.MachineHandler
import CosMonitor.Gateway.MachineRuns

namespace CosMonitor

open Result Interleaving Table

/-! ### The calls -/

/-- What the calls find around them. `sameId` is `==` between the `UUID` of a row and a text. -/
structure InstanceGateway where
  attr : TokenPayload → String → Except PyError String
  sameId : Uuid → String → Bool
  databaseFunctions : Bool

/-- A call for an instance, with a verified payload. -/
structure InstanceRequest where
  now : Timestamp
  token : TokenPayload
  instanceId : String

/-- A cycle of the reconciler: the clock of the process and the clock of the database. -/
structure ReconcileCycle where
  now : Timestamp
  databaseNow : Timestamp
  timeoutSeconds : ℤ

/-- `cutoff_dt`. -/
def ReconcileCycle.cutoff (cycle : ReconcileCycle) : Timestamp :=
  cycle.now - cycle.timeoutSeconds * second

/-- The row was running, and its last heartbeat is before an instant. -/
def AgentInstance.stale (cutoff : Timestamp) (row : AgentInstance) : Bool :=
  row.status == .running && decide (row.lastHeartbeatAt < cutoff)

/-- `SET status = 'STOPPED', stopped_at = now()`. -/
def AgentInstance.halt (now : Timestamp) (row : AgentInstance) : AgentInstance :=
  { row with status := .stopped, stoppedAt := some now }

section Programs

variable (jose : Jose) (gateway : InstanceGateway)

/-- `SELECT … FROM agent_instances WHERE id AND tenant_id`. -/
def findInstance (instanceId tenantId : String) (world : MachineWorld jose) : Option AgentInstance := do
  let id ← parseUuid instanceId
  let tenant ← parseUuid tenantId
  world.instances.find? fun row => row.id == id && row.tenantId == tenant

/-- `UPDATE agent_instances SET status = 'STOPPED' WHERE id`. -/
def stopInstance (id : Uuid) (now : Timestamp) (world : MachineWorld jose) : Option (MachineWorld jose) :=
  some { world with instances := updateWhere (fun row => row.id == id) (AgentInstance.halt now) world.instances }

/-- `UPDATE agent_instances SET last_heartbeat_at WHERE id`. -/
def beatInstance (id : Uuid) (now : Timestamp) (world : MachineWorld jose) : Option (MachineWorld jose) :=
  some { world with
    instances := updateWhere (fun row => row.id == id) (fun row => { row with lastHeartbeatAt := now })
      world.instances }

/-- `UPDATE agent_instances SET status = 'STOPPED' WHERE status = 'RUNNING' AND last_heartbeat_at < cutoff`. -/
def stopStale (cycle : ReconcileCycle) (world : MachineWorld jose) : MachineWorld jose :=
  { world with
    instances := updateWhere (AgentInstance.stale cycle.cutoff) (AgentInstance.halt cycle.databaseNow)
      world.instances }

/-- `stop_agent_instance`: the status that the instance had. -/
def stopSteps (request : InstanceRequest) : GatewayProgram jose InstanceStatus := do
  let credentialId ← attrStep jose gateway.attr request.token "sub"
  let found ← fetchrowStep jose (findInstance jose request.instanceId request.token.tenantId)
  match found with
  | none => .raise (.invalidToken "instance not found")
  | some row =>
      if gateway.sameId row.credentialId credentialId then do
        match row.status with
        | .running => executeStep jose (stopInstance jose row.id request.now)
        | .stopped => pure ()
        return row.status
      else .raise (.invalidToken "credential mismatch for this instance")

/-- A handler of the server, statement by statement. -/
abbrev HandlerProgram (jose : Jose) (Value : Type) : Type :=
  Program (MachineWorld jose) HandlerError Value

/-- `self._db_fetchrow` of the server. -/
def serverFetchrowStep {Row : Type} (query : MachineWorld jose → Option Row) :
    HandlerProgram jose (Option Row) :=
  if gateway.databaseFunctions then .query query (pure none) else .raise missingFetchrow

/-- `self._db_execute` of the server. -/
def serverExecuteStep (statement : MachineWorld jose → Option (MachineWorld jose)) :
    HandlerProgram jose Unit :=
  if gateway.databaseFunctions then .execute (fun world => (statement world).getD world) (pure ())
  else .raise (.raised (.python (.attributeError "_db_execute")))

/-- `token.name` in a handler. -/
def handlerAttrStep (payload : TokenPayload) (name : String) : HandlerProgram jose String :=
  .done ((gateway.attr payload name).mapError fun failure => .raised (.python failure))

/-- `agent_register_handler`. Its statements on the instances name columns `RUNNING` and `STOPPED`, which the
table does not have: they fail. -/
def registerHandlerSteps (call : RegisterCall) : HandlerProgram jose String :=
  if call.installationId = "" ∨ call.hostFingerprint = "" then
    .raise (.answered 400 "installation_id and host_fingerprint required")
  else do
    let installation ← serverFetchrowStep jose gateway
      (findInstallation jose call.installationId call.token.tenantId)
    match installation with
    | none => .raise (.answered 401 "installation not found or tenant mismatch")
    | some installation =>
        if installation.status ≠ .active then
          .raise (.answered 401 "installation not in ACTIVE status")
        else do
          let credentialId ← handlerAttrStep jose gateway call.token "sub"
          let credential ← serverFetchrowStep jose gateway
            (findCredential jose call.installationId call.token.tenantId credentialId)
          if credential.map Credential.status ≠ some .active then
            .raise (.answered 401 "credential not active or not found")
          else if installation.hostFingerprint ≠ call.hostFingerprint then
            .raise (.answered 401 "host fingerprint mismatch (possible cloned VM)")
          else do
            let _ ← serverFetchrowStep jose gateway fun _ => (none : Option AgentInstance)
            serverExecuteStep jose gateway fun _ => none
            serverExecuteStep jose gateway (touchInstallation jose installation.id call.call.now)
            return uuidText call.call.newInstanceId

/-- `agent_stop_handler`, whose statement names a column `STOPPED`. -/
def stopHandlerSteps (request : InstanceRequest) : HandlerProgram jose InstanceStatus :=
  if request.instanceId = "" then .raise (.answered 400 "instance_id required")
  else do
    let credentialId ← handlerAttrStep jose gateway request.token "sub"
    let found ← serverFetchrowStep jose gateway
      (findInstance jose request.instanceId request.token.tenantId)
    match found with
    | none => .raise (.answered 404 "instance not found")
    | some row =>
        if gateway.sameId row.credentialId credentialId then do
          match row.status with
          | .running => serverExecuteStep jose gateway fun _ => none
          | .stopped => pure ()
          return row.status
        else .raise (.answered 401 "credential mismatch for this instance")

/-- `heartbeat_handler`. -/
def heartbeatSteps (request : InstanceRequest) : HandlerProgram jose InstanceStatus :=
  if request.instanceId = "" then .raise (.answered 400 "instance_id required")
  else do
    let found ← serverFetchrowStep jose gateway
      (findInstance jose request.instanceId request.token.tenantId)
    match found with
    | none => .raise (.answered 404 "instance not found")
    | some row =>
        let credentialId ← handlerAttrStep jose gateway request.token "sub"
        if gateway.sameId row.credentialId credentialId then do
          let installation ← serverFetchrowStep jose gateway
            (findInstallation jose (uuidText row.installationId) request.token.tenantId)
          if installation.map Installation.status ≠ some .active then
            .raise (.answered 401 "installation not active")
          else do
            let credential ← serverFetchrowStep jose gateway
              (findCredential jose (uuidText row.installationId) request.token.tenantId
                (uuidText row.credentialId))
            if credential.map Credential.status ≠ some .active then
              .raise (.answered 401 "credential not active")
            else if row.status ≠ .running then .raise (.answered 401 "instance not running")
            else do
              serverExecuteStep jose gateway (beatInstance jose row.id request.now)
              serverExecuteStep jose gateway (touchInstallation jose row.installationId request.now)
              return row.status
        else .raise (.answered 401 "credential mismatch for this instance")

/-- `conn.close()` of the cycle, whose failure takes the place of the count. -/
def closeSteps (count : ℕ) : HandlerProgram jose ℕ :=
  .statement id (fun _ => pure count) (pure 0)

/-- `_reconcile_cycle`: how many instances it has stopped, 0 when it fails. -/
def reconcileSteps (cycle : ReconcileCycle) : HandlerProgram jose ℕ :=
  .statement (stopStale jose cycle)
    (fun world => closeSteps jose (world.instances.countP (AgentInstance.stale cycle.cutoff))) (pure 0)

/-- The calls. -/
inductive InstanceTask where
  | register (call : RegisterCall)
  | registerHandler (call : RegisterCall)
  | stop (request : InstanceRequest)
  | stopHandler (request : InstanceRequest)
  | heartbeat (request : InstanceRequest)
  | reconcile (cycle : ReconcileCycle)

/-- What a call has returned or raised. -/
inductive InstanceAnswer where
  | registered (answer : Except MachineError String)
  | registeredByHandler (answer : Except HandlerError String)
  | stopped (answer : Except MachineError InstanceStatus)
  | stoppedByHandler (answer : Except HandlerError InstanceStatus)
  | beaten (answer : Except HandlerError InstanceStatus)
  | reconciled (answer : Except HandlerError ℕ)
  deriving DecidableEq

/-- The program of a call. -/
def instanceProgram : InstanceTask → Program (MachineWorld jose) Empty InstanceAnswer
  | .register call => do
      let answer ← (registerSteps jose gateway.attr call.call call.token call.installationId
        call.hostFingerprint).attempted
      return .registered answer
  | .registerHandler call => do
      let answer ← (registerHandlerSteps jose gateway call).attempted
      return .registeredByHandler answer
  | .stop request => do
      let answer ← (stopSteps jose gateway request).attempted
      return .stopped answer
  | .stopHandler request => do
      let answer ← (stopHandlerSteps jose gateway request).attempted
      return .stoppedByHandler answer
  | .heartbeat request => do
      let answer ← (heartbeatSteps jose gateway request).attempted
      return .beaten answer
  | .reconcile cycle => do
      let answer ← (reconcileSteps jose cycle).attempted
      return .reconciled answer

/-- Calls over one state. -/
def instancePool (world : MachineWorld jose) (tasks : List InstanceTask) :
    Pool (MachineWorld jose) Empty InstanceAnswer where
  shared := world
  programs := tasks.map (instanceProgram jose gateway)

end Programs

/-! ### What a statement does to the instances -/

/-- What a statement does to the table. A heartbeat is written only by a gateway with database functions, and
where a row's `UUID` may equal a text. -/
inductive InstanceStep {jose : Jose} (gateway : InstanceGateway) (before after : MachineWorld jose) : Prop where
  | same (rows : after.instances = before.instances)
  | started (row : AgentInstance) (running : row.status = .running) (unstopped : row.stoppedAt = none)
      (newId : ∀ other ∈ before.instances, other.id ≠ row.id)
      (alone : ∀ other ∈ before.instances, other.status = .running →
        other.installationId ≠ row.installationId)
      (rows : after.instances = before.instances ++ [row])
  | halted (selected : AgentInstance → Bool) (now : Timestamp)
      (rows : after.instances = updateWhere selected (AgentInstance.halt now) before.instances)
  | beaten (selected : AgentInstance → Bool) (now : Timestamp) (served : gateway.databaseFunctions = true)
      (matching : ∃ id text, gateway.sameId id text = true)
      (rows : after.instances =
        updateWhere selected (fun row => { row with lastHeartbeatAt := now }) before.instances)

section Steps

variable {jose : Jose} {gateway : InstanceGateway} {world : MachineWorld jose}

theorem instanceStep_refl (world : MachineWorld jose) : InstanceStep gateway world world :=
  .same rfl

theorem insertInstance_step (row : AgentInstance) (running : row.status = .running)
    (unstopped : row.stoppedAt = none) :
    InstanceStep gateway world ((insertInstance jose row world).getD world) := by
  unfold insertInstance
  split
  · exact .same rfl
  · rename_i free
    have absent : ∀ other ∈ world.instances, other.id ≠ row.id ∧
        ¬ (other.installationId = row.installationId ∧ other.status = .running) := by
      intro other member
      have apart : ¬ _ := fun clash => free (List.any_eq_true.mpr ⟨other, member, clash⟩)
      simpa using apart
    exact .started row running unstopped (fun other member => (absent other member).1)
      (fun other member runs same => (absent other member).2 ⟨same, runs⟩) rfl

theorem stopInstances_step (installationId : Uuid) (now : Timestamp) :
    InstanceStep gateway world ((stopInstances jose installationId now world).getD world) := by
  refine .halted (fun row => decide (row.installationId = installationId ∧ row.status = .running)) now ?_
  simp [stopInstances, updateWhere, AgentInstance.halt]

theorem fetchrowStep_writes {Row : Type} {query : MachineWorld jose → Option Row} :
    (fetchrowStep jose query).Writes (InstanceStep gateway) :=
  .query instanceStep_refl trivial

theorem executeStep_writes {statement : MachineWorld jose → Option (MachineWorld jose)}
    (steps : ∀ world, InstanceStep gateway world ((statement world).getD world)) :
    (executeStep jose statement).Writes (InstanceStep gateway) :=
  .execute steps trivial

theorem attrStep_writes {payload : TokenPayload} {name : String} :
    (attrStep jose gateway.attr payload name).Writes (InstanceStep gateway) :=
  trivial

theorem supersedeSteps_writes {call : MachineCall} {installationId : Uuid} {existing : Option AgentInstance} :
    (supersedeSteps jose call installationId existing).Writes (InstanceStep gateway) := by
  unfold supersedeSteps
  split
  · split
    · trivial
    · exact executeStep_writes fun world => stopInstances_step installationId call.now
  · trivial

theorem registerSteps_writes {call : MachineCall} {token : TokenPayload}
    {installationId hostFingerprint : String} :
    (registerSteps jose gateway.attr call token installationId hostFingerprint).Writes
      (InstanceStep gateway) := by
  refine attrStep_writes.bind fun credentialId => fetchrowStep_writes.bind fun installation => ?_
  rcases installation with _ | installation
  · trivial
  dsimp only
  split
  · trivial
  refine fetchrowStep_writes.bind fun credential => ?_
  rcases credential with _ | credential
  · trivial
  dsimp only
  split
  · trivial
  split
  · trivial
  refine fetchrowStep_writes.bind fun existing => supersedeSteps_writes.bind fun _ => ?_
  refine (executeStep_writes fun world => insertInstance_step _ rfl rfl).bind fun _ => ?_
  exact (executeStep_writes fun world => .same rfl).bind fun _ => trivial

theorem stopSteps_writes {request : InstanceRequest} :
    (stopSteps jose gateway request).Writes (InstanceStep gateway) := by
  refine attrStep_writes.bind fun credentialId => fetchrowStep_writes.bind fun found => ?_
  rcases found with _ | row
  · trivial
  dsimp only
  split
  · split
    · exact (executeStep_writes fun world => .halted _ request.now rfl).bind fun _ => trivial
    · trivial
  · trivial

theorem serverFetchrowStep_writes {Row : Type} {query : MachineWorld jose → Option Row} :
    (serverFetchrowStep jose gateway query).Writes (InstanceStep gateway) := by
  unfold serverFetchrowStep
  split
  · exact .query instanceStep_refl trivial
  · trivial

theorem serverExecuteStep_writes {statement : MachineWorld jose → Option (MachineWorld jose)}
    (steps : gateway.databaseFunctions = true → ∀ world,
      InstanceStep gateway world ((statement world).getD world)) :
    (serverExecuteStep jose gateway statement).Writes (InstanceStep gateway) := by
  unfold serverExecuteStep
  split
  · rename_i served
    exact .execute (steps served) trivial
  · trivial

theorem handlerAttrStep_writes {payload : TokenPayload} {name : String} :
    (handlerAttrStep jose gateway payload name).Writes (InstanceStep gateway) :=
  trivial

theorem registerHandlerSteps_writes {call : RegisterCall} :
    (registerHandlerSteps jose gateway call).Writes (InstanceStep gateway) := by
  unfold registerHandlerSteps
  split
  · trivial
  refine serverFetchrowStep_writes.bind fun installation => ?_
  rcases installation with _ | installation
  · trivial
  dsimp only
  split
  · trivial
  refine handlerAttrStep_writes.bind fun credentialId => serverFetchrowStep_writes.bind fun credential => ?_
  split
  · trivial
  split
  · trivial
  refine serverFetchrowStep_writes.bind fun _ => ?_
  refine (serverExecuteStep_writes fun _ => instanceStep_refl).bind fun _ => ?_
  exact (serverExecuteStep_writes fun _ world => .same rfl).bind fun _ => trivial

theorem stopHandlerSteps_writes {request : InstanceRequest} :
    (stopHandlerSteps jose gateway request).Writes (InstanceStep gateway) := by
  unfold stopHandlerSteps
  split
  · trivial
  refine handlerAttrStep_writes.bind fun credentialId => serverFetchrowStep_writes.bind fun found => ?_
  rcases found with _ | row
  · trivial
  dsimp only
  split
  · split
    · exact (serverExecuteStep_writes fun _ => instanceStep_refl).bind fun _ => trivial
    · trivial
  · trivial

theorem heartbeatSteps_writes {request : InstanceRequest} :
    (heartbeatSteps jose gateway request).Writes (InstanceStep gateway) := by
  unfold heartbeatSteps
  split
  · trivial
  refine serverFetchrowStep_writes.bind fun found => ?_
  rcases found with _ | row
  · trivial
  refine handlerAttrStep_writes.bind fun credentialId => ?_
  split
  · rename_i matching
    refine serverFetchrowStep_writes.bind fun installation => ?_
    split
    · trivial
    refine serverFetchrowStep_writes.bind fun credential => ?_
    split
    · trivial
    split
    · trivial
    refine (serverExecuteStep_writes fun served world => ?_).bind fun _ => ?_
    · exact .beaten _ request.now served ⟨_, _, matching⟩ rfl
    · exact (serverExecuteStep_writes fun _ world => .same rfl).bind fun _ => trivial
  · trivial

theorem reconcileSteps_writes {cycle : ReconcileCycle} :
    (reconcileSteps jose cycle).Writes (InstanceStep gateway) :=
  ⟨fun _ => ⟨.halted _ cycle.databaseNow rfl, fun _ => ⟨.same rfl, trivial⟩, trivial⟩, trivial⟩

/-- **Every statement of every call is a step of the table.** -/
theorem instanceProgram_writes (task : InstanceTask) :
    (instanceProgram jose gateway task).Writes (InstanceStep gateway) := by
  cases task with
  | register call => exact registerSteps_writes.attempted.bind fun _ => trivial
  | registerHandler call => exact registerHandlerSteps_writes.attempted.bind fun _ => trivial
  | stop request => exact stopSteps_writes.attempted.bind fun _ => trivial
  | stopHandler request => exact stopHandlerSteps_writes.attempted.bind fun _ => trivial
  | heartbeat request => exact heartbeatSteps_writes.attempted.bind fun _ => trivial
  | reconcile cycle => exact reconcileSteps_writes.attempted.bind fun _ => trivial

theorem instancePool_writing {tasks : List InstanceTask} :
    (instancePool jose gateway world tasks).Writing (InstanceStep gateway) := by
  intro program member
  obtain ⟨task, -, rfl⟩ := List.mem_map.mp member
  exact instanceProgram_writes task

end Steps

/-! ### A registration that finds a stale instance -/

/-- A gateway that finds the credential, compares texts and has the database functions. -/
def repairedGateway : InstanceGateway where
  attr := fun payload name => if name = "sub" then .ok payload.userId else payload.getattr name
  sameId := fun id text => uuidText id == text
  databaseFunctions := true

/-- An instance without a heartbeat since the beginning. -/
def silentInstance : AgentInstance where
  id := 39
  tenantId := 1
  installationId := 10
  credentialId := 20
  hostFingerprint := "fingerprint"
  status := .running
  lastHeartbeatAt := 0
  stoppedAt := none

/-- The active installation with that instance. -/
def silentWorld : MachineWorld plainJose :=
  { activeWorld with instances := [silentInstance] }

/-- A registration after two minutes, a cycle of the reconciler after four, and a heartbeat of the instance. -/
def silentTasks : List InstanceTask :=
  [.register { activeRegistration with call := { exchangeCall with now := 120 * second } },
    .reconcile ⟨240 * second, 241 * second, 120⟩,
    .heartbeat ⟨130 * second, activeRegistration.token, uuidText 39⟩]

/-- The pool of these calls. -/
def silentPool : Pool (MachineWorld plainJose) Empty InstanceAnswer :=
  instancePool plainJose repairedGateway silentWorld silentTasks

theorem silentPool_runs :
    ∃ later, Pool.system.run silentPool (List.replicate 3 ⟨2, false⟩ ++ List.replicate 6 ⟨0, false⟩ ++
        List.replicate 2 ⟨2, false⟩) = some later ∧
      Pool.system.Reachable (fun _ _ => True) silentPool later ∧
      later.shared.instances = [{ silentInstance with
          status := .stopped, lastHeartbeatAt := 130 * second, stoppedAt := some (120 * second) },
        { silentInstance with id := 40, lastHeartbeatAt := 120 * second }] :=
  Transition.System.run_reaches (by decide +kernel)

/-! ### Every run -/

/-- The indexes hold, and a row has an instant of its stop exactly when it is stopped. -/
structure InstancesSound {jose : Jose} (world : MachineWorld jose) : Prop where
  index : RunningIndex jose world
  ids : (world.instances.map AgentInstance.id).Nodup
  stamped : ∀ row ∈ world.instances, row.status = .stopped ↔ row.stoppedAt ≠ none

/-- No heartbeat is written. -/
def InstanceGateway.Silent (gateway : InstanceGateway) : Prop :=
  gateway.databaseFunctions = true → ∀ id text, gateway.sameId id text = false

/-- What a row may become: it keeps its identity, and a stopped one is stopped. -/
structure AgentInstance.Becomes (gateway : InstanceGateway) (row later : AgentInstance) : Prop where
  id : later.id = row.id
  tenantId : later.tenantId = row.tenantId
  installationId : later.installationId = row.installationId
  credentialId : later.credentialId = row.credentialId
  hostFingerprint : later.hostFingerprint = row.hostFingerprint
  stopped : row.status = .stopped → later.status = .stopped
  heartbeat : gateway.Silent → later.lastHeartbeatAt = row.lastHeartbeatAt

theorem AgentInstance.Becomes.refl (gateway : InstanceGateway) (row : AgentInstance) : row.Becomes gateway row :=
  ⟨rfl, rfl, rfl, rfl, rfl, fun was => was, fun _ => rfl⟩

theorem AgentInstance.Becomes.trans {gateway : InstanceGateway} {first second third : AgentInstance}
    (early : first.Becomes gateway second) (late : second.Becomes gateway third) :
    first.Becomes gateway third where
  id := late.id.trans early.id
  tenantId := late.tenantId.trans early.tenantId
  installationId := late.installationId.trans early.installationId
  credentialId := late.credentialId.trans early.credentialId
  hostFingerprint := late.hostFingerprint.trans early.hostFingerprint
  stopped was := late.stopped (early.stopped was)
  heartbeat silent := (late.heartbeat silent).trans (early.heartbeat silent)

section Runs

variable {jose : Jose} {gateway : InstanceGateway} {world before after : MachineWorld jose}
  {tasks : List InstanceTask} {earlier later : Pool (MachineWorld jose) Empty InstanceAnswer}

theorem ids_updateWhere {selected : AgentInstance → Bool} {patch : AgentInstance → AgentInstance}
    {rows : List AgentInstance} (same : ∀ row, (patch row).id = row.id)
    (ids : (rows.map AgentInstance.id).Nodup) :
    ((updateWhere selected patch rows).map AgentInstance.id).Nodup := by
  rw [updateWhere_map AgentInstance.id fun row _ _ => same row]
  exact ids

/-- **A step keeps the table in order.** -/
theorem InstanceStep.sound (step : InstanceStep gateway before after) (sound : InstancesSound before) :
    InstancesSound after := by
  cases step with
  | same rows =>
      refine ⟨?_, ?_, ?_⟩
      · unfold RunningIndex
        rw [rows]
        exact sound.index
      · rw [rows]
        exact sound.ids
      · rw [rows]
        exact sound.stamped
  | started row running unstopped newId alone rows =>
      refine ⟨?_, ?_, ?_⟩
      · unfold RunningIndex
        rw [rows]
        refine uniqueOn_append.mpr ⟨sound.index, fun _ other member runs => ?_⟩
        exact alone other member (by simpa using runs)
      · rw [rows, List.map_append, List.nodup_append]
        refine ⟨sound.ids, List.nodup_singleton _, ?_⟩
        rintro _ stored _ added rfl
        obtain ⟨other, member, same⟩ := List.mem_map.mp stored
        exact newId other member (same.trans (List.mem_singleton.mp added))
      · rw [rows]
        intro other member
        rcases List.mem_append.mp member with old | new
        · exact sound.stamped other old
        · rw [List.mem_singleton.mp new, running, unstopped]
          simp
  | halted selected now rows =>
      refine ⟨?_, ?_, ?_⟩
      · unfold RunningIndex
        rw [rows]
        refine UniqueOn.updateWhere sound.index fun row _ _ running => ?_
        cases running
      · rw [rows]
        exact ids_updateWhere (fun row => rfl) sound.ids
      · rw [rows]
        intro other member
        rcases mem_updateWhere.mp member with ⟨old, oldIn, -, rfl⟩ | ⟨oldIn, -⟩
        · simp [AgentInstance.halt]
        · exact sound.stamped other oldIn
  | beaten selected now served matching rows =>
      refine ⟨?_, ?_, ?_⟩
      · unfold RunningIndex
        rw [rows]
        exact UniqueOn.updateWhere sound.index fun row _ _ running => ⟨running, rfl⟩
      · rw [rows]
        exact ids_updateWhere (fun row => rfl) sound.ids
      · rw [rows]
        intro other member
        rcases mem_updateWhere.mp member with ⟨old, oldIn, -, rfl⟩ | ⟨oldIn, -⟩
        · exact sound.stamped old oldIn
        · exact sound.stamped other oldIn

/-- **What a step makes of the rows.** -/
theorem InstanceStep.onward (step : InstanceStep gateway before after) :
    Onward (AgentInstance.Becomes gateway) before.instances after.instances := by
  cases step with
  | same rows =>
      rw [rows]
      exact .refl (AgentInstance.Becomes.refl gateway) _
  | started row running unstopped newId alone rows =>
      rw [rows]
      exact onward_append (AgentInstance.Becomes.refl gateway) _ _
  | halted selected now rows =>
      have patched : ∀ row, selected row = true → row.Becomes gateway (row.halt now) :=
        fun row _ => ⟨rfl, rfl, rfl, rfl, rfl, fun _ => rfl, fun _ => rfl⟩
      rw [rows]
      exact onward_updateWhere (AgentInstance.Becomes.refl gateway) patched _
  | beaten selected now served matching rows =>
      have patched : ∀ row : AgentInstance, selected row = true →
          row.Becomes gateway { row with lastHeartbeatAt := now } := by
        intro row _
        refine ⟨rfl, rfl, rfl, rfl, rfl, fun was => was, fun silent => ?_⟩
        obtain ⟨id, text, equal⟩ := matching
        rw [silent served id text] at equal
        cases equal
      rw [rows]
      exact onward_updateWhere (AgentInstance.Becomes.refl gateway) patched _

theorem onward_run (writing : earlier.Writing (InstanceStep gateway))
    (continued : Pool.system.Reachable (fun _ _ => True) earlier later) :
    Onward (AgentInstance.Becomes gateway) earlier.shared.instances later.shared.instances := by
  have kept : ∀ world next : MachineWorld jose, InstanceStep gateway world next →
      Onward (AgentInstance.Becomes gateway) earlier.shared.instances world.instances →
        Onward (AgentInstance.Becomes gateway) earlier.shared.instances next.instances :=
    fun _ _ step so => so.trans AgentInstance.Becomes.trans step.onward
  exact writing.keeps continued kept (.refl (AgentInstance.Becomes.refl gateway) _)

/-- **The life of the instances**, in every interleaving of registrations, heartbeats, stops and cycles of the
reconciler, with any failures. At most one instance of an installation runs, and a row has an instant of its
stop exactly when it is stopped; from any state of the run to any later one every row is still there, with its
identity, and a stopped one is stopped. -/
theorem instances_lifecycle (sound : InstancesSound world)
    (reached : Pool.system.Reachable (fun _ _ => True) (instancePool jose gateway world tasks) earlier)
    (continued : Pool.system.Reachable (fun _ _ => True) earlier later) :
    InstancesSound later.shared ∧
      Onward (AgentInstance.Becomes gateway) earlier.shared.instances later.shared.instances := by
  obtain ⟨-, writing⟩ := instancePool_writing.run reached
  have soundEarlier : InstancesSound earlier.shared :=
    instancePool_writing.keeps reached (fun _ _ step => step.sound) sound
  exact ⟨writing.keeps continued (fun _ _ step => step.sound) soundEarlier, onward_run writing continued⟩

theorem silentWorld_sound : InstancesSound silentWorld := by
  refine ⟨?_, by decide, by decide⟩
  show UniqueOn AgentInstance.installationId (fun row => row.status == .running) [silentInstance]
  decide

theorem instances_lifecycle_silent :
    ∃ later : Pool (MachineWorld plainJose) Empty InstanceAnswer,
      later.shared.instances.map AgentInstance.status = [.stopped, .running] ∧
        InstancesSound later.shared ∧
        Onward (AgentInstance.Becomes repairedGateway) silentPool.shared.instances later.shared.instances := by
  obtain ⟨later, -, reached, rows⟩ := silentPool_runs
  refine ⟨later, ?_, instances_lifecycle silentWorld_sound .refl reached⟩
  rw [rows]
  rfl

end Runs

/-! ### The reconciler -/

section Reconciler

variable {jose : Jose} {gateway : InstanceGateway} {world : MachineWorld jose} {tasks : List InstanceTask}
  {earlier next later : Pool (MachineWorld jose) Empty InstanceAnswer} {turn : Turn} {cycle : ReconcileCycle}

/-- What a cycle has answered. -/
def reconciledCount (count : ℕ) : Except Empty InstanceAnswer :=
  .ok (.reconciled (.ok count))

/-- A cycle that has still to close its connection. -/
def closingProgram (jose : Jose) (count : ℕ) : Program (MachineWorld jose) Empty InstanceAnswer :=
  .statement id (fun _ => .done (reconciledCount count)) (.done (reconciledCount 0))

theorem instanceProgram_reconcile (cycle : ReconcileCycle) :
    instanceProgram jose gateway (.reconcile cycle) = .statement (stopStale jose cycle)
      (fun world => closingProgram jose (world.instances.countP (AgentInstance.stale cycle.cutoff)))
      (.done (reconciledCount 0)) :=
  rfl

theorem reconcile_step (isCycle : earlier.programs[turn.index]? =
      some (instanceProgram jose gateway (.reconcile cycle)))
    (executes : turn.fails = false) (stepped : Pool.system.step earlier turn = some next) :
    next.shared = stopStale jose cycle earlier.shared ∧ next.programs[turn.index]? = some
      (closingProgram jose (earlier.shared.instances.countP (AgentInstance.stale cycle.cutoff))) := by
  have inside : turn.index < earlier.programs.length := (List.getElem?_eq_some_iff.mp isCycle).1
  unfold Pool.system at stepped
  dsimp only at stepped
  rw [isCycle, instanceProgram_reconcile] at stepped
  simp only [executes, Bool.false_eq_true, if_false] at stepped
  cases stepped
  exact ⟨rfl, List.getElem?_set_self inside⟩

/-- A cycle after its `UPDATE`: it closes its connection, or has answered. -/
def Closing (jose : Jose) (index count : ℕ) (pool : Pool (MachineWorld jose) Empty InstanceAnswer) : Prop :=
  ∃ program, pool.programs[index]? = some program ∧ (program = closingProgram jose count ∨
    program = .done (reconciledCount count) ∨ program = .done (reconciledCount 0))

theorem Closing.step {index count : ℕ} (closing : Closing jose index count earlier)
    (stepped : Pool.system.step earlier turn = some next) : Closing jose index count next := by
  obtain ⟨program, found, kinds⟩ := closing
  rcases Pool.step_program index stepped with same | ⟨-, write, rest, failed, isProgram, after⟩
  · exact ⟨program, same.trans found, kinds⟩
  · obtain rfl := Option.some.inj (found.symm.trans isProgram)
    rcases kinds with isClosing | ended | ended
    · cases isClosing
      refine ⟨_, after, .inr ?_⟩
      by_cases fails : turn.fails = true
      · rw [if_pos fails]
        exact .inr rfl
      · rw [if_neg fails]
        exact .inl rfl
    · cases ended
    · cases ended

/-- **What a cycle finds stale is stopped for good**, whatever runs before it, at the same time and after it; a
row that is not stale is as it was. The cycle answers how many instances it has stopped, or 0 where closing its
connection fails. -/
theorem reconciled_for_good
    (reached : Pool.system.Reachable (fun _ _ => True) (instancePool jose gateway world tasks) earlier)
    (isCycle : earlier.programs[turn.index]? = some (instanceProgram jose gateway (.reconcile cycle)))
    (executes : turn.fails = false) (stepped : Pool.system.step earlier turn = some next)
    (continued : Pool.system.Reachable (fun _ _ => True) next later) :
    (∀ (position : ℕ) (row : AgentInstance), earlier.shared.instances[position]? = some row →
      if row.stale cycle.cutoff = true then
        ∃ other, later.shared.instances[position]? = some other ∧ other.id = row.id ∧ other.status = .stopped
      else next.shared.instances[position]? = some row) ∧
    (∀ closing after, closing.index = turn.index → Pool.system.step later closing = some after →
      after.resultAt turn.index = some (reconciledCount (if closing.fails then 0
        else earlier.shared.instances.countP (AgentInstance.stale cycle.cutoff)))) ∧
    ∀ answer, later.resultAt turn.index = some answer →
      answer = reconciledCount (earlier.shared.instances.countP (AgentInstance.stale cycle.cutoff)) ∨
        answer = reconciledCount 0 := by
  obtain ⟨written, isClosing⟩ := reconcile_step isCycle executes stepped
  obtain ⟨-, writing⟩ := instancePool_writing.run (reached.tail trivial stepped)
  obtain ⟨program, found, kinds⟩ : Closing jose turn.index
      (earlier.shared.instances.countP (AgentInstance.stale cycle.cutoff)) later :=
    continued.invariant ⟨_, isClosing, .inl rfl⟩ fun _ _ _ closing _ stepped => closing.step stepped
  refine ⟨fun position row found => ?_, fun closing after same closed => ?_, fun answer answered => ?_⟩
  · have placed : next.shared.instances[position]? =
        some (if row.stale cycle.cutoff then row.halt cycle.databaseNow else row) := by
      rw [written]
      exact getElem?_updateWhere found
    split
    · rename_i isStale
      rw [if_pos isStale] at placed
      obtain ⟨other, atPosition, becomes⟩ := onward_run writing continued position _ placed
      exact ⟨other, atPosition, becomes.id, becomes.stopped rfl⟩
    · rename_i fresh
      rw [if_neg fresh] at placed
      exact placed
  · unfold Pool.system at closed
    dsimp only at closed
    rw [same, found] at closed
    have inside : turn.index < later.programs.length := (List.getElem?_eq_some_iff.mp found).1
    have put : ∀ other : Program (MachineWorld jose) Empty InstanceAnswer,
        (later.programs.set turn.index other)[turn.index]?.bind Program.result = other.result := by
      intro other
      rw [List.getElem?_set_self inside]
      rfl
    rcases kinds with rfl | rfl | rfl
    · simp only [closingProgram] at closed
      split at closed
      · rename_i fails
        cases closed
        rw [if_pos fails]
        exact put _
      · rename_i closes
        cases closed
        rw [if_neg closes]
        exact put _
    · cases closed
    · cases closed
  · unfold Pool.resultAt at answered
    rw [found, Option.bind_some] at answered
    rcases kinds with rfl | rfl | rfl
    · cases answered
    · exact .inl (Option.some.inj answered).symm
    · exact .inr (Option.some.inj answered).symm

/-- A cycle that stops the silent instance and closes its connection. -/
theorem reconciled_for_good_silent :
    ∃ next : Pool (MachineWorld plainJose) Empty InstanceAnswer,
      (∀ (position : ℕ) (row : AgentInstance), silentPool.shared.instances[position]? = some row →
        if row.stale (120 * second) = true then
          ∃ other, next.shared.instances[position]? = some other ∧ other.id = row.id ∧ other.status = .stopped
        else next.shared.instances[position]? = some row) ∧
      (∀ closing after, closing.index = 1 → Pool.system.step next closing = some after →
        after.resultAt 1 = some (reconciledCount (if closing.fails then 0 else 1))) ∧
      ∀ answer, next.resultAt 1 = some answer → answer = reconciledCount 1 ∨ answer = reconciledCount 0 := by
  exact ⟨_, @reconciled_for_good plainJose repairedGateway silentWorld silentTasks silentPool _ _ ⟨1, false⟩
    ⟨240 * second, 241 * second, 120⟩ .refl rfl rfl rfl .refl⟩

end Reconciler

/-! ### What the gateway makes of stops and heartbeats -/

/-- A stop or a heartbeat was refused. -/
def InstanceAnswer.Refused : InstanceAnswer → Prop
  | .stopped answer => ∃ failure, answer = .error failure
  | .stoppedByHandler answer | .beaten answer => ∃ failure, answer = .error failure
  | _ => True

section Refusals

variable {jose : Jose} {gateway : InstanceGateway} {world : MachineWorld jose} {tasks : List InstanceTask}
  {earlier later : Pool (MachineWorld jose) Empty InstanceAnswer}

theorem serverFetchrowStep_safe {Row : Type} {query : MachineWorld jose → Option Row}
    {post : Except HandlerError (Option Row) → Prop} (returned : ∀ row, post (.ok row))
    (raised : ∀ failure, post (.error failure)) :
    (serverFetchrowStep jose gateway query).Safe True (fun _ => True) post := by
  unfold serverFetchrowStep
  split
  · exact .query (fun world _ => returned _) fun _ => returned none
  · exact raised _

theorem handlerAttrStep_safe {payload : TokenPayload} {name : String}
    {post : Except HandlerError String → Prop} (returned : ∀ value, post (.ok value))
    (raised : ∀ failure, post (.error failure)) :
    (handlerAttrStep jose gateway payload name).Safe True (fun _ => True) post := by
  show post ((gateway.attr payload name).mapError fun failure => .raised (.python failure))
  rcases gateway.attr payload name with failure | value
  · exact raised _
  · exact returned value

variable (different : ∀ id text, gateway.sameId id text = false)

include different

theorem stopSteps_refused {request : InstanceRequest} :
    (stopSteps jose gateway request).Safe True (fun _ => True)
      fun result => ∃ failure, result = .error failure := by
  refine .bind (attrStep_safe (fun credentialId => ?_) fun failure => ⟨_, rfl⟩)
  refine .bind (fetchrowStep_safe fun found => ?_)
  rcases found with _ | row
  · exact ⟨_, rfl⟩
  dsimp only
  rw [different, if_neg Bool.false_ne_true]
  exact ⟨_, rfl⟩

theorem stopHandlerSteps_refused {request : InstanceRequest} :
    (stopHandlerSteps jose gateway request).Safe True (fun _ => True)
      fun result => ∃ failure, result = .error failure := by
  unfold stopHandlerSteps
  split
  · exact ⟨_, rfl⟩
  refine .bind (handlerAttrStep_safe (fun credentialId => ?_) fun failure => ⟨_, rfl⟩)
  refine .bind (serverFetchrowStep_safe (fun found => ?_) fun failure => ⟨_, rfl⟩)
  rcases found with _ | row
  · exact ⟨_, rfl⟩
  dsimp only
  rw [different, if_neg Bool.false_ne_true]
  exact ⟨_, rfl⟩

theorem heartbeatSteps_refused {request : InstanceRequest} :
    (heartbeatSteps jose gateway request).Safe True (fun _ => True)
      fun result => ∃ failure, result = .error failure := by
  unfold heartbeatSteps
  split
  · exact ⟨_, rfl⟩
  refine .bind (serverFetchrowStep_safe (fun found => ?_) fun failure => ⟨_, rfl⟩)
  rcases found with _ | row
  · exact ⟨_, rfl⟩
  refine .bind (handlerAttrStep_safe (fun credentialId => ?_) fun failure => ⟨_, rfl⟩)
  dsimp only
  rw [different, if_neg Bool.false_ne_true]
  exact ⟨_, rfl⟩

theorem instanceProgram_refused (task : InstanceTask) :
    (instanceProgram jose gateway task).Safe True (fun _ => True)
      fun result => ∃ answer, result = .ok answer ∧ answer.Refused := by
  cases task with
  | register call =>
      exact .bind (.attempted ((Program.safe_true _).weaken fun result _ => ⟨_, rfl, trivial⟩))
  | registerHandler call =>
      exact .bind (.attempted ((Program.safe_true _).weaken fun result _ => ⟨_, rfl, trivial⟩))
  | stop request =>
      exact .bind (.attempted ((stopSteps_refused different).weaken fun result refused =>
        ⟨_, rfl, refused⟩))
  | stopHandler request =>
      exact .bind (.attempted ((stopHandlerSteps_refused different).weaken fun result refused =>
        ⟨_, rfl, refused⟩))
  | heartbeat request =>
      exact .bind (.attempted ((heartbeatSteps_refused different).weaken fun result refused =>
        ⟨_, rfl, refused⟩))
  | reconcile cycle =>
      exact .bind (.attempted ((Program.safe_true _).weaken fun result _ => ⟨_, rfl, trivial⟩))

/-- **Where a `UUID` equals no text, no heartbeat and no stop is accepted**, in any interleaving: every call for
an instance is refused, and from any state of the run on every row, also one that the run has registered, keeps
its heartbeat. -/
theorem heartbeats_refused
    (reached : Pool.system.Reachable (fun _ _ => True) (instancePool jose gateway world tasks) earlier)
    (continued : Pool.system.Reachable (fun _ _ => True) earlier later) :
    (∀ program ∈ later.programs, ∀ result, program.result = some result →
      ∃ answer, result = .ok answer ∧ answer.Refused) ∧
    Onward (fun row other => other.id = row.id ∧ other.lastHeartbeatAt = row.lastHeartbeatAt)
      earlier.shared.instances later.shared.instances := by
  constructor
  · have start : (instancePool jose gateway world tasks).Safe True (fun _ => True)
        fun result => ∃ answer, result = .ok answer ∧ answer.Refused := by
      refine ⟨trivial, fun program member => ?_⟩
      obtain ⟨task, -, rfl⟩ := List.mem_map.mp member
      exact instanceProgram_refused different task
    have whole : Pool.system.Reachable (fun _ _ => True) (instancePool jose gateway world tasks) later :=
      Relation.ReflTransGen.trans reached continued
    have free : Pool.system.Reachable (Pool.FailingOnly True) (instancePool jose gateway world tasks) later :=
      whole.weaken fun _ _ _ _ => trivial
    exact fun program member result ended => (Pool.pool_safe free start).result member ended
  · obtain ⟨-, writing⟩ := instancePool_writing.run reached
    intro position row found
    obtain ⟨other, atPosition, becomes⟩ := onward_run writing continued position row found
    exact ⟨other, atPosition, becomes.id, becomes.heartbeat fun _ => different⟩

end Refusals

/-- A gateway that lacks nothing but the comparison of a `UUID` with a text. -/
def textGateway : InstanceGateway :=
  { repairedGateway with sameId := fun _ _ => false }

/-- A registration, and a heartbeat and a stop of the instance that it starts. -/
def newInstanceTasks : List InstanceTask :=
  [.register { activeRegistration with call := { exchangeCall with now := 120 * second } },
    .heartbeat ⟨130 * second, activeRegistration.token, uuidText 40⟩,
    .stop ⟨140 * second, activeRegistration.token, uuidText 40⟩]

/-- The pool of these calls. -/
def newInstancePool : Pool (MachineWorld plainJose) Empty InstanceAnswer :=
  instancePool plainJose textGateway silentWorld newInstanceTasks

/-- The identities of the instances, with their heartbeats. -/
def heartbeats (pool : Pool (MachineWorld plainJose) Empty InstanceAnswer) : List (Uuid × Timestamp) :=
  pool.shared.instances.map fun row => (row.id, row.lastHeartbeatAt)

/-- What the heartbeat and the stop of the new instance are answered. -/
def mismatches : List (Option (Except Empty InstanceAnswer)) :=
  [some (.ok (.beaten (.error (.answered 401 "credential mismatch for this instance")))),
    some (.ok (.stopped (.error (.invalidToken "credential mismatch for this instance"))))]

/-- The instance is registered, and the two calls that follow are refused. -/
def RefusesNext (earlier : Pool (MachineWorld plainJose) Empty InstanceAnswer) : Prop :=
  heartbeats earlier = [(39, 0), (40, 120 * second)] ∧
    (Pool.system.run earlier [⟨1, false⟩, ⟨2, false⟩]).any (fun later =>
      decide ([later.resultAt 1, later.resultAt 2] = mismatches)) = true

instance : DecidablePred RefusesNext := fun _ => inferInstanceAs (Decidable (_ ∧ _))

theorem newInstancePool_registers :
    ∃ earlier, Pool.system.run newInstancePool (List.replicate 6 ⟨0, false⟩) = some earlier ∧
      Pool.system.Reachable (fun _ _ => True) newInstancePool earlier ∧ RefusesNext earlier :=
  Transition.System.run_reaches (by decide +kernel)

theorem newInstancePool_runs :
    ∃ earlier later, Pool.system.Reachable (fun _ _ => True) newInstancePool earlier ∧
      Pool.system.Reachable (fun _ _ => True) earlier later ∧
      heartbeats earlier = [(39, 0), (40, 120 * second)] ∧
      [later.resultAt 1, later.resultAt 2] = mismatches := by
  obtain ⟨earlier, -, reached, registered, executed⟩ := newInstancePool_registers
  obtain ⟨later, -, continued, answered⟩ := Transition.System.run_reaches executed
  exact ⟨earlier, later, reached, continued, registered, answered⟩

/-- The heartbeat and the stop of an instance that the run has registered are refused. -/
theorem heartbeats_refused_python :
    ∃ earlier later : Pool (MachineWorld plainJose) Empty InstanceAnswer,
      heartbeats earlier = [(39, 0), (40, 120 * second)] ∧
      [later.resultAt 1, later.resultAt 2] = mismatches ∧
      (∀ program ∈ later.programs, ∀ result, program.result = some result →
        ∃ answer, result = .ok answer ∧ answer.Refused) ∧
      Onward (fun row other => other.id = row.id ∧ other.lastHeartbeatAt = row.lastHeartbeatAt)
        earlier.shared.instances later.shared.instances := by
  obtain ⟨earlier, later, reached, continued, registered, answered⟩ := newInstancePool_runs
  exact ⟨earlier, later, registered, answered, heartbeats_refused (fun _ _ => rfl) reached continued⟩

end CosMonitor
