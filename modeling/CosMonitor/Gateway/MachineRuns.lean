/-
**Interleaved calls of the machine authentication.**

Every verified payload lacks the attribute `sub`, so each exchange, each refresh and each registration
of the gateway ends before its first statement. With a reader that finds the credential the registration
token is no more single use: `_db_execute` swallows the violated key.

* `registration_never_oneShot`, `refresh_never_oneShot`: no interleaving has its one success;
* `registrations_hold_iff`: what interleaved registrations keep, and when;
* `registerSteps_index`: at most one instance of an installation runs, with any reader, in any
  interleaving, with any failures.
-/

import CosMonitor.Foundation.Table
import CosMonitor.Gateway.MachineSteps

namespace CosMonitor

open Result Interleaving Table

/-! ### What the gateway's reader makes of every call -/

section Raises

variable {jose : Jose} {service : MachineJwtService} {call : MachineCall}

/-- A program that has raised before its first statement. -/
def Raised {Value : Type} (program : GatewayProgram jose Value) : Prop :=
  ∃ failure, program = .done (.error failure)

theorem verifyStep_raised {Value : Type} {expected : MachineTokenType} {message : String}
    {token : jose.Token} {rest : TokenPayload → String → GatewayProgram jose Value} :
    Raised (verifyStep jose service call expected message token >>= fun payload =>
      attrStep jose TokenPayload.getattr payload "sub" >>= rest payload) := by
  unfold verifyStep
  rcases service.decodePayload jose call.std call.now expected token with failure | payload
  · exact ⟨_, rfl⟩
  · exact ⟨_, rfl⟩

theorem exchangeSteps_raised {presented : Presented jose.Token} :
    Raised (exchangeSteps jose service TokenPayload.getattr call presented) := by
  obtain ⟨bearer, registration, refresh⟩ := presented
  cases registration with
  | some token => exact verifyStep_raised
  | none =>
      cases refresh with
      | some token => exact verifyStep_raised
      | none =>
          cases bearer with
          | some token => exact verifyStep_raised
          | none => exact ⟨_, rfl⟩

theorem registerSteps_raised {token : TokenPayload} {installationId hostFingerprint : String} :
    Raised (registerSteps jose TokenPayload.getattr call token installationId hostFingerprint) :=
  ⟨_, rfl⟩

theorem refreshHandlerSteps_raised {setnxTakesEx : Bool} {token : jose.Token} :
    Raised (refreshHandlerSteps jose service TokenPayload.getattr call setnxTakesEx token) :=
  verifyStep_raised

theorem finished_of_raised {Value : Type}
    {pool : Pool (MachineWorld jose) MachineError Value}
    (raised : ∀ program ∈ pool.programs, Raised program) : pool.Finished ∧ pool.successes = 0 := by
  constructor
  · intro program member
    obtain ⟨failure, rfl⟩ := raised program member
    exact ⟨_, rfl⟩
  · refine List.countP_eq_zero.mpr fun program member => ?_
    obtain ⟨failure, rfl⟩ := raised program member
    exact Bool.false_ne_true

theorem not_oneShot_of_raised {Value : Type}
    {pool : Pool (MachineWorld jose) MachineError Value}
    (raised : ∀ program ∈ pool.programs, Raised program) : ¬ pool.OneShot := by
  intro oneShot
  obtain ⟨finished, none⟩ := finished_of_raised raised
  have one := oneShot pool .refl finished
  rw [none] at one
  cases one

end Raises

/-! ### Single use of a registration token -/

section Registration

variable (jose : Jose) (service : MachineJwtService)

/-- Exchange calls that present one registration token, over one state. -/
def registrationPool (attr : TokenPayload → String → Except PyError String)
    (world : MachineWorld jose) (token : jose.Token) (calls : List MachineCall) :
    Pool (MachineWorld jose) MachineError (MachineGrant jose.Token) where
  shared := world
  programs := calls.map fun call =>
    exchangeSteps jose service attr call ⟨none, some token, none⟩

/-- **A registration token is never used once.** Whatever the token, the tables and the calls, it is not
true that exactly one of them succeeds: none does. -/
theorem registration_never_oneShot (world : MachineWorld jose) (token : jose.Token)
    (calls : List MachineCall) :
    ¬ (registrationPool jose service TokenPayload.getattr world token calls).OneShot := by
  refine not_oneShot_of_raised fun program member => ?_
  obtain ⟨call, _, rfl⟩ := List.mem_map.mp member
  exact exchangeSteps_raised

/-- Two calls with the registration token of an active installation: both are rejected. -/
theorem registration_rejected_twice :
    oneKey.decodePayload plainJose Stdlib.constant 0 .registration registrationToken =
      .ok ⟨uuidText 20, uuidText 1, "", "", "registration_token", 600, uuidText 30, uuidText 10⟩ ∧
    ¬ (registrationPool plainJose oneKey TokenPayload.getattr activeWorld registrationToken
      [exchangeCall, { exchangeCall with accessJti := 33, refreshJti := 34 }]).OneShot := by
  refine ⟨by decide +kernel, not_oneShot_of_raised fun program member => ?_⟩
  obtain ⟨call, _, rfl⟩ := List.mem_map.mp member
  exact exchangeSteps_raised

end Registration

/-! ### Rotation of a refresh token -/

section Refresh

variable (jose : Jose) (service : MachineJwtService)

/-- Where a refresh call enters: the service function, or the HTTP handler with its own copy. -/
inductive RefreshEntry where
  | service
  | handler (setnxTakesEx : Bool)
  deriving DecidableEq, Repr

/-- A refresh call with a token. -/
def refreshSteps (attr : TokenPayload → String → Except PyError String) (token : jose.Token)
    (call : MachineCall) : RefreshEntry → GatewayProgram jose (MachineGrant jose.Token)
  | .service => exchangeSteps jose service attr call ⟨none, none, some token⟩
  | .handler setnxTakesEx => refreshHandlerSteps jose service attr call setnxTakesEx token

/-- Refresh calls that present one refresh token, over one state. -/
def refreshPool (attr : TokenPayload → String → Except PyError String) (world : MachineWorld jose)
    (token : jose.Token) (calls : List (MachineCall × RefreshEntry)) :
    Pool (MachineWorld jose) MachineError (MachineGrant jose.Token) where
  shared := world
  programs := calls.map fun call => refreshSteps jose service attr token call.1 call.2

variable {jose service} in
theorem refreshSteps_raised {token : jose.Token} {call : MachineCall} {entry : RefreshEntry} :
    Raised (refreshSteps jose service TokenPayload.getattr token call entry) := by
  unfold refreshSteps
  cases entry with
  | service => exact exchangeSteps_raised
  | handler setnxTakesEx => exact refreshHandlerSteps_raised

/-- **A refresh token is never rotated.** Whatever the token, the tables, the calls and where they enter,
it is not true that exactly one of them succeeds: none does. -/
theorem refresh_never_oneShot (world : MachineWorld jose) (token : jose.Token)
    (calls : List (MachineCall × RefreshEntry)) :
    ¬ (refreshPool jose service TokenPayload.getattr world token calls).OneShot := by
  refine not_oneShot_of_raised fun program member => ?_
  obtain ⟨call, _, rfl⟩ := List.mem_map.mp member
  exact refreshSteps_raised

/-- The refresh token of the credential of the active installation. -/
def currentRefreshToken : plainJose.Token :=
  oneKey.createRefreshToken plainJose 0 32 (uuidText 20) (uuidText 1)
    [("installation_id", .str (uuidText 10))]

/-- The active installation, with that token in Redis. -/
def refreshableWorld : MachineWorld plainJose :=
  { activeWorld with refreshTokens := [(uuidText 20, currentRefreshToken)] }

/-- Two calls with the current refresh token of an active credential: both are rejected. -/
theorem refresh_rejected_twice :
    (oneKey.decodePayload plainJose Stdlib.constant 0 .refresh currentRefreshToken).isOk = true ∧
    refreshableWorld.refreshTokens.lookup (uuidText 20) = some currentRefreshToken ∧
    ¬ (refreshPool plainJose oneKey TokenPayload.getattr refreshableWorld currentRefreshToken
      [(exchangeCall, .service), (exchangeCall, .handler true)]).OneShot := by
  refine ⟨by decide +kernel, by decide +kernel, not_oneShot_of_raised fun program member => ?_⟩
  obtain ⟨call, _, rfl⟩ := List.mem_map.mp member
  exact refreshSteps_raised

end Refresh

/-! ### Registrations of an instance -/

section Register

variable (jose : Jose)

/-- A registration call: its surroundings, the verified payload, and the request. -/
structure RegisterCall where
  call : MachineCall
  token : TokenPayload
  installationId : String
  hostFingerprint : String

/-- Registration calls over one state. -/
def registerPool (attr : TokenPayload → String → Except PyError String) (world : MachineWorld jose)
    (calls : List RegisterCall) : Pool (MachineWorld jose) MachineError String where
  shared := world
  programs := calls.map fun call =>
    registerSteps jose attr call.call call.token call.installationId call.hostFingerprint

/-- The call is for an active installation and credential, with the fingerprint of the host, and no
instance of the installation is alive. The credential is the one in the `sub` claim. -/
def RegisterCall.Eligible (call : RegisterCall) (world : MachineWorld jose) : Prop :=
  ∃ installation credential,
    findInstallation jose call.installationId call.token.tenantId world = some installation ∧
    installation.status = .active ∧
    findCredential jose call.installationId call.token.tenantId call.token.userId world =
      some credential ∧
    credential.status = .active ∧ installation.hostFingerprint = call.hostFingerprint ∧
    ∀ row ∈ world.instances, row.installationId = installation.id → row.status = .running →
      heartbeatTimeoutSeconds * second ≤ call.call.now - row.lastHeartbeatAt

/-- `uq_agent_instances_active`: one running instance for each installation at most. -/
def RunningIndex (world : MachineWorld jose) : Prop :=
  UniqueOn AgentInstance.installationId (fun row => row.status == .running) world.instances

/-- What interleaved registrations promise. -/
structure RegistrationsHold (world : MachineWorld jose) (calls : List RegisterCall) : Prop where
  /-- An eligible call, none of whose statements fails, returns the id of a stored running instance. -/
  registers : ∀ turns index pool result call, calls[index]? = some call → call.Eligible jose world →
    (∀ turn ∈ turns, turn.fails = true → turn.index ≠ index) →
      (registerPool jose TokenPayload.getattr world calls).ReturnsAt turns index pool result →
        ∃ row ∈ pool.shared.instances, result = .ok (uuidText row.id) ∧ row.status = .running
  /-- No call returns an id for which no row is stored. -/
  stored : ∀ turns index pool id,
    (registerPool jose TokenPayload.getattr world calls).ReturnsAt turns index pool (.ok id) →
      ∃ row ∈ pool.shared.instances, uuidText row.id = id
  /-- At most one row of an installation is running. -/
  oneRunning : ∀ pool, Pool.system.Reachable (fun _ _ => True)
    (registerPool jose TokenPayload.getattr world calls) pool → ∀ installationId,
      pool.shared.instances.countP (fun row =>
        row.status == .running && decide (row.installationId = installationId)) ≤ 1

variable {jose}

theorem insertInstance_index {row : AgentInstance} {world : MachineWorld jose}
    (index : RunningIndex jose world) :
    RunningIndex jose ((insertInstance jose row world).getD world) := by
  unfold insertInstance
  split
  · exact index
  · rename_i free
    refine uniqueOn_append.mpr ⟨index, fun _ other member running same => ?_⟩
    refine free (List.any_eq_true.mpr ⟨other, member, ?_⟩)
    rw [running, same]
    simp

theorem stopInstances_index {installationId : Uuid} {now : Timestamp} {world : MachineWorld jose}
    (index : RunningIndex jose world) :
    RunningIndex jose ((stopInstances jose installationId now world).getD world) := by
  have stopped : ((stopInstances jose installationId now world).getD world).instances =
      updateWhere (fun row => row.installationId = installationId ∧ row.status = .running)
        (fun row => { row with status := .stopped, stoppedAt := some now }) world.instances := by
    simp [stopInstances, updateWhere]
  unfold RunningIndex
  rw [stopped]
  refine UniqueOn.updateWhere index fun row _ _ running => ?_
  cases running

theorem supersedeSteps_index {call : MachineCall} {installationId : Uuid}
    {existing : Option AgentInstance} {post : Except MachineError Unit → Prop}
    (returned : post (.ok ())) (raised : ∀ failure, post (.error failure)) :
    (supersedeSteps jose call installationId existing).Safe True (RunningIndex jose) post := by
  unfold supersedeSteps
  split
  · split
    · exact raised _
    · exact executeStep_safe (fun world => stopInstances_index) returned
  · exact returned

/-- **A registration keeps the index**, with any reader, whatever fails and whoever else registers. -/
theorem registerSteps_index {attr : TokenPayload → String → Except PyError String}
    {call : MachineCall} {token : TokenPayload} {installationId hostFingerprint : String} :
    (registerSteps jose attr call token installationId hostFingerprint).Safe True (RunningIndex jose)
      fun _ => True := by
  refine .bind (attrStep_safe (fun credentialId => ?_) fun _ => trivial)
  refine .bind (fetchrowStep_safe fun installation => ?_)
  rcases installation with _ | installation
  · trivial
  by_cases inactive : installation.status ≠ .active
  · simp only [if_pos inactive]
    trivial
  simp only [if_neg inactive]
  refine .bind (fetchrowStep_safe fun credential => ?_)
  rcases credential with _ | credential
  · trivial
  by_cases revoked : credential.status ≠ .active
  · simp only [if_pos revoked]
    trivial
  by_cases cloned : installation.hostFingerprint ≠ hostFingerprint
  · simp only [if_neg revoked, if_pos cloned]
    trivial
  simp only [if_neg revoked, if_neg cloned]
  refine .bind (fetchrowStep_safe fun existing => ?_)
  refine .bind (supersedeSteps_index ?_ fun _ => trivial)
  refine .bind (executeStep_safe (fun world => insertInstance_index) ?_)
  refine .bind (executeStep_safe (fun world index => index) ?_)
  trivial

theorem registerPool_safe {attr : TokenPayload → String → Except PyError String}
    {world : MachineWorld jose} {calls : List RegisterCall} (index : RunningIndex jose world) :
    (registerPool jose attr world calls).Safe True (RunningIndex jose) fun _ => True := by
  refine ⟨index, fun program member => ?_⟩
  obtain ⟨call, _, rfl⟩ := List.mem_map.mp member
  exact registerSteps_index

theorem registerPool_raised {world : MachineWorld jose} {calls : List RegisterCall} {program}
    (member : program ∈ (registerPool jose TokenPayload.getattr world calls).programs) :
    Raised program := by
  obtain ⟨call, _, rfl⟩ := List.mem_map.mp member
  exact registerSteps_raised

theorem registerPool_returns (world : MachineWorld jose) {calls : List RegisterCall} {index : ℕ}
    {call : RegisterCall} (found : calls[index]? = some call) :
    ∃ failure, (registerPool jose TokenPayload.getattr world calls).ReturnsAt [] index
      (registerPool jose TokenPayload.getattr world calls) (.error failure) := by
  have own : Raised (registerSteps jose TokenPayload.getattr call.call call.token
    call.installationId call.hostFingerprint) := registerSteps_raised
  obtain ⟨failure, raised⟩ := own
  refine ⟨failure, rfl, ?_, fun earlier inside apart => (apart (List.prefix_nil.mp inside)).elim⟩
  unfold Pool.resultAt registerPool
  rw [List.getElem?_map, found, Option.map_some, raised]
  rfl

/-- **When interleaved registrations keep their promise.** A call that is eligible raises, so the
promise is kept exactly when no call is eligible. -/
theorem registrations_hold_iff {world : MachineWorld jose} {calls : List RegisterCall}
    (index : RunningIndex jose world) :
    RegistrationsHold jose world calls ↔ ∀ call ∈ calls, ¬ call.Eligible jose world := by
  constructor
  · intro holds call member eligible
    obtain ⟨position, found⟩ := List.mem_iff_getElem?.mp member
    obtain ⟨failure, returns⟩ := registerPool_returns world found
    obtain ⟨row, _, registered, _⟩ := holds.registers [] position _ (.error failure) call found
      eligible (fun _ inside => nomatch inside) returns
    cases registered
  · intro ineligible
    have finished : (registerPool jose TokenPayload.getattr world calls).Finished :=
      (finished_of_raised fun _ => registerPool_raised).1
    refine ⟨?_, ?_, ?_⟩
    · intro turns position pool result call found eligible
      exact (ineligible call (List.mem_of_getElem? found) eligible).elim
    · intro turns position pool id returns
      obtain ⟨-, rfl⟩ := finished.run_eq returns.ran
      obtain ⟨program, found, ended⟩ := Option.bind_eq_some_iff.mp returns.now
      obtain ⟨failure, rfl⟩ := registerPool_raised (List.mem_of_getElem? found)
      cases ended
    · intro pool reached installationId
      have free : Pool.system.Reachable (Pool.FailingOnly True)
          (registerPool jose TokenPayload.getattr world calls) pool :=
        reached.weaken fun _ _ _ _ => trivial
      have running := (Pool.pool_safe free (registerPool_safe index)).shared
      exact running.count_le_one installationId

/-- The registration of the active installation by its credential. -/
def activeRegistration : RegisterCall where
  call := exchangeCall
  token := ⟨uuidText 20, uuidText 1, "", "", "machine_access", 60, uuidText 31, uuidText 10⟩
  installationId := uuidText 10
  hostFingerprint := "fingerprint"

theorem activeRegistration_eligible : activeRegistration.Eligible plainJose activeWorld :=
  ⟨_, _, rfl, rfl, rfl, rfl, rfl, fun _ member => nomatch member⟩

/-- A single registration of the active installation, with no failing statement, raises. -/
theorem eligible_registration_raises :
    activeRegistration.Eligible plainJose activeWorld ∧
      ¬ RegistrationsHold plainJose activeWorld [activeRegistration] := by
  refine ⟨activeRegistration_eligible, fun holds => ?_⟩
  obtain ⟨failure, returns⟩ := registerPool_returns activeWorld
    (rfl : [activeRegistration][0]? = some activeRegistration)
  obtain ⟨row, stored, _⟩ := holds.registers [] 0 _ _ activeRegistration rfl
    activeRegistration_eligible (fun _ inside => nomatch inside) returns
  nomatch stored

/-- The state after the installation was deleted. -/
def deletedWorld : MachineWorld plainJose :=
  { activeWorld with installations := [] }

/-- Two registrations of an installation that was deleted: nobody is promised anything. -/
theorem registrations_hold_deleted :
    deletedWorld.installations = [] ∧
      RegistrationsHold plainJose deletedWorld [activeRegistration, activeRegistration] := by
  have index : RunningIndex plainJose deletedWorld := uniqueOn_nil
  refine ⟨rfl, (registrations_hold_iff index).mpr fun call _ eligible => ?_⟩
  obtain ⟨installation, _, found, _⟩ := eligible
  unfold findInstallation at found
  obtain ⟨id, _, found⟩ := Option.bind_eq_some_iff.mp found
  obtain ⟨tenant, _, found⟩ := Option.bind_eq_some_iff.mp found
  cases found

end Register

end CosMonitor
