/-
**The machine authentication, statement by statement.**

`exchange_machine_token` and `register_agent_instance` as programs over the tables and the Redis keys.
Each statement is a step of its own, and may fail. As in the functions that run at once, the reader of
the payload attributes is an argument.

* `exchangeSteps`, `registerSteps`: the two programs;
* `exchangeSteps_alone`, `registerSteps_alone`: alone, with the database and Redis up, they are the functions that
  run at once.
-/

import CosMonitor.Foundation.Interleaving
import CosMonitor.Gateway.MachineToken

namespace CosMonitor

open Result Interleaving

/-! ### Statements -/

section Programs

variable (jose : Jose) (service : MachineJwtService)
  (attr : TokenPayload → String → Except PyError String) (call : MachineCall)

/-- A function of the gateway, statement by statement. -/
abbrev GatewayProgram (jose : Jose) (Value : Type) : Type :=
  Program (MachineWorld jose) MachineError Value

/-- `payload.name`. -/
def attrStep (payload : TokenPayload) (name : String) : GatewayProgram jose String :=
  .done ((attr payload name).mapError .python)

/-- The verification of a token, which reads no table. -/
def verifyStep (expected : MachineTokenType) (message : String) (token : jose.Token) :
    GatewayProgram jose TokenPayload :=
  .done ((service.decodePayload jose call.std call.now expected token).mapError
    fun _ => .invalidToken message)

/-- `_db_fetchrow`: no row when the statement fails. -/
def fetchrowStep {Row : Type} (query : MachineWorld jose → Option Row) :
    GatewayProgram jose (Option Row) :=
  .query query (pure none)

/-- `_db_execute`: a statement that fails, or violates a constraint, changes nothing and says nothing. -/
def executeStep (statement : MachineWorld jose → Option (MachineWorld jose)) :
    GatewayProgram jose Unit :=
  .execute (fun world => (statement world).getD world) (pure ())

/-- A Redis command that raises when it fails. -/
def redisStep (write : MachineWorld jose → MachineWorld jose) (failure : MachineError) :
    GatewayProgram jose Unit :=
  .execute write (.raise failure)

/-- The name that the refresh branch never binds: the import stands in the registration branch. -/
def unboundControl : MachineError :=
  .python (.unboundLocalError "SecurityControlUnavailable")

/-! ### The exchange -/

/-- The installation and the credential of a token are active. -/
def requireActiveSteps (installationId tenantId credentialId : String) :
    GatewayProgram jose Installation := do
  let installation ← fetchrowStep jose (findInstallation jose installationId tenantId)
  match installation with
  | some row =>
      if row.status = .active then
        let credential ← fetchrowStep jose (findCredential jose installationId tenantId credentialId)
        if credential.map Credential.status = some .active then return row
        else .raise (.invalidToken "credential not active or not found")
      else .raise (.invalidToken "installation not active or not found")
  | none => .raise (.invalidToken "installation not active or not found")

/-- Issue the tokens and store the refresh token in Redis. `failure` is what a failing command raises. -/
def issueTokensSteps (failure : MachineError) (credentialId tenantId : String)
    (extraClaims : List (String × Json)) : GatewayProgram jose (MachineGrant jose.Token) := do
  let accessToken :=
    service.createAccessToken jose call.now call.accessJti credentialId tenantId extraClaims
  let refreshToken :=
    service.createRefreshToken jose call.now call.refreshJti credentialId tenantId extraClaims
  redisStep jose (fun world => { world with
    refreshTokens := (credentialId, refreshToken) ::
      world.refreshTokens.filter (·.1 != credentialId) }) failure
  return .tokens accessToken refreshToken

/-- The registration flow. -/
def exchangeRegistrationSteps (token : jose.Token) :
    GatewayProgram jose (MachineGrant jose.Token) := do
  let payload ← verifyStep jose service call .registration "invalid registration token" token
  let credentialId ← attrStep jose attr payload "sub"
  executeStep jose (blacklistJti jose payload.jti)
  let _ ← requireActiveSteps jose payload.installationId payload.tenantId credentialId
  issueTokensSteps jose service call .securityControlUnavailable credentialId payload.tenantId
    [("installation_id", .str payload.installationId)]

/-- The stored refresh token of a credential: read, marked as consumed, and the mark given a lifetime.
The answer of `SETNX` is not looked at. -/
def consumeRefreshSteps (credentialId : String) (token : jose.Token) : GatewayProgram jose Unit := do
  let stored ← .query (fun world : MachineWorld jose => world.refreshTokens.lookup credentialId)
    (.raise unboundControl)
  if call.decodeResponses ∧ stored = some token then do
    redisStep jose (fun world => { world with
      consumedRefresh := credentialId :: world.consumedRefresh }) unboundControl
    redisStep jose id unboundControl
  else .raise unboundControl

/-- The jti of the old token is blacklisted, if the token has one. -/
def blacklistOldSteps (token : jose.Token) : GatewayProgram jose Unit :=
  match service.decode jose call.now token with
  | .ok claims =>
      let oldJti := (claims.lookup "jti").getD (.str "")
      if oldJti.truthy then executeStep jose (blacklistJti jose (call.std.str oldJti))
      else pure ()
  | .error _ => pure ()

/-- `SELECT installation_id FROM agent_credentials WHERE id AND tenant_id`. -/
def findCredentialRow (credentialId tenantId : String) (world : MachineWorld jose) :
    Option Credential := do
  let id ← parseUuid credentialId
  let tenant ← parseUuid tenantId
  world.credentials.find? fun row => row.id == id && row.tenantId == tenant

/-- The claims of a rotated token beside the identity. -/
def rotatedClaims (row : Option Credential) : List (String × Json) :=
  match row with
  | some row => [("installation_id", .str (uuidText row.installationId))]
  | none => []

/-- The refresh flow. -/
def exchangeRefreshSteps (token : jose.Token) : GatewayProgram jose (MachineGrant jose.Token) := do
  let payload ← verifyStep jose service call .refresh "invalid refresh token" token
  let credentialId ← attrStep jose attr payload "sub"
  if credentialId = "" then .raise (.invalidToken "refresh token missing credential identity")
  else do
    let row ← fetchrowStep jose (findCredentialRow jose credentialId payload.tenantId)
    consumeRefreshSteps jose call credentialId token
    let grant ← issueTokensSteps jose service call unboundControl credentialId payload.tenantId
      (rotatedClaims row)
    redisStep jose (fun world => { world with
      consumedRefresh := world.consumedRefresh.filter (· != credentialId) }) unboundControl
    blacklistOldSteps jose service call token
    return grant

/-- The refresh branch of `machine_token_handler`: the same flow over its own commands. An answer other
than 200 is the error. `setnxTakesEx` says whether the Redis client accepts an `ex` of `setnx`. -/
def refreshHandlerSteps (setnxTakesEx : Bool) (token : jose.Token) :
    GatewayProgram jose (MachineGrant jose.Token) := do
  let payload ← verifyStep jose service call .refresh "invalid refresh token" token
  let credentialId ← attrStep jose attr payload "sub"
  let stored ← .query (fun world : MachineWorld jose => world.refreshTokens.lookup credentialId)
    (.raise .securityControlUnavailable)
  if call.decodeResponses ∧ stored = some token then do
    if setnxTakesEx then
      redisStep jose (fun world => { world with
        consumedRefresh := credentialId :: world.consumedRefresh }) .securityControlUnavailable
    else .raise (.python .typeError)
    let row ← fetchrowStep jose (findCredentialRow jose credentialId payload.tenantId)
    let grant ← issueTokensSteps jose service call .securityControlUnavailable credentialId
      payload.tenantId (rotatedClaims row)
    redisStep jose (fun world => { world with
      consumedRefresh := world.consumedRefresh.filter (· != credentialId) })
      .securityControlUnavailable
    blacklistOldSteps jose service call token
    return grant
  else .raise (.invalidToken "refresh token mismatch or consumed")

/-- The validation of an access token. -/
def exchangeAccessSteps (token : jose.Token) : GatewayProgram jose (MachineGrant jose.Token) := do
  let payload ← verifyStep jose service call .access "invalid machine access token" token
  let credentialId ← attrStep jose attr payload "sub"
  let _ ← requireActiveSteps jose payload.installationId payload.tenantId credentialId
  let instanceId ← attrStep jose attr payload "instance_id"
  if instanceId = "" then
    return .identity credentialId payload.tenantId payload.installationId instanceId
  else do
    let row ← fetchrowStep jose fun world => do
      let installation ← parseUuid payload.installationId
      let id ← parseUuid instanceId
      world.instances.find? fun row => row.installationId == installation && row.id == id
    match row with
    | none => .raise (.invalidToken "instance not found")
    | some row =>
        if row.status = .running then
          return .identity credentialId payload.tenantId payload.installationId instanceId
        else .raise (.invalidToken "instance not running")

/-- `exchange_machine_token`, with an attribute reader. -/
def exchangeSteps (presented : Presented jose.Token) : GatewayProgram jose (MachineGrant jose.Token) :=
  match presented.registrationToken, presented.refreshToken, presented.bearer with
  | some token, _, _ => exchangeRegistrationSteps jose service attr call token
  | none, some token, _ => exchangeRefreshSteps jose service attr call token
  | none, none, some token => exchangeAccessSteps jose service attr call token
  | none, none, none => .raise (.invalidToken "no valid token provided")

/-! ### The registration -/

/-- The running instance of an installation. -/
def findRunning (installationId : Uuid) (world : MachineWorld jose) : Option AgentInstance :=
  world.instances.find? fun row => row.installationId == installationId && row.status == .running

/-- The running instance that a registration found: refused while it is alive, and else stopped. -/
def supersedeSteps (installationId : Uuid) (existing : Option AgentInstance) :
    GatewayProgram jose Unit :=
  match existing with
  | some running =>
      if call.now - running.lastHeartbeatAt < heartbeatTimeoutSeconds * second then
        .raise (.invalidToken "another instance is already running for this installation")
      else executeStep jose (stopInstances jose installationId call.now)
  | none => pure ()

/-- The row of a new instance. -/
def newInstance (installation : Installation) (credential : Credential) (hostFingerprint : String) :
    AgentInstance where
  id := call.newInstanceId
  tenantId := installation.tenantId
  installationId := installation.id
  credentialId := credential.id
  hostFingerprint
  status := .running
  lastHeartbeatAt := call.now
  stoppedAt := none

/-- `register_agent_instance`, with an attribute reader. -/
def registerSteps (token : TokenPayload) (installationId hostFingerprint : String) :
    GatewayProgram jose String := do
  let credentialId ← attrStep jose attr token "sub"
  let installation ← fetchrowStep jose (findInstallation jose installationId token.tenantId)
  match installation with
  | none => .raise (.invalidToken "installation not found or tenant mismatch")
  | some installation =>
      if installation.status ≠ .active then
        .raise (.invalidToken "installation not in ACTIVE status")
      else do
        let credential ← fetchrowStep jose
          (findCredential jose installationId token.tenantId credentialId)
        match credential with
        | none => .raise (.invalidToken "credential not active or not found")
        | some credential =>
            if credential.status ≠ .active then
              .raise (.invalidToken "credential not active or not found")
            else if installation.hostFingerprint ≠ hostFingerprint then
              .raise (.invalidToken "host fingerprint mismatch (possible cloned VM)")
            else do
              let existing ← fetchrowStep jose (findRunning jose installation.id)
              supersedeSteps jose call installation.id existing
              executeStep jose
                (insertInstance jose (newInstance call installation credential hostFingerprint))
              executeStep jose (touchInstallation jose installation.id call.now)
              return uuidText call.newInstanceId

end Programs

/-! ### What the statements keep -/

section Safe

variable {jose : Jose} {failing : Prop} {invariant : MachineWorld jose → Prop}

theorem attrStep_safe {attr : TokenPayload → String → Except PyError String} {payload : TokenPayload}
    {name : String} {post : Except MachineError String → Prop}
    (returned : ∀ value, post (.ok value)) (raised : ∀ failure, post (.error failure)) :
    (attrStep jose attr payload name).Safe failing invariant post := by
  show post ((attr payload name).mapError .python)
  rcases attr payload name with failure | value
  · exact raised _
  · exact returned value

theorem fetchrowStep_safe {Row : Type} {query : MachineWorld jose → Option Row}
    {post : Except MachineError (Option Row) → Prop} (returned : ∀ row, post (.ok row)) :
    (fetchrowStep jose query).Safe failing invariant post :=
  .query (fun world _ => returned (query world)) fun _ => returned none

theorem executeStep_safe {statement : MachineWorld jose → Option (MachineWorld jose)}
    {post : Except MachineError Unit → Prop}
    (kept : ∀ world, invariant world → invariant ((statement world).getD world))
    (returned : post (.ok ())) : (executeStep jose statement).Safe failing invariant post :=
  .execute kept returned fun _ => returned

end Safe

/-! ### A program alone is the function that runs at once -/

section Alone

open Program

variable {jose : Jose} {service : MachineJwtService}
  {attr : TokenPayload → String → Except PyError String} {call : MachineCall}

theorem fetchrowStep_alone {Row : Type} {query : MachineWorld jose → Option Row} (up : call.databaseUp = true) :
    (fetchrowStep jose query).alone = dbFetchrow jose call query := by
  funext world
  rw [dbFetchrow, up]
  rfl

theorem executeStep_alone {statement : MachineWorld jose → Option (MachineWorld jose)}
    (up : call.databaseUp = true) : (executeStep jose statement).alone = dbExecute jose call statement := by
  funext world
  rw [dbExecute, up]
  rfl

theorem requireActiveSteps_alone {installationId tenantId credentialId : String} (up : call.databaseUp = true) :
    (requireActiveSteps jose installationId tenantId credentialId).alone =
      requireActive jose call installationId tenantId credentialId := by
  refine alone_sequence (fetchrowStep_alone up) fun installation => ?_
  rcases installation with _ | row
  · rfl
  · by_cases active : row.status = .active
    · simp only [if_pos active]
      refine alone_sequence (fetchrowStep_alone up) fun credential => ?_
      by_cases activeToo : credential.map Credential.status = some .active
      · simp only [if_pos activeToo]
        rfl
      · simp only [if_neg activeToo]
        rfl
    · simp only [if_neg active]
      rfl

theorem issueTokensSteps_alone {failure : MachineError} {credentialId tenantId : String}
    {extraClaims : List (String × Json)} (up : call.redisUp = true) :
    (issueTokensSteps jose service call failure credentialId tenantId extraClaims).alone =
      issueTokens jose service call credentialId tenantId extraClaims := by
  unfold issueTokensSteps issueTokens
  simp only [if_pos up]
  rfl

theorem consumeRefreshSteps_alone {credentialId : String} {token : jose.Token} (up : call.redisUp = true) :
    (consumeRefreshSteps jose call credentialId token).alone =
      consumeRefresh jose call credentialId token := by
  refine alone_sequence rfl fun stored => ?_
  by_cases current : call.decodeResponses = true ∧ stored = some token
  · simp only [if_pos current, if_pos (And.intro up current)]
    rfl
  · simp only [if_neg current, if_neg fun found => current (And.right found)]
    rfl

theorem blacklistOldSteps_alone {token : jose.Token} (up : call.databaseUp = true) :
    (blacklistOldSteps jose service call token).alone = blacklistOld jose service call token := by
  unfold blacklistOldSteps blacklistOld
  rcases service.decode jose call.now token with failure | claims
  · rfl
  · by_cases named : ((claims.lookup "jti").getD (.str "")).truthy = true
    · simp only [if_pos named]
      exact executeStep_alone up
    · simp only [if_neg named]
      rfl

theorem exchangeRegistrationSteps_alone {token : jose.Token} (up : call.databaseUp = true)
    (redisUp : call.redisUp = true) :
    (exchangeRegistrationSteps jose service attr call token).alone =
      exchangeRegistration jose service attr call token := by
  refine alone_sequence rfl fun payload => alone_sequence rfl fun credentialId => ?_
  refine alone_sequence (executeStep_alone up) fun _ => ?_
  exact alone_sequence (requireActiveSteps_alone up) fun _ => issueTokensSteps_alone redisUp

theorem exchangeRefreshSteps_alone {token : jose.Token} (up : call.databaseUp = true)
    (redisUp : call.redisUp = true) :
    (exchangeRefreshSteps jose service attr call token).alone =
      exchangeRefresh jose service attr call token := by
  refine alone_sequence rfl fun payload => alone_sequence rfl fun credentialId => ?_
  by_cases unnamed : credentialId = ""
  · simp only [if_pos unnamed]
    rfl
  · simp only [if_neg unnamed]
    refine alone_sequence (fetchrowStep_alone up) fun row => ?_
    refine alone_sequence (consumeRefreshSteps_alone redisUp) fun _ => ?_
    refine alone_sequence (issueTokensSteps_alone redisUp) fun grant => ?_
    refine alone_sequence rfl fun _ => ?_
    exact alone_sequence (blacklistOldSteps_alone up) fun _ => rfl

theorem exchangeAccessSteps_alone {token : jose.Token} (up : call.databaseUp = true) :
    (exchangeAccessSteps jose service attr call token).alone =
      exchangeAccess jose service attr call token := by
  refine alone_sequence rfl fun payload => alone_sequence rfl fun credentialId => ?_
  refine alone_sequence (requireActiveSteps_alone up) fun _ => alone_sequence rfl fun instanceId => ?_
  by_cases unnamed : instanceId = ""
  · simp only [if_pos unnamed]
    rfl
  · simp only [if_neg unnamed]
    refine alone_sequence (fetchrowStep_alone up) fun row => ?_
    rcases row with _ | row
    · rfl
    · by_cases running : row.status = .running
      · simp only [if_pos running]
        rfl
      · simp only [if_neg running]
        rfl

/-- **An exchange alone**, with the database and Redis up, is the exchange that runs at once. -/
theorem exchangeSteps_alone {presented : Presented jose.Token} (up : call.databaseUp = true)
    (redisUp : call.redisUp = true) :
    (exchangeSteps jose service attr call presented).alone =
      exchangeWith jose service attr call presented := by
  obtain ⟨bearer, registration, refresh⟩ := presented
  cases registration with
  | some token => exact exchangeRegistrationSteps_alone up redisUp
  | none =>
      cases refresh with
      | some token => exact exchangeRefreshSteps_alone up redisUp
      | none =>
          cases bearer with
          | some token => exact exchangeAccessSteps_alone up
          | none => rfl

/-- **A registration alone**, with the database up, is the registration that runs at once. -/
theorem registerSteps_alone {token : TokenPayload} {installationId hostFingerprint : String}
    (up : call.databaseUp = true) :
    (registerSteps jose attr call token installationId hostFingerprint).alone =
      registerWith jose attr call token installationId hostFingerprint := by
  refine alone_sequence rfl fun credentialId => ?_
  refine alone_sequence (fetchrowStep_alone up) fun installation => ?_
  rcases installation with _ | installation
  · rfl
  by_cases inactive : installation.status ≠ .active
  · simp only [if_pos inactive]
    rfl
  simp only [if_neg inactive]
  refine alone_sequence (fetchrowStep_alone up) fun credential => ?_
  rcases credential with _ | credential
  · rfl
  by_cases revoked : credential.status ≠ .active
  · simp only [if_pos revoked]
    rfl
  by_cases cloned : installation.hostFingerprint ≠ hostFingerprint
  · simp only [if_neg revoked, if_pos cloned]
    rfl
  simp only [if_neg revoked, if_neg cloned]
  refine alone_sequence (fetchrowStep_alone up) fun existing => ?_
  -- The insert and the update come after every branch of the check.
  have rest : ∀ _ : Unit, (do
      executeStep jose (insertInstance jose (newInstance call installation credential hostFingerprint))
      executeStep jose (touchInstallation jose installation.id call.now)
      return uuidText call.newInstanceId : GatewayProgram jose String).alone = (do
        dbExecute jose call (insertInstance jose (newInstance call installation credential hostFingerprint))
        dbExecute jose call (touchInstallation jose installation.id call.now)
        return uuidText call.newInstanceId : Gateway jose String) := fun _ =>
    alone_sequence (executeStep_alone up) fun _ => alone_sequence (executeStep_alone up) fun _ => rfl
  rcases existing with _ | running
  · exact rest ()
  · by_cases alive : call.now - running.lastHeartbeatAt < heartbeatTimeoutSeconds * second
    · simp only [supersedeSteps, if_pos alive]
      rfl
    · simp only [supersedeSteps, if_neg alive]
      exact alone_sequence (executeStep_alone up) rest

end Alone

end CosMonitor
