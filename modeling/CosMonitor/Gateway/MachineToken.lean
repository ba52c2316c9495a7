/-
**Agent bootstrap — exchanging machine tokens, registering an instance and authenticating an ingest.**

`exchange_machine_token` and `register_agent_instance` read the attributes `sub` and `instance_id` of
the verified payload. The functions below take the attribute reader as an argument: the gateway's own
is `TokenPayload.getattr`, and a result for every reader does not depend on which names the payload
has.

* `exchange_raises`: with the gateway's reader no exchange returns tokens;
* `exchangeWith_grant`: the claims of every access token that an exchange issues, with any reader;
* `ingestAuthenticate_needs_instance`: ingest accepts no claims without an `instance_id`;
* `bootstrap_rejected`: the composition never lets an agent in.
-/

import CosMonitor.Access.AgentTables
import CosMonitor.Access.Security

namespace CosMonitor

open Result

/-! ### The state behind the gateway -/

/-- The tables and the Redis keys that the machine authentication reads and writes. -/
structure MachineWorld (jose : Jose) where
  installations : List Installation
  credentials : List Credential
  instances : List AgentInstance
  jtiBlacklist : List String
  refreshTokens : List (String × jose.Token)
  consumedRefresh : List String

/-- The surroundings of one call. `decodeResponses` says whether the Redis client returns texts; it
returns bytes by default, and these differ from every text. -/
structure MachineCall where
  now : Timestamp
  accessJti : Uuid
  refreshJti : Uuid
  newInstanceId : Uuid
  databaseUp : Bool
  redisUp : Bool
  decodeResponses : Bool
  std : Stdlib

/-- What an exchange returns. -/
inductive MachineGrant (Token : Type) where
  | tokens (accessToken refreshToken : Token)
  | identity (sub tenantId installationId instanceId : String)

section Exchange

variable (jose : Jose) (service : MachineJwtService)
  (attr : TokenPayload → String → Except PyError String) (call : MachineCall)

/-- A computation of the gateway. -/
abbrev Gateway (jose : Jose) (Value : Type) : Type :=
  Effect (MachineWorld jose) MachineError Value

/-- `payload.name`. -/
def readAttr (payload : TokenPayload) (name : String) : Gateway jose String :=
  .lift ((attr payload name).mapError .python)

/-- The payload of a token of the expected kind, with one message for all that can be wrong. -/
def verifyAs (expected : MachineTokenType) (message : String) (token : jose.Token) :
    Gateway jose TokenPayload :=
  .lift ((service.decodePayload jose call.std call.now expected token).mapError
    fun _ => .invalidToken message)

/-- `_db_fetchrow`: no row when the database fails. -/
def dbFetchrow {Row : Type} (query : MachineWorld jose → Option Row) : Gateway jose (Option Row) :=
  .read fun world => if call.databaseUp then query world else none

/-- `_db_execute`: a statement that fails changes nothing and says nothing. -/
def dbExecute (statement : MachineWorld jose → Option (MachineWorld jose)) : Gateway jose Unit :=
  .write fun world => if call.databaseUp then (statement world).getD world else world

/-- `INSERT INTO machine_jwt_blacklist`. -/
def blacklistJti (jti : String) (world : MachineWorld jose) : Option (MachineWorld jose) :=
  if jti ∈ world.jtiBlacklist then none
  else some { world with jtiBlacklist := jti :: world.jtiBlacklist }

/-- `SELECT … FROM agent_installations WHERE id AND tenant_id`. -/
def findInstallation (installationId tenantId : String) (world : MachineWorld jose) :
    Option Installation := do
  let id ← parseUuid installationId
  let tenant ← parseUuid tenantId
  world.installations.find? fun row => row.id == id && row.tenantId == tenant

/-- `SELECT … FROM agent_credentials WHERE installation_id AND tenant_id AND id`. -/
def findCredential (installationId tenantId credentialId : String) (world : MachineWorld jose) :
    Option Credential := do
  let installation ← parseUuid installationId
  let tenant ← parseUuid tenantId
  let id ← parseUuid credentialId
  world.credentials.find? fun row =>
    row.installationId == installation && row.tenantId == tenant && row.id == id

/-- The installation and the credential of a token are active. -/
def requireActive (installationId tenantId credentialId : String) : Gateway jose Installation := do
  let installation ← dbFetchrow jose call (findInstallation jose installationId tenantId)
  match installation with
  | some row =>
      if row.status = .active then
        let credential ← dbFetchrow jose call
          (findCredential jose installationId tenantId credentialId)
        if credential.map Credential.status = some .active then return row
        else .raise (.invalidToken "credential not active or not found")
      else .raise (.invalidToken "installation not active or not found")
  | none => .raise (.invalidToken "installation not active or not found")

/-- Issue the access and the refresh token and store the refresh token in Redis. -/
def issueTokens (credentialId tenantId : String) (extraClaims : List (String × Json)) :
    Gateway jose (MachineGrant jose.Token) := do
  let accessToken :=
    service.createAccessToken jose call.now call.accessJti credentialId tenantId extraClaims
  let refreshToken :=
    service.createRefreshToken jose call.now call.refreshJti credentialId tenantId extraClaims
  if call.redisUp then
    Effect.write fun world => { world with
      refreshTokens := (credentialId, refreshToken) ::
        world.refreshTokens.filter (·.1 != credentialId) }
    return .tokens accessToken refreshToken
  else .raise .securityControlUnavailable

/-- The registration flow. -/
def exchangeRegistration (token : jose.Token) : Gateway jose (MachineGrant jose.Token) := do
  let payload ← verifyAs jose service call .registration "invalid registration token" token
  let credentialId ← readAttr jose attr payload "sub"
  dbExecute jose call (blacklistJti jose payload.jti)
  let _ ← requireActive jose call payload.installationId payload.tenantId credentialId
  issueTokens jose service call credentialId payload.tenantId
    [("installation_id", .str payload.installationId)]

/-- The stored refresh token of a credential is consumed. Every failure in the block ends in a name
that this branch of the function never bound. -/
def consumeRefresh (credentialId : String) (token : jose.Token) : Gateway jose Unit := do
  let stored ← Effect.read fun world : MachineWorld jose => world.refreshTokens.lookup credentialId
  if call.redisUp ∧ call.decodeResponses ∧ stored = some token then
    .write fun world => { world with consumedRefresh := credentialId :: world.consumedRefresh }
  else .raise (.python (.unboundLocalError "SecurityControlUnavailable"))

/-- The jti of the old token is blacklisted, if the token has one. -/
def blacklistOld (token : jose.Token) : Gateway jose Unit :=
  match service.decode jose call.now token with
  | .ok claims =>
      let oldJti := (claims.lookup "jti").getD (.str "")
      if oldJti.truthy then dbExecute jose call (blacklistJti jose (call.std.str oldJti))
      else pure ()
  | .error _ => pure ()

/-- The refresh flow. -/
def exchangeRefresh (token : jose.Token) : Gateway jose (MachineGrant jose.Token) := do
  let payload ← verifyAs jose service call .refresh "invalid refresh token" token
  let credentialId ← readAttr jose attr payload "sub"
  if credentialId = "" then .raise (.invalidToken "refresh token missing credential identity")
  else
    let row ← dbFetchrow jose call fun world => do
      let id ← parseUuid credentialId
      let tenant ← parseUuid payload.tenantId
      world.credentials.find? fun row => row.id == id && row.tenantId == tenant
    consumeRefresh jose call credentialId token
    let grant ← issueTokens jose service call credentialId payload.tenantId
      (match row with
        | some row => [("installation_id", .str (uuidText row.installationId))]
        | none => [])
    Effect.write fun world => { world with
      consumedRefresh := world.consumedRefresh.filter (· != credentialId) }
    blacklistOld jose service call token
    return grant

/-- The validation of an access token. -/
def exchangeAccess (token : jose.Token) : Gateway jose (MachineGrant jose.Token) := do
  let payload ← verifyAs jose service call .access "invalid machine access token" token
  let credentialId ← readAttr jose attr payload "sub"
  let _ ← requireActive jose call payload.installationId payload.tenantId credentialId
  let instanceId ← readAttr jose attr payload "instance_id"
  if instanceId = "" then
    return .identity credentialId payload.tenantId payload.installationId instanceId
  else
    let row ← dbFetchrow jose call fun world => do
      let installation ← parseUuid payload.installationId
      let id ← parseUuid instanceId
      world.instances.find? fun row => row.installationId == installation && row.id == id
    match row with
    | none => .raise (.invalidToken "instance not found")
    | some row =>
        if row.status = .running then
          return .identity credentialId payload.tenantId payload.installationId instanceId
        else .raise (.invalidToken "instance not running")

/-- The tokens that a request presents; an empty one counts as absent. -/
structure Presented (Token : Type) where
  bearer : Option Token
  registrationToken : Option Token
  refreshToken : Option Token

/-- `exchange_machine_token`, with an attribute reader. -/
def exchangeWith (presented : Presented jose.Token) : Gateway jose (MachineGrant jose.Token) :=
  match presented.registrationToken, presented.refreshToken, presented.bearer with
  | some token, _, _ => exchangeRegistration jose service attr call token
  | none, some token, _ => exchangeRefresh jose service attr call token
  | none, none, some token => exchangeAccess jose service attr call token
  | none, none, none => .raise (.invalidToken "no valid token provided")

/-- `exchange_machine_token`. -/
def exchangeMachineToken (presented : Presented jose.Token) :
    Gateway jose (MachineGrant jose.Token) :=
  exchangeWith jose service TokenPayload.getattr call presented

/-! ### Registering an instance -/

/-- `INSERT INTO agent_instances`: the primary key and `uq_agent_instances_active` are checked. -/
def insertInstance (row : AgentInstance) (world : MachineWorld jose) : Option (MachineWorld jose) :=
  if world.instances.any (fun other => other.id == row.id ||
      (other.installationId == row.installationId && other.status == .running)) then none
  else some { world with instances := world.instances ++ [row] }

/-- `UPDATE agent_instances SET status = 'STOPPED'` on the running instance of an installation. -/
def stopInstances (installationId : Uuid) (now : Timestamp) (world : MachineWorld jose) :
    Option (MachineWorld jose) :=
  some { world with instances := world.instances.map fun row =>
    if row.installationId = installationId ∧ row.status = .running then
      { row with status := .stopped, stoppedAt := some now }
    else row }

/-- `UPDATE agent_installations SET last_seen_at`. -/
def touchInstallation (installationId : Uuid) (now : Timestamp) (world : MachineWorld jose) :
    Option (MachineWorld jose) :=
  some { world with installations := world.installations.map fun row =>
    if row.id = installationId then { row with lastSeenAt := some now } else row }

/-- The seconds after which an instance without a heartbeat counts as gone. -/
def heartbeatTimeoutSeconds : Int := 120

/-- `register_agent_instance`, with an attribute reader: the id of the new instance. -/
def registerWith (token : TokenPayload) (installationId hostFingerprint : String) :
    Gateway jose String := do
  let credentialId ← readAttr jose attr token "sub"
  let installation ← dbFetchrow jose call (findInstallation jose installationId token.tenantId)
  match installation with
  | none => .raise (.invalidToken "installation not found or tenant mismatch")
  | some installation =>
      if installation.status ≠ .active then
        .raise (.invalidToken "installation not in ACTIVE status")
      else
        let credential ← dbFetchrow jose call
          (findCredential jose installationId token.tenantId credentialId)
        match credential with
        | none => .raise (.invalidToken "credential not active or not found")
        | some credential =>
            if credential.status ≠ .active then
              .raise (.invalidToken "credential not active or not found")
            else if installation.hostFingerprint ≠ hostFingerprint then
              .raise (.invalidToken "host fingerprint mismatch (possible cloned VM)")
            else
              let existing ← dbFetchrow jose call fun world => world.instances.find? fun row =>
                row.installationId == installation.id && row.status == .running
              match existing with
              | some running =>
                  if call.now - running.lastHeartbeatAt < heartbeatTimeoutSeconds * second then
                    .raise (.invalidToken
                      "another instance is already running for this installation")
                  else dbExecute jose call (stopInstances jose installation.id call.now)
              | none => pure ()
              dbExecute jose call (insertInstance jose
                { id := call.newInstanceId
                  tenantId := installation.tenantId
                  installationId := installation.id
                  credentialId := credential.id
                  hostFingerprint
                  status := .running
                  lastHeartbeatAt := call.now
                  stoppedAt := none })
              dbExecute jose call (touchInstallation jose installation.id call.now)
              return uuidText call.newInstanceId

/-- `register_agent_instance`. -/
def registerAgentInstance (token : TokenPayload) (installationId hostFingerprint : String) :
    Gateway jose String :=
  registerWith jose TokenPayload.getattr call token installationId hostFingerprint

end Exchange

/-! ### Authenticating an ingest -/

/-- The answer of the authentication part of `ingest_handler`. -/
inductive IngestAuth where
  | rejected (status : Nat) (error : String)
  | authenticated (tenantId installationId instanceId credentialId : Uuid)
  deriving DecidableEq, Repr

/-- The authentication part of `ingest_handler`. `bearer` is the token of the `Authorization` header,
if that is a bearer header; `blacklist` answers whether a jti is revoked, if Redis answers. -/
def ingestAuthenticate (jose : Jose) (service : MachineJwtService) (std : Stdlib)
    (blacklist : Option (Json → Option Bool)) (now : Timestamp) (bearer : Option jose.Token) :
    IngestAuth :=
  match bearer with
  | none => .rejected 401 "missing bearer token"
  | some token =>
      match service.decode jose now token with
      | .error _ => .rejected 401 "invalid machine access token"
      | .ok claims =>
          if claims.get "token_type" ≠ .str MachineTokenType.access.name then
            .rejected 401 "not a machine access token"
          else if !(["tenant_id", "installation_id", "instance_id", "sub"].all fun name =>
              (claims.get name).truthy) then
            .rejected 401 "token missing required claims"
          else
            let uuidClaim := fun name => parseUuid (std.str (claims.get name))
            match uuidClaim "tenant_id", uuidClaim "installation_id", uuidClaim "instance_id",
                uuidClaim "sub" with
            | some tenantId, some installationId, some instanceId, some credentialId =>
                let identity :=
                  IngestAuth.authenticated tenantId installationId instanceId credentialId
                match blacklist with
                | some isRevoked =>
                    if (claims.get "jti").truthy then
                      match isRevoked (claims.get "jti") with
                      | none => .rejected 500 "Internal server error"
                      | some true => .rejected 401 "token has been revoked"
                      | some false => identity
                    else identity
                | none => identity
            | _, _, _, _ => .rejected 401 "invalid UUID in token claims"

/-! ### What an exchange issues -/

section Issued

variable {jose : Jose} {service : MachineJwtService}
  {attr : TokenPayload → String → Except PyError String} {call : MachineCall}
  {before after : MachineWorld jose}

/-- The claims beside the identity that an exchange gives its tokens: an installation at most. -/
def InstallationOnly (extraClaims : List (String × Json)) : Prop :=
  extraClaims = [] ∨ ∃ installationId, extraClaims = [("installation_id", installationId)]

open Effect in
theorem issueTokens_grant {credentialId tenantId : String} {extraClaims : List (String × Json)}
    {accessToken refreshToken : jose.Token}
    (issued : issueTokens jose service call credentialId tenantId extraClaims before =
      (.ok (.tokens accessToken refreshToken), after)) :
    accessToken =
      service.createAccessToken jose call.now call.accessJti credentialId tenantId extraClaims := by
  unfold issueTokens at issued
  split at issued
  · obtain ⟨_, _, _, returned⟩ := bind_returned.mp issued
    injection (pure_returned.mp returned).1 with same
    exact same.symm
  · exact (raise_returned.mp issued).elim

open Effect in
theorem exchangeRegistration_grant {token accessToken refreshToken : jose.Token}
    (granted : exchangeRegistration jose service attr call token before =
      (.ok (.tokens accessToken refreshToken), after)) :
    ∃ credentialId tenantId extraClaims, InstallationOnly extraClaims ∧ accessToken =
      service.createAccessToken jose call.now call.accessJti credentialId tenantId extraClaims := by
  unfold exchangeRegistration at granted
  obtain ⟨payload, _, _, granted⟩ := bind_returned.mp granted
  obtain ⟨credentialId, _, _, granted⟩ := bind_returned.mp granted
  obtain ⟨_, _, _, granted⟩ := bind_returned.mp granted
  obtain ⟨_, _, _, granted⟩ := bind_returned.mp granted
  exact ⟨credentialId, _, _, .inr ⟨_, rfl⟩, issueTokens_grant granted⟩

open Effect in
theorem exchangeRefresh_grant {token accessToken refreshToken : jose.Token}
    (granted : exchangeRefresh jose service attr call token before =
      (.ok (.tokens accessToken refreshToken), after)) :
    ∃ credentialId tenantId extraClaims, InstallationOnly extraClaims ∧ accessToken =
      service.createAccessToken jose call.now call.accessJti credentialId tenantId extraClaims := by
  unfold exchangeRefresh at granted
  obtain ⟨payload, _, _, granted⟩ := bind_returned.mp granted
  obtain ⟨credentialId, _, _, granted⟩ := bind_returned.mp granted
  split at granted
  · exact (raise_returned.mp granted).elim
  · obtain ⟨row, _, _, granted⟩ := bind_returned.mp granted
    obtain ⟨_, _, _, granted⟩ := bind_returned.mp granted
    obtain ⟨grant, middle, issued, granted⟩ := bind_returned.mp granted
    obtain ⟨_, _, _, granted⟩ := bind_returned.mp granted
    obtain ⟨_, _, _, granted⟩ := bind_returned.mp granted
    have same := (pure_returned.mp granted).1
    rw [same] at issued
    refine ⟨credentialId, _, _, ?_, issueTokens_grant issued⟩
    cases row with
    | none => exact .inl rfl
    | some row => exact .inr ⟨_, rfl⟩

open Effect in
theorem exchangeAccess_grant {token accessToken refreshToken : jose.Token} :
    exchangeAccess jose service attr call token before ≠
      (.ok (.tokens accessToken refreshToken), after) := by
  intro granted
  unfold exchangeAccess at granted
  obtain ⟨payload, _, _, granted⟩ := bind_returned.mp granted
  obtain ⟨credentialId, _, _, granted⟩ := bind_returned.mp granted
  obtain ⟨_, _, _, granted⟩ := bind_returned.mp granted
  obtain ⟨instanceId, _, _, granted⟩ := bind_returned.mp granted
  split at granted
  · cases (pure_returned.mp granted).1
  · obtain ⟨row, _, _, granted⟩ := bind_returned.mp granted
    split at granted
    · exact (raise_returned.mp granted).elim
    · split at granted
      · cases (pure_returned.mp granted).1
      · exact (raise_returned.mp granted).elim

/-- **Every access token that an exchange issues** names an installation at most, whatever the payload
attributes are. -/
theorem exchangeWith_grant {presented : Presented jose.Token} {accessToken refreshToken : jose.Token}
    (granted : exchangeWith jose service attr call presented before =
      (.ok (.tokens accessToken refreshToken), after)) :
    ∃ credentialId tenantId extraClaims, InstallationOnly extraClaims ∧ accessToken =
      service.createAccessToken jose call.now call.accessJti credentialId tenantId extraClaims := by
  obtain ⟨bearer, registration, refresh⟩ := presented
  cases registration with
  | some token => exact exchangeRegistration_grant granted
  | none =>
      cases refresh with
      | some token => exact exchangeRefresh_grant granted
      | none =>
          cases bearer with
          | some token => exact (exchangeAccess_grant granted).elim
          | none => exact (Effect.raise_returned.mp granted).elim

theorem readAttr_sub {payload : TokenPayload} {value : String} :
    readAttr jose TokenPayload.getattr payload "sub" before ≠ (.ok value, after) := by
  intro read
  cases (Effect.lift_returned.mp read).1

open Effect in
/-- **No exchange of the gateway returns**: its payloads have no attribute `sub`. -/
theorem exchange_raises {presented : Presented jose.Token} {grant : MachineGrant jose.Token} :
    exchangeMachineToken jose service call presented before ≠ (.ok grant, after) := by
  intro returned
  obtain ⟨bearer, registration, refresh⟩ := presented
  -- The three flows verify the token, then read `sub`.
  cases registration with
  | some token =>
      obtain ⟨payload, _, _, returned⟩ := bind_returned.mp returned
      obtain ⟨credentialId, _, read, _⟩ := bind_returned.mp returned
      exact readAttr_sub read
  | none =>
      cases refresh with
      | some token =>
          obtain ⟨payload, _, _, returned⟩ := bind_returned.mp returned
          obtain ⟨credentialId, _, read, _⟩ := bind_returned.mp returned
          exact readAttr_sub read
      | none =>
          cases bearer with
          | some token =>
              obtain ⟨payload, _, _, returned⟩ := bind_returned.mp returned
              obtain ⟨credentialId, _, read, _⟩ := bind_returned.mp returned
              exact readAttr_sub read
          | none => exact (raise_returned.mp returned).elim

/-- **Ingest accepts no claims without an `instance_id`.** -/
theorem ingestAuthenticate_needs_instance {std : Stdlib}
    {blacklist : Option (Json → Option Bool)} {now : Timestamp} {token : jose.Token}
    (missing : ∀ claims, service.decode jose now token = .ok claims →
      (claims.get "instance_id").truthy = false)
    (tenantId installationId instanceId credentialId : Uuid) :
    ingestAuthenticate jose service std blacklist now (some token) ≠
      .authenticated tenantId installationId instanceId credentialId := by
  unfold ingestAuthenticate
  dsimp only
  split
  · simp
  · rename_i claims verified
    have incomplete : (!(["tenant_id", "installation_id", "instance_id", "sub"].all fun name =>
        (claims.get name).truthy)) = true := by
      simp [missing claims verified]
    rw [if_pos incomplete]
    split
    · simp
    · simp

theorem machineClaims_instance {now : Timestamp} {jti : Uuid} {credentialId tenantId : String}
    {tokenType : MachineTokenType} {lifetime : Timestamp} {extraClaims : List (String × Json)}
    (few : InstallationOnly extraClaims) :
    (MachineJwtService.machineClaims now jti credentialId tenantId tokenType lifetime
      extraClaims).get "instance_id" = .null := by
  rcases few with rfl | ⟨installationId, rfl⟩
  · rfl
  · rfl

open Effect in
theorem register_raises {token : TokenPayload} {installationId hostFingerprint instanceId : String} :
    registerAgentInstance jose call token installationId hostFingerprint before ≠
      (.ok instanceId, after) := by
  intro returned
  unfold registerAgentInstance registerWith at returned
  obtain ⟨credentialId, _, read, _⟩ := bind_returned.mp returned
  exact readAttr_sub read

end Issued

/-! ### The composition -/

section Bootstrap

/-- An exchange returns an access token that ingest authenticates at a later time. -/
def BootstrapAccepted (jose : Jose) (service : MachineJwtService)
    (attr : TokenPayload → String → Except PyError String) (call : MachineCall)
    (world : MachineWorld jose) (presented : Presented jose.Token)
    (blacklist : Option (Json → Option Bool)) (later : Timestamp) : Prop :=
  ∃ accessToken refreshToken after, exchangeWith jose service attr call presented world =
      (.ok (.tokens accessToken refreshToken), after) ∧
    ∃ tenantId installationId instanceId credentialId,
      ingestAuthenticate jose service call.std blacklist later (some accessToken) =
        .authenticated tenantId installationId instanceId credentialId

/-- **The bootstrap is never accepted.** In every state, for every presented token: the exchange
returns nothing, a registration returns nothing, and the tokens that the exchange would issue with any
other attribute reader are never authenticated by ingest. -/
theorem bootstrap_rejected (jose : Jose) (service : MachineJwtService) (call : MachineCall)
    (world : MachineWorld jose) (presented : Presented jose.Token)
    (blacklist : Option (Json → Option Bool)) (later : Timestamp) :
    (∀ grant after, exchangeMachineToken jose service call presented world ≠ (.ok grant, after)) ∧
      (∀ token installationId hostFingerprint instanceId after,
        registerAgentInstance jose call token installationId hostFingerprint world ≠
          (.ok instanceId, after)) ∧
      ∀ attr, ¬BootstrapAccepted jose service attr call world presented blacklist later := by
  refine ⟨fun _ _ => exchange_raises, fun _ _ _ _ _ => register_raises, ?_⟩
  rintro attr ⟨accessToken, refreshToken, after, granted, tenantId, installationId, instanceId,
    credentialId, accepted⟩
  obtain ⟨credential, tenant, extraClaims, few, rfl⟩ := exchangeWith_grant granted
  refine ingestAuthenticate_needs_instance (fun claims verified => ?_) tenantId installationId
    instanceId credentialId accepted
  rw [MachineJwtService.decode_createMachineToken verified, machineClaims_instance few]
  rfl

/-- The claims expire after an instant. -/
def unexpired (now : Timestamp) (claims : Json) : Bool :=
  match claims.get "exp" with
  | .int exp => decide (now / second < exp)
  | _ => false

/-- A signing library whose tokens are the signed claims, the key and the kid. A public key is the
text of its private key with a suffix; a token verifies until it expires. -/
def plainJose : Jose where
  Token := Json × String × String
  decToken := inferInstance
  encode := fun claims privateKey kid => (claims, privateKey, kid)
  headerKid := fun token => some (.str token.2.2)
  decode := fun token publicKey _ now =>
    if token.2.1 ++ ".pub" = publicKey ∧ unexpired now token.1 then some token.1 else none
  decode_encode := by
    intro claims privateKey kid publicKey audience now found accepted
    split at accepted
    · exact (Option.some.inj accepted).symm
    · cases accepted

/-- A machine token service with one key. -/
def oneKey : MachineJwtService where
  keySet := [("k1", "key", "key.pub")]
  activeKid := "k1"
  privateKey := "key"
  publicKey := "key.pub"
  accessExpireSeconds := 60
  refreshExpireHours := 24
  audience := none
  active := by decide

/-- An exchange with the database and Redis up. -/
def exchangeCall : MachineCall where
  now := 0
  accessJti := 31
  refreshJti := 32
  newInstanceId := 40
  databaseUp := true
  redisUp := true
  decodeResponses := true
  std := Stdlib.constant

/-- An active installation with an active credential. -/
def activeWorld : MachineWorld plainJose where
  installations :=
    [{ id := 10
       tenantId := 1
       serverId := 12
       hostFingerprint := "fingerprint"
       agentType := "linux_agent"
       capabilities := .obj []
       status := .active
       lastSeenAt := none }]
  credentials := [⟨20, 1, 10, .active⟩]
  instances := []
  jtiBlacklist := []
  refreshTokens := []
  consumedRefresh := []

/-- The registration token of that installation. -/
def registrationToken : plainJose.Token :=
  oneKey.createRegistrationToken plainJose 0 30 (uuidText 20) (uuidText 1) (uuidText 10)

/-- The exchange of a valid registration token of an active installation raises `AttributeError`. If
`payload.sub` were the credential, the token issued would be turned away for its missing claim. -/
theorem valid_registration_rejected :
    (exchangeMachineToken plainJose oneKey exchangeCall
      ⟨none, some registrationToken, none⟩ activeWorld).1 =
        .error (.python (.attributeError "sub")) ∧
    ¬BootstrapAccepted plainJose oneKey TokenPayload.getattr exchangeCall activeWorld
      ⟨none, some registrationToken, none⟩ none 1 ∧
    ∃ accessToken refreshToken after,
      exchangeWith plainJose oneKey (fun payload _ => .ok payload.userId) exchangeCall
        ⟨none, some registrationToken, none⟩ activeWorld =
          (.ok (.tokens accessToken refreshToken), after) ∧
      ingestAuthenticate plainJose oneKey exchangeCall.std none 1 (some accessToken) =
        .rejected 401 "token missing required claims" := by
  refine ⟨rfl, ?_, _, _, _, rfl, rfl⟩
  rintro ⟨_, _, _, granted, _⟩
  exact exchange_raises granted

end Bootstrap

end CosMonitor
