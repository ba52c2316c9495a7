/-
**The machine token handler against the exchange of the service.**

`machine_token_handler` repeats the checks of `exchange_machine_token` on the HTTP server, with its own order
and its own answers. The reader of the payload attributes is an argument of both. The handler calls
`_db_execute` and `_db_fetchrow` on the server, which has neither: they are functions of the service's module.

* `machineTokenHandler`: the handler, on a server that has the two functions or does not;
* `exchangeConfigured_raises`, `machineTokenHandler_raises`: as the code stands, neither accepts a request;
* `handleRegistration_matches`: with the two functions, and whatever the reader finds, the two registration
  flows return the same tokens in the same states;
* `exchanges_agree`: the two implementations.
-/

import CosMonitor.Gateway.MachineSteps

namespace CosMonitor

open Result

/-! ### The handler -/

section Handler

/-- An answer other than 200, or what the handler raises. -/
inductive HandlerError where
  | answered (status : Nat) (error : String)
  | raised (failure : MachineError)
  deriving DecidableEq, Repr

/-- What the handler answers with 200. -/
inductive HandlerGrant (Token : Type) where
  | tokens (accessToken refreshToken : Token)
  | identity (sub tenantId installationId : String)

/-- What the handler finds around it. `databaseFunctions` says whether the server has `_db_execute` and
`_db_fetchrow`, `setnxTakesEx` whether the Redis client accepts an `ex` of `setnx`. -/
structure HandlerServer where
  databaseFunctions : Bool
  setnxTakesEx : Bool

variable (jose : Jose) (service : MachineJwtService)
  (attr : TokenPayload → String → Except PyError String) (call : MachineCall) (server : HandlerServer)

/-- A computation of the handler. -/
abbrev Handler (jose : Jose) (Value : Type) : Type :=
  Effect (MachineWorld jose) HandlerError Value

/-- `payload.name`, which the handler does not catch. -/
def handlerAttr (payload : TokenPayload) (name : String) : Handler jose String :=
  .lift ((attr payload name).mapError fun failure => .raised (.python failure))

/-- The payload of a token of the expected kind, or 401. -/
def handlerVerify (expected : MachineTokenType) (message : String) (token : jose.Token) :
    Handler jose TokenPayload :=
  .lift ((service.decodePayload jose call.std call.now expected token).mapError
    fun _ => .answered 401 message)

/-- `self._db_fetchrow`, which fails as `failure` on a server without the function. -/
def serverFetchrow {Row : Type} (failure : HandlerError) (query : MachineWorld jose → Option Row) :
    Handler jose (Option Row) :=
  if server.databaseFunctions then
    .read fun world => if call.databaseUp then query world else none
  else .raise failure

/-- `self._db_execute`; every failure of the call becomes a control that is unavailable. -/
def serverExecute (statement : MachineWorld jose → Option (MachineWorld jose)) : Handler jose Unit :=
  if server.databaseFunctions then
    .write fun world => if call.databaseUp then (statement world).getD world else world
  else .raise (.raised .securityControlUnavailable)

/-- The attribute that the server does not have. -/
def missingFetchrow : HandlerError :=
  .raised (.python (.attributeError "_db_fetchrow"))

/-- The installation and the credential of a token are active. -/
def handlerRequireActive (installationId tenantId credentialId : String) : Handler jose Unit := do
  let installation ← serverFetchrow jose call server missingFetchrow
    (findInstallation jose installationId tenantId)
  if installation.map Installation.status = some .active then
    let credential ← serverFetchrow jose call server missingFetchrow
      (findCredential jose installationId tenantId credentialId)
    if credential.map Credential.status = some .active then return ()
    else .raise (.answered 401 "credential not active or not found")
  else .raise (.answered 401 "installation not active or not found")

/-- Issue the tokens and store the refresh token in Redis. -/
def handlerIssue (credentialId tenantId : String) (extraClaims : List (String × Json)) :
    Handler jose (HandlerGrant jose.Token) := do
  let accessToken :=
    service.createAccessToken jose call.now call.accessJti credentialId tenantId extraClaims
  let refreshToken :=
    service.createRefreshToken jose call.now call.refreshJti credentialId tenantId extraClaims
  if call.redisUp then
    Effect.write fun world => { world with
      refreshTokens := (credentialId, refreshToken) ::
        world.refreshTokens.filter (·.1 != credentialId) }
    return .tokens accessToken refreshToken
  else .raise (.answered 503 "security control unavailable")

/-- The registration branch. The jti is written before the attributes are read. -/
def handleRegistration (token : jose.Token) : Handler jose (HandlerGrant jose.Token) := do
  let payload ← handlerVerify jose service call .registration "invalid registration token" token
  serverExecute jose call server (blacklistJti jose payload.jti)
  let credentialId ← handlerAttr jose attr payload "sub"
  handlerRequireActive jose call server payload.installationId payload.tenantId credentialId
  handlerIssue jose service call credentialId payload.tenantId
    [("installation_id", .str payload.installationId)]

/-- The stored refresh token is compared and marked as consumed. The block catches nothing, so a Redis that
does not answer raises. -/
def handlerConsume (credentialId : String) (token : jose.Token) : Handler jose Unit := do
  let stored ← Effect.read fun world : MachineWorld jose => world.refreshTokens.lookup credentialId
  if call.redisUp then
    if call.decodeResponses ∧ stored = some token then
      if server.setnxTakesEx then
        .write fun world => { world with consumedRefresh := credentialId :: world.consumedRefresh }
      else .raise (.raised (.python .typeError))
    else .raise (.answered 401 "refresh token mismatch or consumed")
  else .raise (.raised .securityControlUnavailable)

/-- The jti of the old token is blacklisted, if the token has one. -/
def handlerBlacklistOld (token : jose.Token) : Handler jose Unit :=
  match service.decode jose call.now token with
  | .ok claims =>
      let oldJti := (claims.lookup "jti").getD (.str "")
      if oldJti.truthy then serverExecute jose call server (blacklistJti jose (call.std.str oldJti))
      else pure ()
  | .error _ => pure ()

/-- The refresh branch. -/
def handleRefresh (token : jose.Token) : Handler jose (HandlerGrant jose.Token) := do
  let payload ← handlerVerify jose service call .refresh "invalid refresh token" token
  let credentialId ← handlerAttr jose attr payload "sub"
  handlerConsume jose call server credentialId token
  let row ← serverFetchrow jose call server missingFetchrow
    (findCredentialRow jose credentialId payload.tenantId)
  let grant ← handlerIssue jose service call credentialId payload.tenantId (rotatedClaims row)
  Effect.write fun world => { world with
    consumedRefresh := world.consumedRefresh.filter (· != credentialId) }
  handlerBlacklistOld jose service call server token
  return grant

/-- The jti of an access token, if it has one, is not blacklisted. -/
def handlerNotRevoked (jti : String) : Handler jose Unit :=
  if jti = "" then pure ()
  else do
    let revoked ← serverFetchrow jose call server (.answered 503 "security control unavailable")
      fun world => world.jtiBlacklist.find? (· == jti)
    if revoked.isSome then .raise (.answered 401 "token revoked") else return ()

/-- The branch of an access token. Its jti is looked up, unlike in the service; its instance is not. -/
def handleAccess (token : jose.Token) : Handler jose (HandlerGrant jose.Token) := do
  let payload ← handlerVerify jose service call .access "invalid machine access token" token
  handlerNotRevoked jose call server payload.jti
  let credentialId ← handlerAttr jose attr payload "sub"
  handlerRequireActive jose call server payload.installationId payload.tenantId credentialId
  return .identity credentialId payload.tenantId payload.installationId

/-- `machine_token_handler`, with an attribute reader. -/
def machineTokenHandler (configured : Option MachineJwtService) (presented : Presented jose.Token) :
    Handler jose (HandlerGrant jose.Token) :=
  match configured with
  | none => .raise (.answered 503 "machine auth not configured")
  | some service =>
      match presented.registrationToken, presented.refreshToken, presented.bearer with
      | some token, _, _ => handleRegistration jose service attr call server token
      | none, some token, _ => handleRefresh jose service attr call server token
      | none, none, some token => handleAccess jose service attr call server token
      | none, none, none => .raise (.answered 401 "no valid token provided")

/-- `exchange_machine_token` of a gateway that may have no machine tokens, with an attribute reader. -/
def exchangeConfigured (configured : Option MachineJwtService) (presented : Presented jose.Token) :
    Gateway jose (MachineGrant jose.Token) :=
  match configured with
  | none => .raise (.invalidToken "machine auth not configured")
  | some service => exchangeWith jose service attr call presented

end Handler

/-! ### As the code stands -/

section Standing

variable {jose : Jose} {configured : Option MachineJwtService} {call : MachineCall}
  {server : HandlerServer} {before after : MachineWorld jose}

open Effect in
theorem exchangeConfigured_raises {presented : Presented jose.Token} {grant : MachineGrant jose.Token} :
    exchangeConfigured jose TokenPayload.getattr call configured presented before ≠
      (.ok grant, after) := by
  intro returned
  cases configured with
  | none => exact raise_returned.mp returned
  | some service => exact exchange_raises returned

theorem handlerAttr_sub {payload : TokenPayload} {value : String} :
    handlerAttr jose TokenPayload.getattr payload "sub" before ≠ (.ok value, after) := by
  intro read
  cases (Effect.lift_returned.mp read).1

open Effect in
/-- **The handler accepts no request**: its payloads have no attribute `sub`. -/
theorem machineTokenHandler_raises {presented : Presented jose.Token} {grant : HandlerGrant jose.Token} :
    machineTokenHandler jose TokenPayload.getattr call server configured presented before ≠
      (.ok grant, after) := by
  intro returned
  obtain ⟨bearer, registration, refresh⟩ := presented
  cases configured with
  | none => exact raise_returned.mp returned
  | some service =>
      cases registration with
      | some token =>
          obtain ⟨payload, _, _, blacklisted⟩ := bind_returned.mp returned
          obtain ⟨_, _, _, continued⟩ := bind_returned.mp blacklisted
          obtain ⟨_, _, read, _⟩ := bind_returned.mp continued
          exact handlerAttr_sub read
      | none =>
          cases refresh with
          | some token =>
              obtain ⟨payload, _, _, continued⟩ := bind_returned.mp returned
              obtain ⟨_, _, read, _⟩ := bind_returned.mp continued
              exact handlerAttr_sub read
          | none =>
              cases bearer with
              | none => exact raise_returned.mp returned
              | some token =>
                  obtain ⟨payload, _, _, looked⟩ := bind_returned.mp returned
                  obtain ⟨_, _, _, continued⟩ := bind_returned.mp looked
                  obtain ⟨_, _, read, _⟩ := bind_returned.mp continued
                  exact handlerAttr_sub read

end Standing

/-! ### The checks that are written twice -/

section Twice

variable {jose : Jose} {service : MachineJwtService}
  {attr : TokenPayload → String → Except PyError String} {call : MachineCall} {server : HandlerServer}

/-- What the handler answers for a grant of the service: an identity without its instance. -/
def MachineGrant.answered {Token : Type} : MachineGrant Token → HandlerGrant Token
  | tokens accessToken refreshToken => .tokens accessToken refreshToken
  | identity sub tenantId installationId _ => .identity sub tenantId installationId

open Effect

/-- The handler accepts what the service accepts, in every state: it answers the tokens that the service
returns, and leaves the same state. -/
def ExchangesAgree (exchange : Gateway jose (MachineGrant jose.Token))
    (handler : Handler jose (HandlerGrant jose.Token)) : Prop :=
  Matches (fun grant answer => grant.answered = answer) exchange handler

section Functions

variable (functions : server.databaseFunctions = true)

include functions

theorem serverFetchrow_matches {Row : Type} {failure : HandlerError}
    {query : MachineWorld jose → Option Row} :
    Matches Eq (dbFetchrow jose call query) (serverFetchrow jose call server failure query) := by
  rw [serverFetchrow, if_pos functions]
  exact .read

theorem serverExecute_matches {statement : MachineWorld jose → Option (MachineWorld jose)} :
    Matches Eq (dbExecute jose call statement) (serverExecute jose call server statement) := by
  rw [serverExecute, if_pos functions]
  exact .write

theorem handlerRequireActive_matches {installationId tenantId credentialId : String} :
    Matches (fun _ _ => True) (requireActive jose call installationId tenantId credentialId)
      (handlerRequireActive jose call server installationId tenantId credentialId) := by
  refine .bind (serverFetchrow_matches functions) ?_
  rintro installation _ rfl
  cases installation with
  | none => exact .raise
  | some row =>
      by_cases isActive : row.status = .active
      · simp only [isActive, Option.map_some, if_true]
        refine .bind (serverFetchrow_matches functions) ?_
        rintro credential _ rfl
        by_cases credentialActive : credential.map Credential.status = some .active
        · rw [if_pos credentialActive, if_pos credentialActive]
          exact .pure trivial
        · rw [if_neg credentialActive, if_neg credentialActive]
          exact .raise
      · simp only [isActive, Option.map_some, Option.some.injEq, if_false]
        exact .raise

end Functions

theorem handlerIssue_matches {credentialId tenantId : String} {extraClaims : List (String × Json)} :
    ExchangesAgree (issueTokens jose service call credentialId tenantId extraClaims)
      (handlerIssue jose service call credentialId tenantId extraClaims) := by
  unfold issueTokens handlerIssue ExchangesAgree
  by_cases up : call.redisUp = true
  · simp only [up, if_true]
    exact .bind .write fun _ _ _ => .pure rfl
  · rw [if_neg up, if_neg up]
    exact .raise

theorem handlerVerify_matches {expected : MachineTokenType} {message : String} {token : jose.Token} :
    Matches Eq (verifyAs jose service call expected message token)
      (handlerVerify jose service call expected message token) :=
  .lift

/-- **The registration flows return the same**, whatever the reader of the attributes finds: the service reads
the credential before it writes the jti, the handler after. -/
theorem handleRegistration_matches (functions : server.databaseFunctions = true) (token : jose.Token) :
    ExchangesAgree (exchangeRegistration jose service attr call token)
      (handleRegistration jose service attr call server token) := by
  refine .bind handlerVerify_matches ?_
  rintro payload _ rfl
  refine .swap .lift (serverExecute_matches functions) ?_ ?_ ?_
  · exact fun looked => (lift_returned.mp looked).2.symm
  · intro before done after _ seen
    simp [lift_returned]
  · intro credentialId
    exact .bind (handlerRequireActive_matches functions) fun _ _ _ => handlerIssue_matches

end Twice

/-! ### The two implementations -/

/-- **The two implementations of the exchange agree.** As the code stands, on every request; and with the
functions that the server lacks, for every reader of the payload attributes, on every registration token. -/
theorem exchanges_agree (jose : Jose) (configured : Option MachineJwtService) (call : MachineCall)
    (setnxTakesEx : Bool) :
    (∀ presented, ExchangesAgree
      (exchangeConfigured jose TokenPayload.getattr call configured presented)
      (machineTokenHandler jose TokenPayload.getattr call ⟨false, setnxTakesEx⟩ configured presented)) ∧
    ∀ attr bearer token refreshToken, ExchangesAgree
      (exchangeConfigured jose attr call configured ⟨bearer, some token, refreshToken⟩)
      (machineTokenHandler jose attr call ⟨true, setnxTakesEx⟩ configured
        ⟨bearer, some token, refreshToken⟩) := by
  constructor
  · exact fun presented => .never (fun _ _ _ => exchangeConfigured_raises)
      fun _ _ _ => machineTokenHandler_raises
  · intro attr bearer token refreshToken
    cases configured with
    | none => exact .raise
    | some service => exact handleRegistration_matches rfl token

end CosMonitor
