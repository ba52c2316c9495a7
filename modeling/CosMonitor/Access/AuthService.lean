/-
**The auth service — tokens of users, their rotation and their revocation.**

`AuthService` issues token pairs, rotates a refresh token and revokes one. Its blacklist keeps two
families of keys in Redis: `revoke` writes `jwt:blacklist:…`, and the consume-once check of a rotation
reads and writes `jwt:refresh:…`. Redis may fail at every command (`RedisReply`).

* `login`, `refresh`, `logout`: the calls, on the users and the keys of Redis;
* `consumeOnce_returns`: a rotation goes through exactly when its own key is not there;
* `logout_keeps`: a logout touches no key that a rotation reads;
* `refresh_returns_iff`: when a refresh call returns a new pair.
-/

import CosMonitor.Access.UserService
import CosMonitor.Foundation.Expiring

namespace CosMonitor

open Result Expiring

/-! ### The tokens of users -/

/-- The signing library under the keys, the algorithm, the issuer and the audience of the service.
`decode` is `none` where the library raises its `JWTError`. -/
structure JwtService where
  Token : Type
  sign : Json → Token
  decode : (now : Timestamp) → Token → Option Json
  accessExpireMinutes : Nat
  refreshExpireDays : Nat
  issuer : Option String
  audience : Option String

/-- The kinds of tokens of users. -/
inductive TokenType where
  | access
  | refresh
  deriving DecidableEq, Repr

/-- The text of a kind in the `token_type` claim. -/
def TokenType.name : TokenType → String
  | access => "access"
  | refresh => "refresh"

/-- The errors of the auth service. -/
inductive AuthError where
  | authentication (message : String)
  | invalidToken (message : String)
  | securityControlUnavailable
  | badUuid (text : String)
  deriving DecidableEq, Repr

namespace JwtService

variable (jwt : JwtService)

/-- A claim that is set only when the service has a value for it that is not empty. -/
def optionalClaim (name : String) : Option String → List (String × Json)
  | none => []
  | some value => if value = "" then [] else [(name, .str value)]

/-- Sign a token with the identity, authority and tenant claims. -/
def createToken (now : Timestamp) (jti : Uuid) (user : User) (tokenType : TokenType)
    (lifetime : Timestamp) : jwt.Token :=
  jwt.sign (.obj (
    [("sub", .str (uuidText user.id)), ("tenant_id", .str (uuidText user.tenantId)),
      ("email", .str user.email), ("role", .str user.role.name), ("token_type", .str tokenType.name),
      ("iat", .int (now / second)), ("exp", .int ((now + lifetime) / second)),
      ("jti", .str (uuidText jti))]
    ++ optionalClaim "iss" jwt.issuer ++ optionalClaim "aud" jwt.audience))

def createAccessToken (now : Timestamp) (jti : Uuid) (user : User) : jwt.Token :=
  jwt.createToken now jti user .access (jwt.accessExpireMinutes * 60 * second)

def createRefreshToken (now : Timestamp) (jti : Uuid) (user : User) : jwt.Token :=
  jwt.createToken now jti user .refresh (jwt.refreshExpireDays * 86400 * second)

/-- `JwtService.decode_payload`: the verified payload of a token of the expected kind. -/
def decodePayload (std : Stdlib) (now : Timestamp) (expected : TokenType) (token : jwt.Token) :
    Except AuthError TokenPayload :=
  match jwt.decode now token with
  | none => .error (.invalidToken "JWTError")
  | some claims =>
      if claims.get "token_type" ≠ .str expected.name then
        .error (.invalidToken "token is not of the expected type")
      else
        match claims.lookup "sub", claims.lookup "tenant_id", claims.lookup "email",
          claims.lookup "role", MachineJwtService.expClaim claims with
        | some sub, some tenantId, some email, some role, some exp =>
            .ok {
              userId := std.str sub
              tenantId := std.str tenantId
              email := std.str email
              role := std.str role
              tokenType := expected.name
              exp
              jti := std.str ((claims.lookup "jti").getD (.str ""))
              installationId := std.str ((claims.lookup "installation_id").getD (.str "")) }
        | _, _, _, _, _ => .error (.invalidToken "token payload is missing required claims")

end JwtService

/-! ### The blacklist -/

/-- What becomes of a command that is sent to Redis. -/
inductive RedisReply where
  /-- executed, with its reply -/
  | answered
  /-- executed, but the reply was lost -/
  | lost
  /-- not executed -/
  | unreached
  deriving DecidableEq, Repr

/-- What the auth service takes from outside: the standard library, the tokens, the user store and
`bcrypt`. `blacklist` says whether the service has one. -/
structure AuthEnv where
  std : Stdlib
  jwt : JwtService
  users : UserEnv
  verifyPassword : (password passwordHash : String) → Bool
  blacklist : Bool

/-- The clock, the rows of `users` and the keys of Redis. -/
structure AuthState where
  now : Timestamp
  users : UserTable
  redis : Store String Timestamp

/-- The key that `revoke` writes. -/
def blacklistKey (jti : String) : String :=
  "jwt:blacklist:" ++ jti

/-- The key that a rotation consumes. -/
def refreshKey (jti : String) : String :=
  "jwt:refresh:" ++ jti

/-- The instant until which a key of a token is kept: until the token expires, and for a minute at
least. -/
def keptUntil (now : Timestamp) (expiresAt : Int) : Timestamp :=
  now + max (expiresAt - now / second) 60 * second

/-- `TokenBlacklist.revoke`: `SET … EX`, and every failure is logged only. -/
def revoke (redis : RedisReply) (jti : String) (expiresAt : Int) : Effect AuthState AuthError Unit :=
  .write fun state =>
    match redis with
    | .unreached => state
    | .answered | .lost =>
        { state with redis := state.redis.set (blacklistKey jti) (keptUntil state.now expiresAt) }

/-- `TokenBlacklist.consume_refresh_token`: `SET NX EX`, and every failure refuses. -/
def consumeRefreshToken (redis : RedisReply) (jti : String) (expiresAt : Int) :
    Effect AuthState AuthError Bool :=
  fun state =>
    let written := state.redis.setIfAbsent state.now (refreshKey jti) (keptUntil state.now expiresAt)
    match redis with
    | .unreached => (.error .securityControlUnavailable, state)
    | .lost => (.error .securityControlUnavailable, { state with redis := written.2 })
    | .answered => (.ok written.1, { state with redis := written.2 })

/-! ### The service -/

namespace AuthService

variable (env : AuthEnv)

/-- An access token and a refresh token. -/
structure TokenPair where
  accessToken : env.jwt.Token
  refreshToken : env.jwt.Token

/-- Issue a pair for a user, with two fresh `uuid4`. -/
def issueTokenPair (now : Timestamp) (user : User) (accessJti refreshJti : Uuid) : TokenPair env where
  accessToken := env.jwt.createAccessToken now accessJti user
  refreshToken := env.jwt.createRefreshToken now refreshJti user

/-- `JwtService.verify_refresh_token`. -/
def verifyRefreshToken (now : Timestamp) (token : env.jwt.Token) : Except AuthError TokenPayload :=
  env.jwt.decodePayload env.std now .refresh token

/-- `SELECT_USER_BY_EMAIL`. -/
def getByEmail (table : UserTable) (email : String) : Option User :=
  table.rows.find? fun user => user.email == email

/-- `AuthService.login`. -/
def login (email password : String) (tenantId : Option String) (accessJti refreshJti : Uuid) :
    Effect AuthState AuthError (TokenPair env) := do
  match (← .read fun state => getByEmail state.users email) with
  | none => .raise (.authentication "invalid credentials")
  | some user =>
      if env.verifyPassword password user.passwordHash = false then
        .raise (.authentication "invalid credentials")
      else if user.isActive = false then .raise (.authentication "user is deactivated")
      else if tenantId.any (fun asserted => uuidText user.tenantId ≠ asserted) then
        .raise (.authentication "tenant assertion does not match the user's tenant")
      else return issueTokenPair env (← .read AuthState.now) user accessJti refreshJti

/-- The active user that a refresh token names. -/
def refreshingUser (table : UserTable) (payload : TokenPayload) : Except AuthError User :=
  match parseUuid payload.userId with
  | none => .error (.badUuid payload.userId)
  | some id =>
      match table.getById id with
      | none => .error (.authentication "refresh token references an unknown user")
      | some user =>
          if user.isActive then .ok user
          else .error (.authentication "refresh token references an unknown user")

/-- The consume-once check of a rotation, made only with a blacklist and for a token with a `jti`. -/
def consumeOnce (redis : RedisReply) (payload : TokenPayload) : Effect AuthState AuthError Unit :=
  if env.blacklist = true ∧ payload.jti ≠ "" then do
    if (← consumeRefreshToken redis payload.jti payload.exp) then return ()
    else .raise (.authentication "refresh token has already been used (replay detected)")
  else return ()

/-- `AuthService.refresh`. -/
def refresh (redis : RedisReply) (accessJti refreshJti : Uuid) (token : env.jwt.Token) :
    Effect AuthState AuthError (TokenPair env) := do
  let now ← .read AuthState.now
  let payload ← .lift (verifyRefreshToken env now token)
  let user ← .lift (refreshingUser (← .read AuthState.users) payload)
  consumeOnce env redis payload
  return issueTokenPair env now user accessJti refreshJti

/-- `AuthService.logout`: a token that does not verify is ignored. -/
def logout (redis : RedisReply) (token : env.jwt.Token) : Effect AuthState AuthError Unit := do
  match verifyRefreshToken env (← .read AuthState.now) token with
  | .error (.invalidToken _) => return ()
  | .error failure => .raise failure
  | .ok payload =>
      if env.blacklist = true ∧ payload.jti ≠ "" then revoke redis payload.jti payload.exp
      else return ()

/-! ### What the calls do -/

section Calls

variable {env : AuthEnv} {before after : AuthState} {redis : RedisReply} {payload : TokenPayload}

theorem blacklistKey_ne_refreshKey (revoked consumed : String) :
    refreshKey consumed ≠ blacklistKey revoked := by
  intro same
  have letters := congrArg (fun text => text.toList[4]?) same
  simp [refreshKey, blacklistKey] at letters

/-- **The keys of rotations under a revocation.** It touches none of them. -/
theorem revoke_keeps {jti : String} {expiresAt : Int} {consumed : String} {instant : Timestamp} :
    (revoke redis jti expiresAt before).2.redis.Live instant (refreshKey consumed) ↔
      before.redis.Live instant (refreshKey consumed) := by
  cases redis with
  | unreached => exact Iff.rfl
  | answered => exact Store.live_set_of_ne (blacklistKey_ne_refreshKey jti consumed)
  | lost => exact Store.live_set_of_ne (blacklistKey_ne_refreshKey jti consumed)

/-- What a logout leaves as it was: the clock, the users and the keys of rotations. -/
structure KeepsRotations (before after : AuthState) : Prop where
  now : after.now = before.now
  users : after.users = before.users
  keys : ∀ instant jti, after.redis.Live instant (refreshKey jti) ↔
    before.redis.Live instant (refreshKey jti)

theorem logout_eq (token : env.jwt.Token) :
    logout env redis token before =
      match verifyRefreshToken env before.now token with
      | .error (.invalidToken _) => (.ok (), before)
      | .error failure => (.error failure, before)
      | .ok payload =>
          if env.blacklist = true ∧ payload.jti ≠ "" then
            revoke redis payload.jti payload.exp before
          else (.ok (), before) := by
  show (match verifyRefreshToken env before.now token with
    | .error (.invalidToken _) => pure ()
    | .error failure => Effect.raise failure
    | .ok payload =>
        if env.blacklist = true ∧ payload.jti ≠ "" then revoke redis payload.jti payload.exp
        else pure () : Effect AuthState AuthError Unit) before = _
  rcases verifyRefreshToken env before.now token with failure | payload
  · rcases failure with message | message | _ | text <;> rfl
  · by_cases revocable : env.blacklist = true ∧ payload.jti ≠ ""
    · simp only [if_pos revocable]
    · simp only [if_neg revocable]
      rfl

/-- **A logout touches nothing that a rotation reads.** -/
theorem logout_keeps (redis : RedisReply) (token : env.jwt.Token) (before : AuthState) :
    KeepsRotations before (logout env redis token before).2 := by
  have unchanged : KeepsRotations before before := ⟨rfl, rfl, fun _ _ => Iff.rfl⟩
  rw [logout_eq]
  split
  · exact unchanged
  · exact unchanged
  · split
    · rename_i found _
      refine ⟨?_, ?_, fun instant jti => revoke_keeps⟩
      · cases redis <;> rfl
      · cases redis <;> rfl
    · exact unchanged

/-- What every call leaves as it was: the users, and the keys of rotations until their deadlines. -/
structure KeepsKeys (before after : AuthState) : Prop where
  now : after.now = before.now
  users : after.users = before.users
  keys : ∀ instant jti, before.now ≤ instant → before.redis.Live instant (refreshKey jti) →
    after.redis.Live instant (refreshKey jti)

instance : Std.Refl KeepsKeys where
  refl _ := ⟨rfl, rfl, fun _ _ _ live => live⟩

instance : IsTrans AuthState KeepsKeys where
  trans _ _ _ start next :=
    ⟨next.now.trans start.now, next.users.trans start.users, fun instant jti later live =>
      next.keys instant jti (start.now ▸ later) (start.keys instant jti later live)⟩

theorem consumeRefreshToken_keeps {jti : String} {expiresAt : Int} :
    Effect.Keeps KeepsKeys (consumeRefreshToken redis jti expiresAt) := by
  intro state
  cases redis with
  | unreached => exact Std.Refl.refl state
  | answered => exact ⟨rfl, rfl, fun _ _ later live => Store.live_setIfAbsent live later⟩
  | lost => exact ⟨rfl, rfl, fun _ _ later live => Store.live_setIfAbsent live later⟩

theorem consumeOnce_keeps : Effect.Keeps KeepsKeys (consumeOnce env redis payload) := by
  unfold consumeOnce
  split
  · refine .bind consumeRefreshToken_keeps fun consumed => ?_
    split
    · exact .pure
    · exact .raise
  · exact .pure

/-- **A refresh call changes no user** and leaves the keys of rotations until their deadlines. -/
theorem refresh_keeps (accessJti refreshJti : Uuid) (token : env.jwt.Token) :
    Effect.Keeps KeepsKeys (refresh env redis accessJti refreshJti token) := by
  refine .bind .read fun now => ?_
  refine .bind .lift fun payload => ?_
  refine .bind .read fun users => ?_
  refine .bind .lift fun user => ?_
  exact .bind consumeOnce_keeps fun _ => .pure

theorem login_keeps (email password : String) (tenantId : Option String)
    (accessJti refreshJti : Uuid) :
    Effect.Keeps KeepsKeys (login env email password tenantId accessJti refreshJti) := by
  refine .bind .read fun found => ?_
  split
  · exact .raise
  · split
    · exact .raise
    · split
      · exact .raise
      · split
        · exact .raise
        · exact .bind .read fun now => .pure

theorem KeepsRotations.keepsKeys (kept : KeepsRotations before after) : KeepsKeys before after :=
  ⟨kept.now, kept.users, fun instant jti _ => (kept.keys instant jti).mpr⟩

/-! ### When a rotation goes through -/

theorem consumeRefreshToken_consumed {jti : String} (expiresAt : Int) :
    (∃ between, consumeRefreshToken redis jti expiresAt before = (.ok true, between)) ↔
      redis = .answered ∧ ¬ before.redis.Live before.now (refreshKey jti) := by
  rw [← Store.setIfAbsent_wrote (keptUntil before.now expiresAt)]
  cases redis with
  | answered => simp [consumeRefreshToken]
  | lost => simp [consumeRefreshToken]
  | unreached => simp [consumeRefreshToken]

/-- **The consume-once check.** With a blacklist and a `jti` it goes through exactly when the key of the
token is not there and Redis answers. -/
theorem consumeOnce_returns :
    (∃ after, consumeOnce env redis payload before = (.ok (), after)) ↔
      (env.blacklist = true ∧ payload.jti ≠ "" →
        redis = .answered ∧ ¬ before.redis.Live before.now (refreshKey payload.jti)) := by
  unfold consumeOnce
  split
  · rename_i checked
    rw [forall_prop_of_true checked, ← consumeRefreshToken_consumed payload.exp]
    constructor
    · rintro ⟨after, returned⟩
      obtain ⟨consumed, between, called, rest⟩ := Effect.bind_returned.mp returned
      split at rest
      · rename_i written
        exact ⟨between, written ▸ called⟩
      · exact (Effect.raise_returned.mp rest).elim
    · rintro ⟨between, called⟩
      exact ⟨between, Effect.bind_returned.mpr ⟨true, between, called, rfl⟩⟩
  · rename_i unchecked
    simp only [unchecked, false_implies, iff_true]
    exact ⟨before, rfl⟩

/-- **A refresh call returns** exactly when the token verifies, it names an active user, and the
consume-once check goes through. -/
theorem refresh_returns_iff {accessJti refreshJti : Uuid} {token : env.jwt.Token} :
    (∃ pair after, refresh env redis accessJti refreshJti token before = (.ok pair, after)) ↔
      ∃ payload user, verifyRefreshToken env before.now token = .ok payload ∧
        refreshingUser before.users payload = .ok user ∧
          (env.blacklist = true ∧ payload.jti ≠ "" →
            redis = .answered ∧ ¬ before.redis.Live before.now (refreshKey payload.jti)) := by
  constructor
  · rintro ⟨pair, after, returned⟩
    obtain ⟨now, between, clock, rest⟩ := Effect.bind_returned.mp returned
    cases clock
    obtain ⟨payload, between, decoded, rest⟩ := Effect.bind_returned.mp rest
    obtain ⟨verified, rfl⟩ := Effect.lift_returned.mp decoded
    obtain ⟨users, between, listed, rest⟩ := Effect.bind_returned.mp rest
    cases listed
    obtain ⟨user, between, found, rest⟩ := Effect.bind_returned.mp rest
    obtain ⟨named, rfl⟩ := Effect.lift_returned.mp found
    obtain ⟨_, between, passed, -⟩ := Effect.bind_returned.mp rest
    exact ⟨payload, user, verified, named, consumeOnce_returns.mp ⟨between, passed⟩⟩
  · rintro ⟨payload, user, verified, named, passes⟩
    obtain ⟨between, passed⟩ := consumeOnce_returns.mpr passes
    refine ⟨issueTokenPair env before.now user accessJti refreshJti, between, ?_⟩
    refine Effect.bind_returned.mpr ⟨before.now, before, rfl, ?_⟩
    refine Effect.bind_returned.mpr ⟨payload, before, Effect.lift_returned.mpr ⟨verified, rfl⟩, ?_⟩
    refine Effect.bind_returned.mpr ⟨before.users, before, rfl, ?_⟩
    refine Effect.bind_returned.mpr ⟨user, before, Effect.lift_returned.mpr ⟨named, rfl⟩, ?_⟩
    exact Effect.bind_returned.mpr ⟨(), between, passed, rfl⟩

theorem refreshingUser_eq_ok {table : UserTable} {user : User} :
    refreshingUser table payload = .ok user ↔
      user ∈ table.rows ∧ parseUuid payload.userId = some user.id ∧ user.isActive = true := by
  unfold refreshingUser
  cases parsed : parseUuid payload.userId with
  | none => simp
  | some id =>
      simp only [Option.some.injEq]
      constructor
      · intro found
        split at found
        · cases found
        · rename_i stored looked
          obtain ⟨inside, rfl⟩ := UserTable.getById_mem looked
          split at found
          · rename_i active
            cases found
            exact ⟨inside, rfl, active⟩
          · cases found
      · rintro ⟨inside, rfl, active⟩
        simp only [UserTable.getById_of_mem inside, active, if_true]

end Calls

end AuthService

end CosMonitor
