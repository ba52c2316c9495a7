/-
**Runs of the auth service after a logout.**

A logout writes the blacklist key of its token, and no rotation reads it. What refuses a token after its
logout is what refused it before: its user, or the key of an earlier rotation.

* `rejected_iff`: the states in which every refresh call with a token is rejected;
* `authStep_keeps`, `authStep_inactive`: one call leaves the keys of rotations and revives no user;
* `logout_final_iff`: a logout is final exactly for the tokens that were spent before it;
* `refresh_after_logout`: a login, a logout and a refresh call that returns a new pair.
-/

import CosMonitor.Access.AuthService
import CosMonitor.Foundation.Transition

namespace CosMonitor

open Result Expiring Table Transition

namespace AuthService

/-! ### The system -/

/-- The calls of the service, with the failures of Redis and the fresh `uuid4`, and the clock. -/
inductive AuthCall (env : AuthEnv) where
  | elapse (time : Nat)
  | login (email password : String) (tenantId : Option String) (accessJti refreshJti : Uuid)
  | refresh (redis : RedisReply) (accessJti refreshJti : Uuid) (token : env.jwt.Token)
  | logout (redis : RedisReply) (token : env.jwt.Token)
  | users (call : UserCall)

/-- The state after a call; what a call wrote before it raised stays written. -/
def afterAuthCall (env : AuthEnv) (state : AuthState) : AuthCall env → AuthState
  | .elapse time => { state with now := state.now + time }
  | .login email password tenantId accessJti refreshJti =>
      (login env email password tenantId accessJti refreshJti state).2
  | .refresh redis accessJti refreshJti token => (refresh env redis accessJti refreshJti token state).2
  | .logout redis token => (logout env redis token state).2
  | .users call => { state with users := afterCall env.users state.users call }

/-- The auth service, call by call. -/
def authSystem (env : AuthEnv) : System AuthState (AuthCall env) where
  step state call := some (afterAuthCall env state call)

/-- The id of the user that a call may create. -/
def createdUser {env : AuthEnv} : AuthCall env → Option Uuid
  | .users call => call.newId
  | _ => none

/-- Every refresh call with the token is rejected, whatever Redis does. -/
def Rejected (env : AuthEnv) (state : AuthState) (token : env.jwt.Token) : Prop :=
  ∀ redis accessJti refreshJti pair after,
    refresh env redis accessJti refreshJti token state ≠ (.ok pair, after)

/-- **Logout is final.** After a logout that returned for a token that verified, the token is rejected in
every state that the service reaches. -/
def LogoutFinal (env : AuthEnv) : Prop :=
  ∀ before redis token payload after, verifyRefreshToken env before.now token = .ok payload →
    logout env redis token before = (.ok (), after) →
      ∀ later, (authSystem env).Reachable (fun _ _ => True) after later → Rejected env later token

/-! ### Spent tokens -/

/-- What a refresh call would find at an instant: no active user, or the key of an earlier rotation. -/
def SpentAt (state : AuthState) (payload : TokenPayload) (instant : Timestamp) : Prop :=
  (∀ id, parseUuid payload.userId = some id → state.users.Inactive id) ∨
    (payload.jti ≠ "" ∧ state.redis.Live instant (refreshKey payload.jti))

/-- A token that is spent at every instant at which it still verifies. -/
def Spent (env : AuthEnv) (state : AuthState) (token : env.jwt.Token) : Prop :=
  ∀ instant payload, state.now ≤ instant → verifyRefreshToken env instant token = .ok payload →
    SpentAt state payload instant

/-- The token names a user id at some instant at which it verifies. -/
def Names (env : AuthEnv) (token : env.jwt.Token) (id : Uuid) : Prop :=
  ∃ instant payload, verifyRefreshToken env instant token = .ok payload ∧
    parseUuid payload.userId = some id

/-- The `uuid4` of a new user is not the id that the token names. -/
def FreshUser (env : AuthEnv) (token : env.jwt.Token) (_ : AuthState) (call : AuthCall env) : Prop :=
  ∀ id, createdUser call = some id → ¬ Names env token id

section Steps

variable {env : AuthEnv} {state before after : AuthState} {token : env.jwt.Token}

/-- **The states that reject a token.** -/
theorem rejected_iff (configured : env.blacklist = true) :
    Rejected env state token ↔
      ∀ payload, verifyRefreshToken env state.now token = .ok payload →
        SpentAt state payload state.now := by
  constructor
  · intro rejected payload verified
    by_contra unspent
    rw [SpentAt, not_or] at unspent
    obtain ⟨named, unconsumed⟩ := unspent
    simp only [UserTable.Inactive] at named
    push Not at named unconsumed
    obtain ⟨id, parsed, user, inside, rfl, active⟩ := named
    have passes : ∃ pair after, refresh env .answered 0 0 token state = (.ok pair, after) := by
      refine refresh_returns_iff.mpr ⟨payload, user, verified, ?_, ?_⟩
      · exact refreshingUser_eq_ok.mpr ⟨inside, parsed, by simpa using active⟩
      · exact fun checked => ⟨rfl, unconsumed checked.2⟩
    obtain ⟨pair, after, returned⟩ := passes
    exact rejected .answered 0 0 pair after returned
  · intro spent redis accessJti refreshJti pair after returned
    obtain ⟨payload, user, verified, named, passes⟩ := refresh_returns_iff.mp ⟨pair, after, returned⟩
    obtain ⟨inside, parsed, active⟩ := refreshingUser_eq_ok.mp named
    rcases spent payload verified with inactive | ⟨hasJti, consumed⟩
    · rw [inactive user.id parsed user inside rfl] at active
      cases active
    · exact (passes ⟨configured, hasJti⟩).2 consumed

theorem authStep_keeps (state : AuthState) (call : AuthCall env) :
    state.now ≤ (afterAuthCall env state call).now ∧
      ∀ instant jti, (afterAuthCall env state call).now ≤ instant →
        state.redis.Live instant (refreshKey jti) →
          (afterAuthCall env state call).redis.Live instant (refreshKey jti) := by
  have ofCall : ∀ {next : AuthState}, KeepsKeys state next → state.now ≤ next.now ∧
      ∀ instant jti, next.now ≤ instant → state.redis.Live instant (refreshKey jti) →
        next.redis.Live instant (refreshKey jti) := fun kept =>
    ⟨kept.now.ge, fun instant jti later live => kept.keys instant jti (kept.now ▸ later) live⟩
  cases call with
  | elapse time =>
      refine ⟨?_, fun _ _ _ live => live⟩
      show state.now ≤ state.now + time
      exact Int.le_add_of_nonneg_right (Int.natCast_nonneg time)
  | login email password tenantId accessJti refreshJti =>
      exact ofCall (login_keeps email password tenantId accessJti refreshJti state)
  | refresh redis accessJti refreshJti token =>
      exact ofCall (refresh_keeps accessJti refreshJti token state)
  | logout redis token =>
      exact ofCall (logout_keeps redis token state).keepsKeys
  | users call => exact ⟨le_rfl, fun _ _ _ live => live⟩

theorem authStep_inactive {call : AuthCall env} {id : Uuid} (inactive : state.users.Inactive id)
    (fresh : createdUser call ≠ some id) : (afterAuthCall env state call).users.Inactive id := by
  cases call with
  | elapse time => exact inactive
  | login email password tenantId accessJti refreshJti =>
      rw [afterAuthCall, (login_keeps email password tenantId accessJti refreshJti state).users]
      exact inactive
  | refresh redis accessJti refreshJti token =>
      rw [afterAuthCall, (refresh_keeps accessJti refreshJti token state).users]
      exact inactive
  | logout redis token =>
      rw [afterAuthCall, (logout_keeps redis token state).users]
      exact inactive
  | users call => exact afterCall_inactive inactive fresh

theorem spent_stays {later : AuthState} (spent : Spent env state token)
    (reached : (authSystem env).Reachable (FreshUser env token) state later) :
    Spent env later token := by
  have kept : ∀ (before : AuthState) (call : AuthCall env) (after : AuthState),
      Spent env before token → FreshUser env token before call →
        (authSystem env).step before call = some after → Spent env after token := by
    intro before call after spent fresh stepped
    obtain rfl := Option.some.inj stepped
    obtain ⟨forward, keeps⟩ := authStep_keeps before call
    intro instant payload later verified
    rcases spent instant payload (forward.trans later) verified with inactive | ⟨hasJti, consumed⟩
    · refine .inl fun id parsed => authStep_inactive (inactive id parsed) fun created => ?_
      exact fresh id created ⟨instant, payload, verified, parsed⟩
    · exact .inr ⟨hasJti, keeps instant payload.jti later consumed⟩
  exact reached.invariant spent kept

theorem spent_logout_iff {redis : RedisReply}
    (loggedOut : logout env redis token before = (.ok (), after)) :
    Spent env after token ↔ Spent env before token := by
  have kept : KeepsRotations before after := by
    have left := logout_keeps redis token before
    rwa [loggedOut] at left
  simp only [Spent, SpentAt, kept.now, kept.users, kept.keys]

theorem spent_of_rejected (configured : env.blacklist = true)
    (rejected : ∀ later, (authSystem env).Reachable (FreshUser env token) state later →
      Rejected env later token) : Spent env state token := by
  intro instant payload later verified
  -- Let the time pass until the instant. Nothing else changes.
  obtain ⟨time, passed⟩ := Int.eq_ofNat_of_zero_le (Int.sub_nonneg_of_le later)
  have waited : (authSystem env).Reachable (FreshUser env token) state { state with now := instant } := by
    refine Relation.ReflTransGen.single ⟨.elapse time, fun id created => ?_, ?_⟩
    · cases created
    · show some { state with now := state.now + time } = _
      rw [← passed, add_sub_cancel]
  exact (rejected_iff configured).mp (rejected _ waited) payload verified

/-- **When a logout is final.** After a logout that returned, the token is rejected in every state that
the service reaches, exactly if it was spent before the logout. -/
theorem logout_final_iff {redis : RedisReply} (configured : env.blacklist = true)
    (loggedOut : logout env redis token before = (.ok (), after)) :
    (∀ later, (authSystem env).Reachable (FreshUser env token) after later →
      Rejected env later token) ↔ Spent env before token := by
  rw [← spent_logout_iff loggedOut]
  constructor
  · exact spent_of_rejected configured
  · intro spent later reached
    refine (rejected_iff configured).mpr fun payload verified => ?_
    exact spent_stays spent reached later.now payload le_rfl verified

end Steps

/-! ### A logout that is not final -/

/-- Tokens that are their claims, and verify until they expire. -/
def plainJwt : JwtService where
  Token := Json
  sign := fun claims => claims
  decode now claims :=
    if (MachineJwtService.expClaim claims).any fun exp => now / second ≤ exp then some claims else none
  accessExpireMinutes := 15
  refreshExpireDays := 7
  issuer := none
  audience := none

/-- A service with a blacklist. Every password is its own hash. -/
def plainAuth : AuthEnv where
  std := Stdlib.constant
  jwt := plainJwt
  users := twoTenants
  verifyPassword := fun password passwordHash => password == passwordHash
  blacklist := true

/-- A viewer of tenant 1. -/
def loggedInUser : User where
  id := 5
  tenantId := 1
  email := "user@example.org"
  passwordHash := "secret"
  name := none
  role := .viewer
  isActive := true
  createdAt := 0
  updatedAt := 0

/-- One user, and no key in Redis. -/
def oneUser (user : User) : AuthState where
  now := 0
  users := {
    rows := [user]
    idUnique := uniqueOn_append.mpr ⟨uniqueOn_nil, nofun⟩
    emailUnique := uniqueOn_append.mpr ⟨uniqueOn_nil, nofun⟩ }
  redis := .empty

/-- The refresh token of a login of the user. -/
def loginToken : Json :=
  plainJwt.createRefreshToken 0 11 loggedInUser

/-- What it verifies to, within a week of the login. -/
def loginPayload : TokenPayload where
  userId := uuidText 5
  tenantId := uuidText 1
  email := "user@example.org"
  role := "viewer"
  tokenType := "refresh"
  exp := 604800
  jti := uuidText 11
  installationId := ""

/-- The service after a logout with the token of the login. -/
def afterLogout (user : User) : AuthState :=
  (logout plainAuth .answered loginToken (oneUser user)).2

theorem logout_returns (user : User) :
    logout plainAuth .answered loginToken (oneUser user) = (.ok (), afterLogout user) := by
  rfl

theorem loginToken_verifies : verifyRefreshToken plainAuth 0 loginToken = .ok loginPayload := by
  decide +kernel

/-- **A logout that is not final.** The user logs in and out, with Redis up all the time, and the refresh
token of the login still buys a new pair. -/
theorem refresh_after_logout :
    plainAuth.blacklist = true ∧
      (login plainAuth "user@example.org" "secret" none 10 11 (oneUser loggedInUser)).1.toOption.map
        TokenPair.refreshToken = some loginToken ∧ ¬ LogoutFinal plainAuth := by
  refine ⟨rfl, rfl, fun final => ?_⟩
  have rejected := final (oneUser loggedInUser) .answered loginToken loginPayload
    (afterLogout loggedInUser) loginToken_verifies (logout_returns loggedInUser) _ .refl
  have refreshed : ∃ pair after, refresh plainAuth .answered 12 13 loginToken
      (afterLogout loggedInUser) = (.ok pair, after) := by
    refine refresh_returns_iff.mpr ⟨loginPayload, loggedInUser, loginToken_verifies, ?_, fun _ => ?_⟩
    · decide +kernel
    · exact ⟨rfl, by decide +kernel⟩
  obtain ⟨pair, after, returned⟩ := refreshed
  exact rejected .answered 12 13 pair after returned

/-- The token of a user that was deactivated before the logout is rejected in every later state. -/
theorem logout_final_deactivated :
    verifyRefreshToken plainAuth 0 loginToken = .ok loginPayload ∧
      ∀ later, (authSystem plainAuth).Reachable (FreshUser plainAuth loginToken)
        (afterLogout { loggedInUser with isActive := false }) later →
          Rejected plainAuth later loginToken := by
  refine ⟨loginToken_verifies, ?_⟩
  refine (logout_final_iff rfl (logout_returns _)).mpr fun instant payload _ _ => ?_
  refine .inl fun id _ user member _ => ?_
  obtain rfl := List.mem_singleton.mp member
  rfl

end AuthService

end CosMonitor
