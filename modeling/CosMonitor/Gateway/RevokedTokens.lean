/-
**Revoked tokens at the gateway.**

The user service revokes a token by writing its `jti` to Redis, and the gateway asks Redis for it at every
authentication. `revoke` logs what it cannot write and returns, while `is_revoked` raises and `authenticate` then
rejects; a gateway without a blacklist, and a token without a `jti`, are not asked about at all.

* `isRevoked`, `authenticate`: the check, on the clock and the keys that the services share;
* `revocationSystem`: revocations, rotations and authentications in any order, each with its own reply of Redis;
* `authenticate_rejects_iff`: when every authentication of a token is rejected at an instant;
* `Barred`, `revocationStep_keeps`: what one call leaves of that until the token expires;
* `revoked_rejected_iff`: when a revocation that returned bars the token;
* `revoked_and_accepted`: one that did not reach Redis.
-/

import CosMonitor.Access.LogoutRuns
import CosMonitor.Foundation.Transition
import Mathlib.Tactic.Linarith

namespace CosMonitor

open Result Expiring Transition

/-! ### Authentication -/

/-- What the gateway takes from outside: the standard library, the tokens and how they are read from a text.
`blacklist` says whether it has one. -/
structure GatewayAuth where
  std : Stdlib
  jwt : JwtService
  readToken : String → jwt.Token
  blacklist : Bool

/-- The clock and the keys of Redis that the services share, and the counter of the gateway. -/
structure RevocationState extends AuthState where
  totalRejected401 : Nat

/-- `TokenBlacklist.is_revoked`: every failure of Redis refuses. -/
def isRevoked (redis : RedisReply) (jti : String) : Effect RevocationState AuthError Bool :=
  fun state =>
    if jti = "" then (.ok false, state)
    else
      match redis with
      | .answered => (.ok (decide (state.redis.Live state.now (blacklistKey jti))), state)
      | .lost | .unreached => (.error .securityControlUnavailable, state)

/-- The text behind `bearer` in an `Authorization` header, in any case. -/
def bearerText (header : String) : Option String :=
  if (header.toList.take 7).map Char.toLower = "bearer ".toList then
    some (String.ofList (stripChars (header.toList.drop 7)))
  else none

/-- Count rejections. -/
def RevocationState.rejected (state : RevocationState) (times : Nat) : RevocationState :=
  { state with totalRejected401 := state.totalRejected401 + times }

namespace GatewayAuth

variable (env : GatewayAuth)

/-- `JwtService.verify_access_token`. -/
def verifyAccessToken (now : Timestamp) (token : env.jwt.Token) : Except AuthError TokenPayload :=
  env.jwt.decodePayload env.std now .access token

/-- `GatewayService.authenticate`. The rejection of a revoked token is counted where it is raised, and again
where it is caught. -/
def authenticate (redis : RedisReply) (header : String) :
    Effect RevocationState AuthError TokenPayload :=
  fun state =>
    match bearerText header with
    | none => (.error (.invalidToken "missing bearer token"), state.rejected 1)
    | some text =>
        match env.verifyAccessToken state.now (env.readToken text) with
        | .error (.invalidToken message) => (.error (.invalidToken message), state.rejected 1)
        | .error failure => (.error failure, state)
        | .ok payload =>
            if env.blacklist = true ∧ payload.jti ≠ "" then
              match (isRevoked redis payload.jti state).1 with
              | .ok true => (.error (.invalidToken "token has been revoked"), state.rejected 2)
              | .ok false => (.ok payload, state)
              | .error .securityControlUnavailable =>
                  (.error (.invalidToken "security control unavailable; token cannot be verified"),
                    state.rejected 1)
              | .error failure => (.error failure, state)
            else (.ok payload, state)

/-! ### The system -/

/-- The calls on the keys of Redis, each with what becomes of its command, and the clock. -/
inductive RevocationCall where
  | elapse (time : Nat)
  | revoke (redis : RedisReply) (jti : String) (expiresAt : Int)
  | consume (redis : RedisReply) (jti : String) (expiresAt : Int)
  | authenticate (redis : RedisReply) (header : String)

/-- The state after a revocation. -/
def afterRevoke (redis : RedisReply) (jti : String) (expiresAt : Int) (state : RevocationState) :
    RevocationState :=
  { state with toAuthState := (CosMonitor.revoke redis jti expiresAt state.toAuthState).2 }

/-- The state after a call. -/
def afterRevocationCall (state : RevocationState) : RevocationCall → RevocationState
  | .elapse time => { state with now := state.now + time }
  | .revoke redis jti expiresAt => afterRevoke redis jti expiresAt state
  | .consume redis jti expiresAt =>
      { state with toAuthState := (consumeRefreshToken redis jti expiresAt state.toAuthState).2 }
  | .authenticate redis header => (env.authenticate redis header state).2

/-- The services around the blacklist, call by call. -/
def revocationSystem : System RevocationState RevocationCall where
  step state call := some (env.afterRevocationCall state call)

/-- A revocation of the token names its expiry, or a later instant. -/
def NamesExpiry (jti : String) (exp : Int) (_ : RevocationState) : RevocationCall → Prop
  | .revoke _ revoked expiresAt => revoked = jti → exp ≤ expiresAt
  | .elapse _ | .consume _ _ _ | .authenticate _ _ => True

/-- The header presents a token with this `jti` and this expiry, whenever it verifies. -/
def Presents (header : String) (jti : String) (exp : Int) : Prop :=
  ∃ text, bearerText header = some text ∧
    ∀ instant payload, env.verifyAccessToken instant (env.readToken text) = .ok payload →
      payload.jti = jti ∧ payload.exp = exp

/-- The token of the header verifies at an instant. -/
def Verifies (header : String) (instant : Timestamp) : Prop :=
  ∃ text payload, bearerText header = some text ∧
    env.verifyAccessToken instant (env.readToken text) = .ok payload

/-- Every authentication with the header is rejected, whatever Redis answers to its check. -/
def Rejects (header : String) (state : RevocationState) : Prop :=
  ∀ redis payload after, env.authenticate redis header state ≠ (.ok payload, after)

/-- Until the token expires, it does not verify or its key is there, and the gateway asks for it. -/
def Barred (header jti : String) (exp : Int) (state : RevocationState) : Prop :=
  ∀ instant, state.now ≤ instant → instant < exp * second → env.Verifies header instant →
    env.blacklist = true ∧ jti ≠ "" ∧ state.redis.Live instant (blacklistKey jti)

/-! ### One call -/

section Steps

variable {env} {header jti : String} {exp : Int} {state : RevocationState}

/-- **When every authentication is rejected at an instant.** -/
theorem authenticate_rejects_iff (presents : env.Presents header jti exp) :
    env.Rejects header state ↔
      (env.Verifies header state.now →
        env.blacklist = true ∧ jti ≠ "" ∧ state.redis.Live state.now (blacklistKey jti)) := by
  obtain ⟨text, isBearer, claims⟩ := presents
  constructor
  · rintro rejects ⟨other, payload, otherBearer, verified⟩
    rw [isBearer, Option.some.injEq] at otherBearer
    subst otherBearer
    obtain ⟨rfl, -⟩ := claims state.now payload verified
    by_contra passes
    refine rejects .answered payload state ?_
    unfold authenticate
    rw [isBearer]
    dsimp only
    rw [verified]
    dsimp only
    split
    · rename_i asked
      have absent : ¬state.redis.Live state.now (blacklistKey payload.jti) :=
        fun live => passes ⟨asked.1, asked.2, live⟩
      unfold isRevoked
      rw [if_neg asked.2, decide_eq_false absent]
    · rfl
  · intro barred redis payload after returned
    unfold authenticate at returned
    rw [isBearer] at returned
    dsimp only at returned
    rcases verified : env.verifyAccessToken state.now (env.readToken text) with failure | found
    · rw [verified] at returned
      cases failure <;> cases returned
    · obtain ⟨rfl, -⟩ := claims state.now found verified
      obtain ⟨configured, hasJti, live⟩ := barred ⟨text, found, isBearer, verified⟩
      rw [verified] at returned
      dsimp only at returned
      unfold isRevoked at returned
      rw [if_pos ⟨configured, hasJti⟩, if_neg hasJti, decide_eq_true live] at returned
      cases redis <;> cases returned

theorem exp_le_keptUntil (now : Timestamp) {expiresAt : Int} (covers : exp ≤ expiresAt) :
    exp * second ≤ keptUntil now expiresAt := by
  have floor : now / second * second ≤ now := Int.ediv_mul_le now (by decide)
  have longest : (expiresAt - now / second) * second ≤ max (expiresAt - now / second) 60 * second :=
    Int.mul_le_mul_of_nonneg_right (le_max_left _ _) (by decide)
  have scaled : exp * second ≤ expiresAt * second := Int.mul_le_mul_of_nonneg_right covers (by decide)
  unfold keptUntil
  rw [Int.sub_mul] at longest
  linarith

theorem blacklistKey_injective {revoked : String} (same : blacklistKey jti = blacklistKey revoked) :
    jti = revoked := by
  have texts := congrArg String.toList same
  unfold blacklistKey at texts
  rw [String.toList_append, String.toList_append] at texts
  exact String.toList_injective (List.append_cancel_left texts)

/-- **A revocation that names the expiry keeps the key until then.** -/
theorem live_revoke {redis : RedisReply} {revoked : String} {expiresAt instant : Int}
    (names : revoked = jti → exp ≤ expiresAt) (early : instant < exp * second)
    (live : state.redis.Live instant (blacklistKey jti)) :
    (afterRevoke redis revoked expiresAt state).redis.Live instant (blacklistKey jti) := by
  have written : (state.redis.set (blacklistKey revoked) (keptUntil state.now expiresAt)).Live instant
      (blacklistKey jti) := by
    by_cases same : revoked = jti
    · subst same
      exact Store.live_iff.mpr ⟨_, Function.update_self _ _ _,
        lt_of_lt_of_le early (exp_le_keptUntil state.now (names rfl))⟩
    · exact (Store.live_set_of_ne fun keys => same (blacklistKey_injective keys).symm).mpr live
  cases redis with
  | unreached => exact live
  | answered => exact written
  | lost => exact written

theorem authenticate_keeps (redis : RedisReply) (header : String) (state : RevocationState) :
    (env.authenticate redis header state).2.toAuthState = state.toAuthState := by
  unfold authenticate
  repeat' split
  all_goals rfl

theorem live_consume {redis : RedisReply} {consumed : String} {expiresAt instant : Int}
    (live : state.redis.Live instant (blacklistKey jti)) (later : state.now ≤ instant) :
    (consumeRefreshToken redis consumed expiresAt state.toAuthState).2.redis.Live instant
      (blacklistKey jti) := by
  cases redis with
  | unreached => exact live
  | answered => exact Store.live_setIfAbsent live later
  | lost => exact Store.live_setIfAbsent live later

theorem consume_now (redis : RedisReply) (consumed : String) (expiresAt : Int) (state : AuthState) :
    (consumeRefreshToken redis consumed expiresAt state).2.now = state.now := by
  cases redis <;> rfl

theorem revoke_now (redis : RedisReply) (revoked : String) (expiresAt : Int) (state : RevocationState) :
    (afterRevoke redis revoked expiresAt state).now = state.now := by
  cases redis <;> rfl

/-- **A barred token stays barred**, whatever call comes next. -/
theorem revocationStep_keeps {call : RevocationCall} (barred : env.Barred header jti exp state)
    (names : NamesExpiry jti exp state call) :
    env.Barred header jti exp (env.afterRevocationCall state call) := by
  intro instant later early verifies
  cases call with
  | elapse time =>
      have waited : state.now ≤ instant :=
        (Int.le_add_of_nonneg_right (Int.natCast_nonneg time)).trans later
      exact barred instant waited early verifies
  | revoke redis revoked expiresAt =>
      have now := revoke_now redis revoked expiresAt state
      obtain ⟨configured, hasJti, live⟩ := barred instant (now.ge.trans later) early verifies
      exact ⟨configured, hasJti, live_revoke names early live⟩
  | consume redis consumed expiresAt =>
      have now := consume_now redis consumed expiresAt state.toAuthState
      have since : state.now ≤ instant := now.ge.trans later
      obtain ⟨configured, hasJti, live⟩ := barred instant since early verifies
      exact ⟨configured, hasJti, live_consume live since⟩
  | authenticate redis header =>
      have kept : (env.authenticate redis header state).2.toAuthState = state.toAuthState :=
        authenticate_keeps redis header state
      have since : state.now ≤ instant := (congrArg AuthState.now kept).ge.trans later
      obtain ⟨configured, hasJti, live⟩ := barred instant since early verifies
      refine ⟨configured, hasJti, ?_⟩
      show (env.authenticate redis header state).2.toAuthState.redis.Live instant (blacklistKey jti)
      rw [kept]
      exact live

end Steps

/-! ### Runs -/

section Runs

variable {env} {header jti : String} {exp : Int} {state : RevocationState}

/-- **The states from which every run rejects the token until it expires.** -/
theorem rejects_always_iff (presents : env.Presents header jti exp) :
    (∀ later, env.revocationSystem.Reachable (NamesExpiry jti exp) state later →
        later.now < exp * second → env.Rejects header later) ↔
      env.Barred header jti exp state := by
  constructor
  · intro rejects instant later early
    -- Let the time pass until the instant. Nothing else changes.
    obtain ⟨time, passed⟩ := Int.eq_ofNat_of_zero_le (Int.sub_nonneg_of_le later)
    have waited : env.revocationSystem.Reachable (NamesExpiry jti exp) state { state with now := instant } := by
      refine Relation.ReflTransGen.single ⟨.elapse time, trivial, ?_⟩
      show some { state with now := state.now + time } = _
      rw [← passed, add_sub_cancel]
    exact (authenticate_rejects_iff presents).mp (rejects _ waited early)
  · intro barred later reached early
    have stays : env.Barred header jti exp later := by
      refine reached.invariant barred fun before call after barred names stepped => ?_
      obtain rfl := Option.some.inj stepped
      exact revocationStep_keeps barred names
    exact (authenticate_rejects_iff presents).mpr (stays later.now le_rfl early)

theorem barred_afterRevoke_iff {redis : RedisReply} {before : RevocationState} :
    env.Barred header jti exp (afterRevoke redis jti exp before) ↔
      ∀ instant, before.now ≤ instant → instant < exp * second → env.Verifies header instant →
        env.blacklist = true ∧ jti ≠ "" ∧
          (redis ≠ .unreached ∨ before.redis.Live instant (blacklistKey jti)) := by
  unfold Barred
  rw [revoke_now]
  refine forall_congr' fun instant => forall_congr' fun later => forall_congr' fun early =>
    forall_congr' fun verifies => and_congr_right fun configured => and_congr_right fun hasJti => ?_
  have written : (before.redis.set (blacklistKey jti) (keptUntil before.now exp)).Live instant
      (blacklistKey jti) :=
    Store.live_iff.mpr ⟨_, Function.update_self _ _ _,
      lt_of_lt_of_le early (exp_le_keptUntil before.now le_rfl)⟩
  cases redis with
  | unreached =>
      constructor
      · exact .inr
      · rintro (reached | live)
        · exact absurd rfl reached
        · exact live
  | answered => exact iff_of_true written (.inl (by decide))
  | lost => exact iff_of_true written (.inl (by decide))

/-- **When a revocation that returned bars the token.** In every run after it, under every pattern of failures,
each authentication before the expiry is rejected, exactly if, as long as the token would verify, the gateway has a
blacklist, the token has a `jti`, and the write of the revocation reached Redis or the key is there from before. -/
theorem revoked_rejected_iff (presents : env.Presents header jti exp) (redis : RedisReply)
    (before : RevocationState) :
    (∀ later, env.revocationSystem.Reachable (NamesExpiry jti exp) (afterRevoke redis jti exp before) later →
        later.now < exp * second → env.Rejects header later) ↔
      ∀ instant, before.now ≤ instant → instant < exp * second → env.Verifies header instant →
        env.blacklist = true ∧ jti ≠ "" ∧
          (redis ≠ .unreached ∨ before.redis.Live instant (blacklistKey jti)) := by
  rw [rejects_always_iff presents, barred_afterRevoke_iff]

end Runs

/-! ### A revocation that bars nothing -/

/-- An access token of a user, good for a quarter of an hour. -/
def accessToken : Json :=
  AuthService.plainJwt.createAccessToken 0 11 AuthService.loggedInUser

/-- What it verifies to until then. -/
def accessPayload : TokenPayload :=
  { AuthService.loginPayload with tokenType := "access", exp := 900 }

/-- A gateway with a blacklist, before which the token is presented. -/
def plainGateway : GatewayAuth where
  std := Stdlib.constant
  jwt := AuthService.plainJwt
  readToken := fun text => if text = "token" then accessToken else Json.null
  blacklist := true

/-- The services at the start, with no key in Redis. -/
def freshServices : RevocationState where
  toAuthState := AuthService.oneUser AuthService.loggedInUser
  totalRejected401 := 0

theorem accessToken_good :
    plainGateway.verifyAccessToken 0 (plainGateway.readToken "token") = .ok accessPayload := by
  decide +kernel

theorem accessToken_verifies (instant : Timestamp) (payload : TokenPayload)
    (verified : plainGateway.verifyAccessToken instant (plainGateway.readToken "token") = .ok payload) :
    payload = accessPayload := by
  have atStart := accessToken_good
  have decoded : plainGateway.jwt.decode instant (plainGateway.readToken "token") = none ∨
      plainGateway.jwt.decode instant (plainGateway.readToken "token") =
        plainGateway.jwt.decode 0 (plainGateway.readToken "token") := by
    have good : plainGateway.jwt.decode 0 (plainGateway.readToken "token") = some accessToken := rfl
    rw [good]
    exact (ite_eq_or_eq _ (some accessToken) none).symm
  unfold verifyAccessToken JwtService.decodePayload at verified atStart
  rcases decoded with expired | good
  · rw [expired] at verified
    cases verified
  · rw [good] at verified
    exact Except.ok.inj (verified.symm.trans atStart)

theorem plainGateway_presents : plainGateway.Presents "Bearer token" (uuidText 11) 900 := by
  refine ⟨"token", by decide +kernel, fun instant payload verified => ?_⟩
  rw [accessToken_verifies instant payload verified]
  exact ⟨rfl, rfl⟩

/-- A revocation that reached Redis bars the token, in every run and whatever Redis does later. -/
theorem revoked_rejected_lost :
    plainGateway.Verifies "Bearer token" freshServices.now ∧
    ∀ later, plainGateway.revocationSystem.Reachable (NamesExpiry (uuidText 11) 900)
        (afterRevoke .lost (uuidText 11) 900 freshServices) later →
      later.now < 900 * second → plainGateway.Rejects "Bearer token" later := by
  refine ⟨⟨"token", accessPayload, by decide +kernel, accessToken_good⟩, ?_⟩
  refine (revoked_rejected_iff plainGateway_presents .lost freshServices).mpr ?_
  intro instant _ _ _
  exact ⟨rfl, by decide, .inl (by decide)⟩

/-- **A revocation that did not reach Redis returns**, and the token is accepted as soon as Redis answers. -/
theorem revoked_and_accepted :
    (CosMonitor.revoke .unreached (uuidText 11) 900 freshServices.toAuthState).1.toOption = some () ∧
      freshServices.now < 900 * second ∧
      (plainGateway.authenticate .answered "Bearer token"
        (afterRevoke .unreached (uuidText 11) 900 freshServices)).1.toOption = some accessPayload := by
  decide +kernel

end GatewayAuth

end CosMonitor
