/-
**What a refresh call does to the keys of the other tokens.**

A refresh call consumes at most the key of the token that it was given, and the pair that it returns carries the
`uuid4` of the call. So the tokens of a user are told apart by the `jti` that they carry.

* `refresh_cases`: a refresh call, without its monad;
* `refresh_spends`: the keys that a refresh call writes;
* `refresh_failed`: a refresh call that fails changes nothing, unless the reply of Redis was lost;
* `login_cases`: a login, without its monad;
* `Unspent.returns`, `Unspent.no_replay`: what a refresh call makes of a token whose key is not there.
-/

import CosMonitor.Access.AuthService

namespace CosMonitor

open Result Expiring

namespace AuthService

/-- The token verifies at some instant to a payload with the `jti`. -/
def Carries (env : AuthEnv) (token : env.jwt.Token) (jti : String) : Prop :=
  ∃ instant payload, verifyRefreshToken env instant token = .ok payload ∧ payload.jti = jti

/-- The key of the token is not there. -/
def Unspent (env : AuthEnv) (state : AuthState) (token : env.jwt.Token) : Prop :=
  ∀ jti, Carries env token jti → ¬ state.redis.Live state.now (refreshKey jti)

/-- The tokens carry no common `jti`. -/
def Apart (env : AuthEnv) (one other : env.jwt.Token) : Prop :=
  ∀ jti, Carries env one jti → ¬ Carries env other jti

/-- The claims that the library finds in a token are those that it has signed. -/
def ReadsItsOwn (jwt : JwtService) : Prop :=
  ∀ instant claims found, jwt.decode instant (jwt.sign claims) = some found → found = claims

/-- What a refresh call with a consumed token raises. -/
def replayDetected : AuthError :=
  .authentication "refresh token has already been used (replay detected)"

section Rotation

variable {env : AuthEnv} {redis : RedisReply} {payload : TokenPayload} {before after : AuthState}
  {token other : env.jwt.Token} {jti : String} {accessJti refreshJti : Uuid}

theorem refreshKey_injective : Function.Injective refreshKey := by
  intro one other same
  have letters : "jwt:refresh:".toList ++ one.toList = "jwt:refresh:".toList ++ other.toList := by
    rw [← String.toList_append, ← String.toList_append]
    exact congrArg String.toList same
  exact String.toList_injective (List.append_cancel_left letters)

/-! ### The consume-once check -/

/-- **The consume-once check, case by case.** -/
theorem consumeOnce_cases (env : AuthEnv) (redis : RedisReply) (payload : TokenPayload) (before : AuthState) :
    consumeOnce env redis payload before = (.ok (), before) ∧ ¬ (env.blacklist = true ∧ payload.jti ≠ "") ∨
    consumeOnce env redis payload before = (.error replayDetected, before) ∧
      before.redis.Live before.now (refreshKey payload.jti) ∨
    (∃ last, consumeOnce env redis payload before =
      (.ok (), { before with redis := before.redis.set (refreshKey payload.jti) last })) ∨
    redis = .lost ∧ (∃ last, consumeOnce env redis payload before = (.error .securityControlUnavailable,
      { before with redis := (before.redis.setIfAbsent before.now (refreshKey payload.jti) last).2 })) ∨
    consumeOnce env redis payload before = (.error .securityControlUnavailable, before) := by
  unfold consumeOnce
  by_cases checked : env.blacklist = true ∧ payload.jti ≠ ""
  · rw [if_pos checked]
    cases redis with
    | unreached => exact .inr (.inr (.inr (.inr rfl)))
    | lost => exact .inr (.inr (.inr (.inl ⟨rfl, _, rfl⟩)))
    | answered =>
        by_cases live : before.redis.Live before.now (refreshKey payload.jti)
        · have consumed : consumeRefreshToken .answered payload.jti payload.exp before = (.ok false, before) := by
            simp only [consumeRefreshToken, Store.setIfAbsent, if_pos live]
          refine .inr (.inl ⟨?_, live⟩)
          rw [Effect.bind_ran consumed]
          rfl
        · let last := keptUntil before.now payload.exp
          have consumed : consumeRefreshToken .answered payload.jti payload.exp before =
              (.ok true, { before with redis := before.redis.set (refreshKey payload.jti) last }) := by
            simp only [consumeRefreshToken, Store.setIfAbsent, if_neg live, last]
          refine .inr (.inr (.inl ⟨last, ?_⟩))
          rw [Effect.bind_ran consumed]
          rfl
  · rw [if_neg checked]
    exact .inl ⟨rfl, checked⟩

theorem consumeOnce_spends {instant : Timestamp}
    (live : (consumeOnce env redis payload before).2.redis.Live instant (refreshKey jti)) :
    before.redis.Live instant (refreshKey jti) ∨ jti = payload.jti := by
  by_cases own : jti = payload.jti
  · exact .inr own
  · have apart : refreshKey jti ≠ refreshKey payload.jti := fun same => own (refreshKey_injective same)
    rcases consumeOnce_cases env redis payload before with ⟨same, -⟩ | ⟨same, -⟩ | ⟨last, same⟩ |
      ⟨-, last, same⟩ | same
    · rw [same] at live
      exact .inl live
    · rw [same] at live
      exact .inl live
    · rw [same] at live
      exact .inl ((Store.live_set_of_ne apart).mp live)
    · rw [same] at live
      dsimp only [Store.setIfAbsent] at live
      split at live
      · exact .inl live
      · exact .inl ((Store.live_set_of_ne apart).mp live)
    · rw [same] at live
      exact .inl live

/-! ### Refresh calls -/

/-- **A refresh call** fails before the consume-once check, or gives what the check gives, with a pair. -/
theorem refresh_cases (env : AuthEnv) (redis : RedisReply) (accessJti refreshJti : Uuid) (token : env.jwt.Token)
    (before : AuthState) :
    (∃ failure, failure ≠ replayDetected ∧
      refresh env redis accessJti refreshJti token before = (.error failure, before)) ∨
    ∃ payload user, verifyRefreshToken env before.now token = .ok payload ∧
      refreshingUser before.users payload = .ok user ∧
      refresh env redis accessJti refreshJti token before =
        ((consumeOnce env redis payload before).1.map fun _ =>
            issueTokenPair env before.now user accessJti refreshJti,
          (consumeOnce env redis payload before).2) := by
  rcases verified : verifyRefreshToken env before.now token with failure | payload
  · refine .inl ⟨failure, ?_, ?_⟩
    · rintro rfl
      unfold verifyRefreshToken JwtService.decodePayload at verified
      split at verified
      · cases verified
      · split at verified
        · cases verified
        · split at verified <;> cases verified
    · unfold refresh
      rw [Effect.read_bind, verified]
      rfl
  · rcases named : refreshingUser before.users payload with failure | user
    · refine .inl ⟨failure, ?_, ?_⟩
      · rintro rfl
        unfold refreshingUser at named
        split at named
        · cases named
        · split at named
          · exact absurd named (by decide)
          · split at named
            · cases named
            · exact absurd named (by decide)
      · unfold refresh
        rw [Effect.read_bind, verified, Effect.lift_ok_bind, Effect.read_bind, named]
        rfl
    · refine .inr ⟨payload, user, rfl, named, ?_⟩
      unfold refresh
      rw [Effect.read_bind, verified, Effect.lift_ok_bind, Effect.read_bind, named, Effect.lift_ok_bind]
      rcases ran : consumeOnce env redis payload before with ⟨failure | _, between⟩
      · rw [Effect.bind_raised ran]
        rfl
      · rw [Effect.bind_ran ran]
        rfl

/-- **A refresh call writes at most the key of its token.** -/
theorem refresh_spends {instant : Timestamp}
    (live : (refresh env redis accessJti refreshJti token before).2.redis.Live instant (refreshKey jti)) :
    before.redis.Live instant (refreshKey jti) ∨ Carries env token jti := by
  rcases refresh_cases env redis accessJti refreshJti token before with ⟨failure, -, ran⟩ |
    ⟨payload, user, verified, -, ran⟩
  · rw [ran] at live
    exact .inl live
  · rw [ran] at live
    rcases consumeOnce_spends live with old | own
    · exact .inl old
    · exact .inr ⟨before.now, payload, verified, own.symm⟩

/-- **A refresh call that fails changes nothing**, unless the reply of Redis was lost. -/
theorem refresh_failed {failure : AuthError} (reaches : redis ≠ .lost)
    (ran : refresh env redis accessJti refreshJti token before = (.error failure, after)) : after = before := by
  rcases refresh_cases env redis accessJti refreshJti token before with ⟨failure, -, same⟩ |
    ⟨payload, user, -, -, same⟩
  · rw [same] at ran
    cases ran
    rfl
  · rw [same] at ran
    rcases consumeOnce_cases env redis payload before with ⟨checked, -⟩ | ⟨checked, -⟩ | ⟨last, checked⟩ |
      ⟨lost, -⟩ | checked
    · rw [checked] at ran
      cases ran
    · rw [checked] at ran
      cases ran
      rfl
    · rw [checked] at ran
      cases ran
    · exact absurd lost reaches
    · rw [checked] at ran
      cases ran
      rfl

theorem refresh_returned {pair : TokenPair env}
    (ran : refresh env redis accessJti refreshJti token before = (.ok pair, after)) :
    ∃ user, pair = issueTokenPair env before.now user accessJti refreshJti := by
  rcases refresh_cases env redis accessJti refreshJti token before with ⟨failure, -, same⟩ |
    ⟨payload, user, -, -, same⟩
  · rw [same] at ran
    cases ran
  · refine ⟨user, ?_⟩
    rw [same] at ran
    rcases checked : (consumeOnce env redis payload before).1 with failure | _
    · rw [checked] at ran
      cases ran
    · rw [checked] at ran
      cases ran
      rfl

/-- **A login** changes nothing, and the pair that it returns is a new one. -/
theorem login_cases (env : AuthEnv) (email password : String) (tenantId : Option String)
    (accessJti refreshJti : Uuid) (before : AuthState) :
    (∃ failure, login env email password tenantId accessJti refreshJti before = (.error failure, before)) ∨
    ∃ user, login env email password tenantId accessJti refreshJti before =
      (.ok (issueTokenPair env before.now user accessJti refreshJti), before) := by
  unfold login
  rw [Effect.read_bind]
  rcases getByEmail before.users email with _ | user
  · exact .inl ⟨_, rfl⟩
  · dsimp only
    by_cases wrong : env.verifyPassword password user.passwordHash = false
    · rw [if_pos wrong]
      exact .inl ⟨_, rfl⟩
    · rw [if_neg wrong]
      by_cases inactive : user.isActive = false
      · rw [if_pos inactive]
        exact .inl ⟨_, rfl⟩
      · rw [if_neg inactive]
        split
        · exact .inl ⟨_, rfl⟩
        · exact .inr ⟨user, rfl⟩

/-! ### Tokens whose key is not there -/

theorem Apart.symm (apart : Apart env token other) : Apart env other token :=
  fun jti carries back => apart jti back carries

theorem Unspent.later (unspent : Unspent env before token) (forward : before.now ≤ after.now)
    (kept : ∀ jti, Carries env token jti → after.redis.Live after.now (refreshKey jti) →
      before.redis.Live after.now (refreshKey jti)) : Unspent env after token :=
  fun jti carries live => unspent jti carries (Store.live_anti (kept jti carries live) forward)

theorem Unspent.refresh_other (unspent : Unspent env before other) (apart : Apart env other token) :
    Unspent env (refresh env redis accessJti refreshJti token before).2 other := by
  have kept : KeepsKeys before (refresh env redis accessJti refreshJti token before).2 :=
    refresh_keeps accessJti refreshJti token before
  refine unspent.later kept.now.ge fun jti carries live => ?_
  exact (refresh_spends live).resolve_right (apart jti carries)

/-- **A refresh call never takes an unspent token for a replay.** -/
theorem Unspent.no_replay (unspent : Unspent env before token) :
    (refresh env redis accessJti refreshJti token before).1 ≠ .error replayDetected := by
  intro replayed
  rcases refresh_cases env redis accessJti refreshJti token before with ⟨failure, other, ran⟩ |
    ⟨payload, user, verified, -, ran⟩
  · rw [ran] at replayed
    exact other (Except.error.inj replayed)
  · rw [ran] at replayed
    rcases consumeOnce_cases env redis payload before with ⟨checked, -⟩ | ⟨-, live⟩ | ⟨last, checked⟩ |
      ⟨-, last, checked⟩ | checked
    · rw [checked] at replayed
      cases replayed
    · exact unspent payload.jti ⟨before.now, payload, verified, rfl⟩ live
    · rw [checked] at replayed
      cases replayed
    · rw [checked] at replayed
      exact absurd (Except.error.inj replayed) nofun
    · rw [checked] at replayed
      exact absurd (Except.error.inj replayed) nofun

theorem Unspent.returns {user : User} (unspent : Unspent env before token)
    (verified : verifyRefreshToken env before.now token = .ok payload)
    (named : refreshingUser before.users payload = .ok user) :
    ∃ pair after, refresh env .answered accessJti refreshJti token before = (.ok pair, after) :=
  refresh_returns_iff.mpr ⟨payload, user, verified, named, fun _ =>
    ⟨rfl, unspent payload.jti ⟨before.now, payload, verified, rfl⟩⟩⟩

/-- **A refresh token carries the `uuid4` that it was issued with.** -/
theorem carries_issued {issued : Timestamp} {user : User} (reads : ReadsItsOwn env.jwt)
    (carries : Carries env (env.jwt.createRefreshToken issued refreshJti user) jti) : jti = uuidText refreshJti := by
  obtain ⟨instant, payload, verified, rfl⟩ := carries
  unfold verifyRefreshToken JwtService.decodePayload at verified
  split at verified
  · cases verified
  · rename_i claims decoded
    obtain rfl := reads _ _ _ decoded
    split at verified
    · cases verified
    · split at verified
      · cases verified
        rfl
      · cases verified

end Rotation

end AuthService

end CosMonitor
