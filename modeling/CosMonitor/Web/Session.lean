/-
**The session of a page: the API client, its refresh cookie and the auth service.**

The browser keeps one refresh token, in a cookie that it sends with the request of `tryRefresh` and replaces when an
answer sets another one. The service consumes a refresh token once, and takes a second use for a replay. Requests
and answers are in flight while everything else goes on: other requests of the page, logins, the calls of other
clients, and time.

* `Session.step`: the page, the answers in flight and the service, event by event;
* `Undisturbed`: no answer with a new cookie is lost, and no other client holds the tokens of the page;
* `Session.Sound`, `Session.Sound.step`: what every undisturbed event keeps;
* `session_refreshes`: the page is never taken for a replay, in any interleaving.
-/

import CosMonitor.Access.Rotation
import CosMonitor.Access.LogoutRuns
import CosMonitor.Web.ApiClient

namespace CosMonitor

open Result Expiring Transition AuthService

/-! ### The page and the service -/

/-- The request of `tryRefresh`: sent with the cookie of that moment, answered by the service, or arrived, with
the cookie set and the body not read yet. -/
inductive RefreshRequest (env : AuthEnv) where
  | idle
  | sent (cookie : Option env.jwt.Token)
  | answered (session : Option (TokenPair env))
  | arrived (accessToken : Option env.jwt.Token)

/-- The client, the cookie, the refresh request, the answers of logins in flight, and the service. -/
structure Session (env : AuthEnv) where
  client : ApiClient env.jwt.Token
  cookie : Option env.jwt.Token
  request : RefreshRequest env
  logins : List (TokenPair env)
  auth : AuthState

/-- What happens. `refuse` is an answer without a refresh call, and `outside` a call of another client. -/
inductive SessionEvent (env : AuthEnv) where
  | client (event : ClientEvent env.jwt.Token)
  | serve (redis : RedisReply) (accessJti refreshJti : Uuid)
  | refuse
  | arrive
  | settle (read : Bool)
  | lose
  | login (email password : String) (tenantId : Option String) (accessJti refreshJti : Uuid)
  | signedIn (index : ℕ)
  | loseLogin (index : ℕ)
  | outside (call : AuthCall env)

section System

variable (env : AuthEnv)

/-- `refresh_handler`: a request without a cookie is refused, and every error is an answer that is not ok. -/
def refreshHandler (redis : RedisReply) (accessJti refreshJti : Uuid) (cookie : Option env.jwt.Token)
    (state : AuthState) : Option (TokenPair env) × AuthState :=
  match cookie with
  | none => (none, state)
  | some token =>
      ((refresh env redis accessJti refreshJti token state).1.toOption,
        (refresh env redis accessJti refreshJti token state).2)

variable {env}

/-- Whether an event is one of the page. Its refresh settles with the request. -/
def ClientEvent.fromPage {Token : Type} : ClientEvent Token → Bool
  | .settle _ => false
  | _ => true

/-- The client goes on, and a refresh that it begins sends its request with the cookie. -/
def Session.continue (session : Session env) (client : ApiClient env.jwt.Token) : Session env :=
  { session with
    client
    request :=
      if session.client.refreshInFlight.isNone && client.refreshInFlight.isSome then .sent session.cookie
      else session.request }

/-- The refresh settles, and no request is in flight. -/
def Session.settled (session : Session env) (accessToken : Option env.jwt.Token) : Option (Session env) :=
  (session.client.step (.settle accessToken)).map fun client => { session with client, request := .idle }

/-- One event. -/
def Session.step (session : Session env) : SessionEvent env → Option (Session env)
  | .client event =>
      if event.fromPage then (session.client.step event).map session.continue else none
  | .serve redis accessJti refreshJti =>
      match session.request with
      | .sent cookie => some { session with
          request := .answered (refreshHandler env redis accessJti refreshJti cookie session.auth).1
          auth := (refreshHandler env redis accessJti refreshJti cookie session.auth).2 }
      | _ => none
  | .refuse =>
      match session.request with
      | .sent _ => some { session with request := .answered none }
      | _ => none
  | .arrive =>
      match session.request with
      | .answered answer => some { session with
          request := .arrived (answer.map TokenPair.accessToken)
          cookie := (answer.map TokenPair.refreshToken).or session.cookie }
      | _ => none
  | .settle read =>
      match session.request with
      | .arrived accessToken => session.settled (if read then accessToken else none)
      | _ => none
  | .lose =>
      match session.request with
      | .sent _ => session.settled none
      | .answered _ => session.settled none
      | _ => none
  | .login email password tenantId accessJti refreshJti =>
      some { session with logins := session.logins ++
        (login env email password tenantId accessJti refreshJti session.auth).1.toOption.toList }
  | .signedIn index =>
      session.logins[index]?.map fun pair => { session with
        cookie := some pair.refreshToken
        logins := session.logins.eraseIdx index }
  | .loseLogin index => some { session with logins := session.logins.eraseIdx index }
  | .outside call => some { session with auth := afterAuthCall env session.auth call }

/-- The page and the service. -/
def sessionSystem (env : AuthEnv) : System (Session env) (SessionEvent env) where
  step := Session.step

/-- A page that was just loaded, with the cookie of an earlier one. -/
def Session.start (auth : AuthState) (cookie : Option env.jwt.Token) : Session env where
  client := .start
  cookie
  request := .idle
  logins := []
  auth

/-! ### The tokens of the page -/

/-- The refresh token of a request. -/
def RefreshRequest.tokens : RefreshRequest env → List env.jwt.Token
  | .sent cookie => cookie.toList
  | .answered answer => (answer.map TokenPair.refreshToken).toList
  | _ => []

/-- The tokens of the page that came from an answer, or come with the answer to its request. -/
def Session.present (session : Session env) : List env.jwt.Token :=
  session.cookie.toList ++ session.request.tokens

/-- The tokens that the page has sent, or may still send. -/
def Session.needed (session : Session env) : List env.jwt.Token :=
  match session.request with
  | .answered (some pair) => [pair.refreshToken]
  | request => session.cookie.toList ++ request.tokens

/-- The `uuid4` is not the `jti` of a consumed token, nor of a token of the page. -/
def Session.FreshJti (session : Session env) (jti : Uuid) : Prop :=
  ¬ session.auth.redis.Live session.auth.now (refreshKey (uuidText jti)) ∧
    (∀ token ∈ session.present, ¬ Carries env token (uuidText jti)) ∧
    ∀ pair ∈ session.logins, ¬ Carries env pair.refreshToken (uuidText jti)

/-- **An undisturbed event.** No answer that sets a cookie is lost, be it one of Redis or one of the service. The
`uuid4` of every new token of the page is fresh, and other clients refresh with other tokens. -/
def Undisturbed (session : Session env) : SessionEvent env → Prop
  | .serve redis _ refreshJti => redis ≠ .lost ∧ session.FreshJti refreshJti
  | .lose => ∀ pair, session.request ≠ .answered (some pair)
  | .login _ _ _ _ refreshJti => session.FreshJti refreshJti
  | .outside (.refresh _ _ _ token) =>
      (∀ held ∈ session.present, Apart env held token) ∧ ∀ pair ∈ session.logins, Apart env pair.refreshToken token
  | _ => True

end System

/-! ### What every event keeps -/

variable {env : AuthEnv}

/-- What holds of a session. -/
structure Session.Sound (session : Session env) : Prop where
  /-- a refresh runs while its request is in flight -/
  running : session.client.refreshInFlight = none ↔ session.request = .idle
  needed : ∀ token ∈ session.needed, Unspent env session.auth token
  logins : ∀ pair ∈ session.logins, Unspent env session.auth pair.refreshToken
  apart : ∀ token ∈ session.present, ∀ pair ∈ session.logins, Apart env token pair.refreshToken
  alone : session.logins.Pairwise fun one other => Apart env one.refreshToken other.refreshToken

section Sound

variable {session after : Session env}

theorem Session.mem_needed {token : env.jwt.Token} :
    token ∈ session.needed ↔
      token ∈ session.request.tokens ∨
        (∀ pair, session.request ≠ .answered (some pair)) ∧ session.cookie = some token := by
  unfold Session.needed
  split
  · rename_i pair answered
    rw [answered]
    refine ⟨.inl, fun needed => needed.elim id fun other => ?_⟩
    exact absurd rfl (other.1 pair)
  · rename_i request other
    rw [List.mem_append, Option.mem_toList, or_comm]
    exact or_congr_right (iff_and_self.mpr fun _ pair answered => other pair answered)

theorem Session.needed_present {token : env.jwt.Token} (member : token ∈ session.needed) :
    token ∈ session.present := by
  unfold Session.needed at member
  split at member
  · rename_i pair answered
    rw [Session.present, answered]
    exact List.mem_append_right _ member
  · exact member

theorem apart_issued {issued : Timestamp} {user : User} {jti : Uuid} {token : env.jwt.Token}
    (reads : ReadsItsOwn env.jwt) (fresh : ¬ Carries env token (uuidText jti)) :
    Apart env token (env.jwt.createRefreshToken issued jti user) := by
  intro text carries issued
  rw [carries_issued reads issued] at carries
  exact fresh carries

theorem unspent_issued {issued : Timestamp} {user : User} {jti : Uuid} {state : AuthState}
    (reads : ReadsItsOwn env.jwt) (fresh : ¬ state.redis.Live state.now (refreshKey (uuidText jti))) :
    Unspent env state (env.jwt.createRefreshToken issued jti user) := by
  intro text issued live
  rw [carries_issued reads issued] at live
  exact fresh live

theorem Session.Sound.auth (sound : session.Sound) {auth : AuthState}
    (kept : ∀ token, (token ∈ session.present ∨ ∃ pair ∈ session.logins, pair.refreshToken = token) →
      Unspent env session.auth token → Unspent env auth token) :
    ({ session with auth } : Session env).Sound where
  running := sound.running
  needed token member := kept token (.inl (Session.needed_present member)) (sound.needed token member)
  logins pair member := kept pair.refreshToken (.inr ⟨pair, member, rfl⟩) (sound.logins pair member)
  apart := sound.apart
  alone := sound.alone

theorem ApiClient.step_inFlight {client next : ApiClient env.jwt.Token} {event : ClientEvent env.jwt.Token}
    (fromPage : event.fromPage = true) (stepped : client.step event = some next) :
    next.refreshInFlight = client.refreshInFlight ∨
      client.refreshInFlight = none ∧ next.refreshInFlight ≠ none := by
  rcases ApiClient.step_cases stepped with ⟨_, _, -, rfl⟩ | ⟨index, call, retryOn401, status, -, -, -, rfl⟩ |
    ⟨_, _, _, -, -, -, rfl⟩ | ⟨session, _, rfl, -, -⟩ | ⟨_, call, _, refreshed, -, -, -, -, rfl⟩ | ⟨_, rfl⟩
  · exact .inl rfl
  · unfold ApiClient.answered
    split
    · unfold ApiClient.tryRefresh
      split
      · exact .inl rfl
      · rename_i idle
        exact .inr ⟨idle, nofun⟩
    · exact .inl rfl
  · exact .inl rfl
  · cases fromPage
  · exact .inl rfl
  · exact .inl rfl

theorem Session.Sound.continue (sound : session.Sound) {client : ApiClient env.jwt.Token}
    {event : ClientEvent env.jwt.Token} (fromPage : event.fromPage = true)
    (stepped : session.client.step event = some client) : (session.continue client).Sound := by
  rcases ApiClient.step_inFlight fromPage stepped with same | ⟨idle, runs⟩
  · have unchanged : session.continue client = { session with client } := by
      unfold Session.continue
      rw [same]
      cases session.client.refreshInFlight <;> rfl
    rw [unchanged]
    exact ⟨same ▸ sound.running, sound.needed, sound.logins, sound.apart, sound.alone⟩
  · have begun : session.continue client = { session with client, request := .sent session.cookie } := by
      unfold Session.continue
      rw [if_pos]
      simp [idle, Option.isSome_iff_ne_none, runs]
    have noRequest := sound.running.mp idle
    -- The request carries the cookie, which is needed already.
    have own : ∀ token ∈ session.cookie.toList ++ session.cookie.toList,
        token ∈ session.needed ∧ token ∈ session.present := by
      intro token member
      have inCookie : token ∈ session.cookie.toList := (List.mem_append.mp member).elim id id
      have needed : token ∈ session.needed := by
        rw [Session.needed, noRequest]
        exact List.mem_append_left _ inCookie
      exact ⟨needed, Session.needed_present needed⟩
    rw [begun]
    exact ⟨iff_of_false runs nofun, fun token member => sound.needed token (own token member).1, sound.logins,
      fun token member => sound.apart token (own token member).2, sound.alone⟩

theorem Session.Sound.settled (sound : session.Sound) {accessToken : Option env.jwt.Token}
    (needed : ∀ token ∈ session.cookie.toList, token ∈ session.needed)
    (stepped : session.settled accessToken = some after) : after.Sound := by
  obtain ⟨client, moved, rfl⟩ := Option.map_eq_some_iff.mp stepped
  have ended : client.refreshInFlight = none := by
    obtain ⟨refresh, -, rfl⟩ := Option.map_eq_some_iff.mp moved
    rfl
  refine ⟨iff_of_true ended rfl, fun token member => ?_, sound.logins, fun token member => ?_, sound.alone⟩
  · refine sound.needed token (needed token ?_)
    simpa [Session.needed, RefreshRequest.tokens] using member
  · refine sound.apart token (Session.needed_present (needed token ?_))
    simpa [Session.present, RefreshRequest.tokens] using member

theorem Session.Sound.busy (sound : session.Sound) {request : RefreshRequest env}
    (isRequest : session.request = request) (inFlight : request ≠ .idle) :
    session.client.refreshInFlight ≠ none := by
  rw [ne_eq, sound.running, isRequest]
  exact inFlight

theorem Session.Sound.refuse (sound : session.Sound) {cookie : Option env.jwt.Token}
    (sent : session.request = .sent cookie) : ({ session with request := .answered none } : Session env).Sound := by
  have inCookie : ∀ token ∈ session.cookie.toList, token ∈ session.needed := by
    intro token member
    rw [Session.needed, sent]
    exact List.mem_append_left _ member
  refine ⟨iff_of_false (sound.busy sent nofun) nofun, fun token member => ?_, sound.logins,
    fun token member => ?_, sound.alone⟩
  · refine sound.needed token (inCookie token ?_)
    simpa [Session.needed, RefreshRequest.tokens] using member
  · refine sound.apart token (Session.needed_present (inCookie token ?_))
    simpa [Session.present, RefreshRequest.tokens] using member

theorem Session.Sound.serve (reads : ReadsItsOwn env.jwt) (sound : session.Sound) {redis : RedisReply}
    {accessJti refreshJti : Uuid} {cookie : Option env.jwt.Token} (sent : session.request = .sent cookie)
    (reaches : redis ≠ .lost) (fresh : session.FreshJti refreshJti) :
    ({ session with
      request := .answered (refreshHandler env redis accessJti refreshJti cookie session.auth).1
      auth := (refreshHandler env redis accessJti refreshJti cookie session.auth).2 } : Session env).Sound := by
  have busy := sound.busy sent nofun
  cases cookie with
  | none => exact sound.refuse sent
  | some token =>
      have own : token ∈ session.present := by
        rw [Session.present, sent]
        exact List.mem_append_right _ List.mem_cons_self
      rcases ran : refresh env redis accessJti refreshJti token session.auth with ⟨failure | pair, auth⟩
      · obtain rfl := refresh_failed reaches ran
        unfold refreshHandler
        dsimp only
        rw [ran]
        exact sound.refuse sent
      · obtain ⟨user, rfl⟩ := refresh_returned ran
        obtain ⟨unused, notPresent, notInLogins⟩ := fresh
        have later : auth = (refresh env redis accessJti refreshJti token session.auth).2 := by rw [ran]
        unfold refreshHandler
        dsimp only
        rw [ran]
        refine ⟨iff_of_false busy nofun, fun held member => ?_, fun pair member => ?_, fun held member => ?_,
          sound.alone⟩
        · obtain rfl := List.mem_singleton.mp member
          refine unspent_issued reads fun live => ?_
          have kept : KeepsKeys session.auth (refresh env redis accessJti refreshJti token session.auth).2 :=
            refresh_keeps accessJti refreshJti token session.auth
          rw [later, kept.now] at live
          exact (refresh_spends live).elim unused (notPresent token own)
        · rw [later]
          exact (sound.logins pair member).refresh_other (sound.apart token own pair member).symm
        · rcases List.mem_append.mp member with cookie | issued
          · exact sound.apart held (List.mem_append_left _ cookie)
          · obtain rfl := List.mem_singleton.mp issued
            exact fun pair member => (apart_issued reads (notInLogins pair member)).symm

theorem Session.Sound.arrive (sound : session.Sound) {answer : Option (TokenPair env)}
    (answered : session.request = .answered answer) :
    ({ session with
      request := .arrived (answer.map TokenPair.accessToken)
      cookie := (answer.map TokenPair.refreshToken).or session.cookie } : Session env).Sound := by
  have kept : ∀ token ∈ ((answer.map TokenPair.refreshToken).or session.cookie).toList, token ∈ session.needed := by
    intro token member
    rw [Session.needed, answered]
    cases answer with
    | none => exact List.mem_append_left _ member
    | some pair => exact member
  refine ⟨iff_of_false (sound.busy answered nofun) nofun, fun token member => ?_, sound.logins,
    fun token member => ?_, sound.alone⟩
  · refine sound.needed token (kept token ?_)
    simpa only [Session.needed, RefreshRequest.tokens, List.append_nil] using member
  · refine sound.apart token (Session.needed_present (kept token ?_))
    simpa only [Session.present, RefreshRequest.tokens, List.append_nil] using member

theorem Session.Sound.fewer (sound : session.Sound) {logins : List (TokenPair env)}
    (sublist : logins.Sublist session.logins) : ({ session with logins } : Session env).Sound where
  running := sound.running
  needed := sound.needed
  logins pair member := sound.logins pair (sublist.subset member)
  apart token member pair inside := sound.apart token member pair (sublist.subset inside)
  alone := sound.alone.sublist sublist

theorem Session.Sound.login (reads : ReadsItsOwn env.jwt) (sound : session.Sound) {email password : String}
    {tenantId : Option String} {accessJti refreshJti : Uuid} (fresh : session.FreshJti refreshJti) :
    ({ session with logins := session.logins ++
      (login env email password tenantId accessJti refreshJti session.auth).1.toOption.toList } :
        Session env).Sound := by
  rcases login_cases env email password tenantId accessJti refreshJti session.auth with
    ⟨failure, ran⟩ | ⟨user, ran⟩
  · rw [ran]
    refine sound.fewer ?_
    show (session.logins ++ []).Sublist session.logins
    rw [List.append_nil]
  · obtain ⟨unused, notPresent, notInLogins⟩ := fresh
    rw [ran]
    refine ⟨sound.running, sound.needed, fun pair member => ?_, fun token member pair inside => ?_, ?_⟩
    · rcases List.mem_append.mp member with old | new
      · exact sound.logins pair old
      · obtain rfl := List.mem_singleton.mp new
        exact unspent_issued reads unused
    · rcases List.mem_append.mp inside with old | new
      · exact sound.apart token member pair old
      · obtain rfl := List.mem_singleton.mp new
        exact apart_issued reads (notPresent token member)
    · refine List.pairwise_append.mpr ⟨sound.alone, List.pairwise_singleton _ _, fun pair old new member => ?_⟩
      obtain rfl := List.mem_singleton.mp member
      exact apart_issued reads (notInLogins pair old)

theorem Session.Sound.signedIn (sound : session.Sound) {index : ℕ} {pair : TokenPair env}
    (found : session.logins[index]? = some pair) :
    ({ session with
      cookie := some pair.refreshToken
      logins := session.logins.eraseIdx index } : Session env).Sound := by
  have inside := List.mem_of_getElem? found
  have rest := List.eraseIdx_sublist session.logins index
  have others : ∀ other ∈ session.logins.eraseIdx index, Apart env pair.refreshToken other.refreshToken := by
    obtain ⟨placed, rfl⟩ := List.getElem?_eq_some_iff.mp found
    have turned := (List.getElem_cons_eraseIdx_perm placed).symm.pairwise sound.alone Apart.symm
    exact (List.pairwise_cons.mp turned).1
  refine ⟨sound.running, fun token member => ?_, fun other member => sound.logins other (rest.subset member),
    fun token member other other_inside => ?_, sound.alone.sublist rest⟩
  · have split : token = pair.refreshToken ∨ token ∈ session.needed := by
      rcases Session.mem_needed.mp member with requested | ⟨other, cookie⟩
      · exact .inr (Session.mem_needed.mpr (.inl requested))
      · exact .inl (Option.some.inj cookie).symm
    rcases split with rfl | old
    · exact sound.logins pair inside
    · exact sound.needed token old
  · have split : token = pair.refreshToken ∨ token ∈ session.present := by
      rcases List.mem_append.mp member with cookie | requested
      · exact .inl (List.mem_singleton.mp cookie)
      · exact .inr (List.mem_append_right _ requested)
    rcases split with rfl | old
    · exact others other other_inside
    · exact sound.apart token old other (rest.subset other_inside)

theorem Undisturbed.outside {call : AuthCall env}
    (undisturbed : Undisturbed session (.outside call)) {token : env.jwt.Token}
    (held : token ∈ session.present ∨ ∃ pair ∈ session.logins, pair.refreshToken = token)
    (unspent : Unspent env session.auth token) : Unspent env (afterAuthCall env session.auth call) token := by
  cases call with
  | elapse time =>
      refine unspent.later ?_ fun _ _ live => live
      show session.auth.now ≤ session.auth.now + time
      exact Int.le_add_of_nonneg_right (Int.natCast_nonneg time)
  | login email password tenantId accessJti refreshJti =>
      rcases login_cases env email password tenantId accessJti refreshJti session.auth with
        ⟨failure, ran⟩ | ⟨user, ran⟩
      · rw [afterAuthCall, ran]
        exact unspent
      · rw [afterAuthCall, ran]
        exact unspent
  | refresh redis accessJti refreshJti other =>
      refine unspent.refresh_other ?_
      rcases held with present | ⟨pair, member, rfl⟩
      · exact undisturbed.1 token present
      · exact undisturbed.2 pair member
  | logout redis other =>
      have kept := logout_keeps redis other session.auth
      exact unspent.later kept.now.ge fun jti _ live => (kept.keys _ jti).mp live
  | users call => exact unspent

/-- **Every undisturbed event keeps the session in order.** -/
theorem Session.Sound.step (reads : ReadsItsOwn env.jwt) {event : SessionEvent env} (sound : session.Sound)
    (undisturbed : Undisturbed session event) (stepped : session.step event = some after) : after.Sound := by
  cases event with
  | client event =>
      simp only [Session.step] at stepped
      split at stepped
      · rename_i fromPage
        obtain ⟨client, moved, rfl⟩ := Option.map_eq_some_iff.mp stepped
        exact sound.continue fromPage moved
      · cases stepped
  | serve redis accessJti refreshJti =>
      simp only [Session.step] at stepped
      split at stepped
      · rename_i cookie sent
        cases stepped
        exact sound.serve reads sent undisturbed.1 undisturbed.2
      · cases stepped
  | refuse =>
      simp only [Session.step] at stepped
      split at stepped
      · rename_i cookie sent
        cases stepped
        exact sound.refuse sent
      · cases stepped
  | arrive =>
      simp only [Session.step] at stepped
      split at stepped
      · rename_i answer answered
        cases stepped
        exact sound.arrive answered
      · cases stepped
  | settle read =>
      simp only [Session.step] at stepped
      split at stepped
      · rename_i accessToken arrived
        refine sound.settled (fun token member => ?_) stepped
        rw [Session.needed, arrived]
        exact List.mem_append_left _ member
      · cases stepped
  | lose =>
      simp only [Session.step] at stepped
      split at stepped
      · rename_i cookie sent
        refine sound.settled (fun token member => ?_) stepped
        rw [Session.needed, sent]
        exact List.mem_append_left _ member
      · rename_i answer answered
        refine sound.settled (fun token member => ?_) stepped
        cases answer with
        | none =>
            rw [Session.needed, answered]
            exact List.mem_append_left _ member
        | some pair => exact absurd answered (undisturbed pair)
      · cases stepped
  | login email password tenantId accessJti refreshJti =>
      cases stepped
      exact sound.login reads undisturbed
  | signedIn index =>
      obtain ⟨pair, found, rfl⟩ := Option.map_eq_some_iff.mp stepped
      exact sound.signedIn found
  | loseLogin index =>
      cases stepped
      exact sound.fewer (List.eraseIdx_sublist _ _)
  | outside call =>
      cases stepped
      refine sound.auth fun token held unspent => ?_
      exact undisturbed.outside held unspent

theorem Session.sound_of_reachable {auth : AuthState} {cookie : Option env.jwt.Token}
    (reads : ReadsItsOwn env.jwt) (unspent : ∀ token ∈ cookie, Unspent env auth token)
    (reached : (sessionSystem env).Reachable Undisturbed (.start auth cookie) session) : session.Sound := by
  have initial : (Session.start auth cookie).Sound := by
    refine ⟨iff_of_true rfl rfl, fun token member => ?_, nofun, nofun, List.Pairwise.nil⟩
    rcases Session.mem_needed.mp member with requested | ⟨-, isCookie⟩
    · exact (List.not_mem_nil requested).elim
    · exact unspent token isCookie
  exact reached.invariant initial fun _ _ _ sound undisturbed stepped => sound.step reads undisturbed stepped

/-- **The page is never taken for a replay.** In every interleaving of its requests, refreshes, logins, of the calls
of other clients and of time, as long as no answer with a new cookie is lost and nobody else has the tokens of the
page: whatever Redis does, a refresh call with the token of a request in flight is not refused as a replay, and it
brings a new pair if the token verifies and its user is active. -/
theorem session_refreshes {auth : AuthState} {cookie : Option env.jwt.Token} (reads : ReadsItsOwn env.jwt)
    (unspent : ∀ token ∈ cookie, Unspent env auth token)
    (reached : (sessionSystem env).Reachable Undisturbed (.start auth cookie) session) {token : env.jwt.Token}
    (sent : session.request = .sent (some token)) (accessJti refreshJti : Uuid) :
    (∀ redis, (refresh env redis accessJti refreshJti token session.auth).1 ≠ .error replayDetected) ∧
    ∀ payload user, verifyRefreshToken env session.auth.now token = .ok payload →
      refreshingUser session.auth.users payload = .ok user →
        ∃ after pair, session.step (.serve .answered accessJti refreshJti) = some after ∧
          after.request = .answered (some pair) := by
  have sound := Session.sound_of_reachable reads unspent reached
  have own : Unspent env session.auth token := by
    refine sound.needed token (Session.mem_needed.mpr (.inl ?_))
    rw [sent]
    exact List.mem_cons_self
  refine ⟨fun redis => own.no_replay, fun payload user verified named => ?_⟩
  have returned : ∃ pair auth, refresh env .answered accessJti refreshJti token session.auth = (.ok pair, auth) :=
    own.returns verified named
  obtain ⟨pair, auth, ran⟩ := returned
  refine ⟨{ session with request := .answered (some pair), auth }, pair, ?_, rfl⟩
  simp only [Session.step, sent, refreshHandler, ran]
  rfl

end Sound

/-! ### A session -/

/-- A page that comes with the refresh token of a login, and whose first request was answered with 401. -/
def expiredPage : Session plainAuth where
  client := ⟨none, some 0, [none], [⟨false, [none], some 0, .refreshing 0⟩]⟩
  cookie := some loginToken
  request := .sent (some loginToken)
  logins := []
  auth := oneUser loggedInUser

/-- The pair of its refresh. -/
def refreshedPair : TokenPair plainAuth :=
  issueTokenPair plainAuth 0 loggedInUser 12 13

/-- The service has consumed the token of the login. -/
def refreshedAuth : AuthState :=
  { oneUser loggedInUser with redis := Store.empty.set (refreshKey (uuidText 11)) (keptUntil 0 604800) }

/-- The page after the answer: a second request was answered with 401. -/
def expiredAgain : Session plainAuth where
  client := ⟨some refreshedPair.accessToken, some 1, [some true, none],
    [⟨false, [none, some refreshedPair.accessToken], some 0, .returned 200⟩,
      ⟨false, [some refreshedPair.accessToken], some 1, .refreshing 1⟩]⟩
  cookie := some refreshedPair.refreshToken
  request := .sent (some refreshedPair.refreshToken)
  logins := []
  auth := refreshedAuth

theorem plainAuth_reads : ReadsItsOwn plainAuth.jwt := by
  intro instant claims found decoded
  have decoded : (if (MachineJwtService.expClaim claims).any fun exp => instant / second ≤ exp then some claims
    else none) = some found := decoded
  split at decoded
  · exact (Option.some.inj decoded).symm
  · cases decoded

theorem loginToken_refreshes :
    refresh plainAuth .answered 12 13 loginToken (oneUser loggedInUser) = (.ok refreshedPair, refreshedAuth) := by
  have named : refreshingUser (oneUser loggedInUser).users loginPayload = .ok loggedInUser := by decide +kernel
  have verified : verifyRefreshToken plainAuth (oneUser loggedInUser).now loginToken = .ok loginPayload :=
    loginToken_verifies
  unfold refresh
  rw [Effect.read_bind, verified, Effect.lift_ok_bind, Effect.read_bind, named, Effect.lift_ok_bind]
  rfl

theorem loginToken_carries {text : String} (carries : Carries plainAuth loginToken text) : text = uuidText 11 :=
  carries_issued plainAuth_reads carries

theorem expiredAgain_reached :
    (sessionSystem plainAuth).Reachable Undisturbed (.start (oneUser loggedInUser) (some loginToken))
      expiredAgain := by
  have first : (sessionSystem plainAuth).Reachable Undisturbed (.start (oneUser loggedInUser) (some loginToken))
      expiredPage :=
    System.run_reachable (show (sessionSystem plainAuth).run _
      [.client (.apiFetch false true), .client (.answer 0 401)] = _ from rfl) (by simp [Undisturbed])
  have apart : ¬ Carries plainAuth loginToken (uuidText 13) := fun carries =>
    absurd (uuidText_injective (loginToken_carries carries)) (by decide)
  have fresh : expiredPage.FreshJti 13 := by
    refine ⟨by decide, fun token member => ?_, nofun⟩
    rcases List.mem_pair.mp (show token ∈ [loginToken, loginToken] from member) with rfl | rfl
    · exact apart
    · exact apart
  have stepped : expiredPage.step (.serve .answered 12 13) =
      some { expiredPage with request := .answered (some refreshedPair), auth := refreshedAuth } := by
    have sent : expiredPage.request = .sent (some loginToken) := rfl
    have ran : refresh plainAuth .answered 12 13 loginToken expiredPage.auth = (.ok refreshedPair, refreshedAuth) :=
      loginToken_refreshes
    simp only [Session.step, sent, refreshHandler, ran]
    rfl
  have undisturbed : Undisturbed expiredPage (.serve .answered 12 13) := ⟨nofun, fresh⟩
  have served := System.Reachable.tail first undisturbed stepped
  refine served.trans (System.run_reachable (show (sessionSystem plainAuth).run _
    [.arrive, .settle true, .client (.resume 0), .client (.answer 0 200), .client (.apiFetch false true),
      .client (.answer 1 401)] = _ from rfl) (by simp [Undisturbed]))

/-- What the token of the pair verifies to. -/
def refreshedPayload : TokenPayload :=
  { loginPayload with jti := uuidText 13 }

/-- The second refresh of the page brings a new pair too, with the token of the first one. -/
theorem session_refreshes_again :
    (∀ redis, (refresh plainAuth redis 14 15 refreshedPair.refreshToken refreshedAuth).1 ≠ .error replayDetected) ∧
    ∃ after pair, expiredAgain.step (.serve .answered 14 15) = some after ∧
      after.request = .answered (some pair) := by
  have unspent : ∀ token ∈ some loginToken, Unspent plainAuth (oneUser loggedInUser) token := by
    intro token isCookie text _ live
    cases live
  have verified : verifyRefreshToken plainAuth 0 refreshedPair.refreshToken = .ok refreshedPayload := by
    decide +kernel
  have named : refreshingUser refreshedAuth.users refreshedPayload = .ok loggedInUser := by decide +kernel
  obtain ⟨never, brings⟩ := session_refreshes plainAuth_reads unspent expiredAgain_reached rfl 14 15
  exact ⟨never, brings refreshedPayload loggedInUser verified named⟩

end CosMonitor
