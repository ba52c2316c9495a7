/-
**The API client of the web application: one refresh for all requests that find the session expired.**

`apiFetch` sends a request with the access token in memory. On a 401 it waits for `tryRefresh` and sends the request
again, once. `tryRefresh` shares the promise of the refresh that is running, if one is. The event loop runs the
continuations of all calls in any order, and answers come in any order.

* `ApiClient.step`: the client, continuation by continuation;
* `ApiClient.Sound`, `ApiClient.Sound.step`: what every continuation keeps;
* `apiFetch_single_flight`: one refresh runs at a time, it was asked for by a call that waits for it, and no call
  sends more than two requests, in any interleaving.
-/

import CosMonitor.Foundation.Transition

namespace CosMonitor

open Transition

/-! ### The client -/

/-- Where a call of `apiFetch` stands. -/
inductive CallPhase where
  | fetching (retryOn401 : Bool)
  | refreshing (refresh : ℕ)
  | returned (status : ℕ)
  | failed (status : ℕ)
  /-- `fetch` has rejected -/
  | rejected
  deriving DecidableEq, Repr

/-- A call of `apiFetch`: the `Authorization` of its requests, the latest last, and the refresh that it has waited
for. -/
structure ApiCall (Token : Type) where
  skipAuth : Bool
  sent : List (Option Token)
  refreshed : Option ℕ
  phase : CallPhase
  deriving DecidableEq, Repr

/-- The variables of the module, the runs of the refresh and the calls. A run is `none` until it has settled. -/
structure ApiClient (Token : Type) where
  accessToken : Option Token
  refreshInFlight : Option ℕ
  refreshes : List (Option Bool)
  calls : List (ApiCall Token)
  deriving DecidableEq, Repr

/-- What happens to the client. `settle` ends the running refresh: with a session, or with an answer that is not
ok, a body that is not JSON, or no answer. -/
inductive ClientEvent (Token : Type) where
  | apiFetch (skipAuth retryOn401 : Bool)
  | answer (call status : ℕ)
  | reject (call : ℕ)
  | settle (session : Option Token)
  | resume (call : ℕ)
  | setTokens (token : Token)
  | clearTokens
  deriving DecidableEq, Repr

section Client

variable {Token : Type}

/-- The client of a page that was just loaded. -/
def ApiClient.start : ApiClient Token where
  accessToken := none
  refreshInFlight := none
  refreshes := []
  calls := []

/-- `response.ok`. -/
def okStatus (status : ℕ) : Bool :=
  decide (200 ≤ status ∧ status < 300)

/-- The call goes on. -/
def ApiClient.replace (client : ApiClient Token) (index : ℕ) (call : ApiCall Token) : ApiClient Token :=
  { client with calls := client.calls.set index call }

/-- `tryRefresh`: wait for the running refresh, or for a new one. -/
def ApiClient.tryRefresh (client : ApiClient Token) (index : ℕ) (call : ApiCall Token) : ApiClient Token :=
  match client.refreshInFlight with
  | some refresh =>
      client.replace index { call with refreshed := some refresh, phase := .refreshing refresh }
  | none =>
      { client.replace index
          { call with refreshed := some client.refreshes.length, phase := .refreshing client.refreshes.length } with
        refreshInFlight := some client.refreshes.length
        refreshes := client.refreshes ++ [none] }

/-- What `apiFetch` makes of an answer. -/
def ApiClient.answered (client : ApiClient Token) (index : ℕ) (call : ApiCall Token) (retryOn401 : Bool)
    (status : ℕ) : ApiClient Token :=
  if status = 401 ∧ retryOn401 = true ∧ call.skipAuth = false then client.tryRefresh index call
  else client.replace index { call with phase := if okStatus status then .returned status else .failed status }

/-- What `apiFetch` makes of a refresh. -/
def ApiClient.resumed (client : ApiClient Token) (index : ℕ) (call : ApiCall Token) (refreshed : Bool) :
    ApiClient Token :=
  client.replace index (if refreshed then
    { call with sent := call.sent ++ [client.accessToken], phase := .fetching false }
    else { call with phase := .failed 401 })

/-- One continuation. -/
def ApiClient.step (client : ApiClient Token) : ClientEvent Token → Option (ApiClient Token)
  | .apiFetch skipAuth retryOn401 =>
      some { client with
        calls := client.calls ++
          [⟨skipAuth, [if skipAuth then none else client.accessToken], none, .fetching retryOn401⟩] }
  | .answer index status =>
      client.calls[index]?.bind fun call =>
        match call.phase with
        | .fetching retryOn401 => some (client.answered index call retryOn401 status)
        | _ => none
  | .reject index =>
      client.calls[index]?.bind fun call =>
        match call.phase with
        | .fetching _ => some (client.replace index { call with phase := .rejected })
        | _ => none
  | .settle session =>
      client.refreshInFlight.map fun refresh => { client with
        accessToken := session
        refreshInFlight := none
        refreshes := client.refreshes.set refresh (some session.isSome) }
  | .resume index =>
      client.calls[index]?.bind fun call =>
        match call.phase with
        | .refreshing refresh =>
            client.refreshes[refresh]?.join.map fun refreshed => client.resumed index call refreshed
        | _ => none
  | .setTokens token => some { client with accessToken := some token }
  | .clearTokens => some { client with accessToken := none }

/-- The client, continuation by continuation. -/
def apiClientSystem (Token : Type) : System (ApiClient Token) (ClientEvent Token) where
  step := ApiClient.step

end Client

variable {Token : Type}

/-! ### Continuations -/

/-- **What a continuation does.** -/
theorem ApiClient.step_cases {client after : ApiClient Token} {event : ClientEvent Token}
    (stepped : client.step event = some after) :
    (∃ skipAuth retryOn401, event = .apiFetch skipAuth retryOn401 ∧ after = { client with
      calls := client.calls ++
        [⟨skipAuth, [if skipAuth then none else client.accessToken], none, .fetching retryOn401⟩] }) ∨
    (∃ index call retryOn401 status, event = .answer index status ∧ client.calls[index]? = some call ∧
      call.phase = .fetching retryOn401 ∧ after = client.answered index call retryOn401 status) ∨
    (∃ index call retryOn401, event = .reject index ∧ client.calls[index]? = some call ∧
      call.phase = .fetching retryOn401 ∧ after = client.replace index { call with phase := .rejected }) ∨
    (∃ session refresh, event = .settle session ∧ client.refreshInFlight = some refresh ∧ after = { client with
      accessToken := session
      refreshInFlight := none
      refreshes := client.refreshes.set refresh (some session.isSome) }) ∨
    (∃ index call refresh refreshed, event = .resume index ∧ client.calls[index]? = some call ∧
      call.phase = .refreshing refresh ∧ client.refreshes[refresh]? = some (some refreshed) ∧
      after = client.resumed index call refreshed) ∨
    (∃ accessToken, after = { client with accessToken }) := by
  cases event with
  | apiFetch skipAuth retryOn401 =>
      cases stepped
      exact .inl ⟨skipAuth, retryOn401, rfl, rfl⟩
  | answer index status =>
      obtain ⟨call, isCall, moved⟩ := Option.bind_eq_some_iff.mp stepped
      split at moved
      · rename_i retryOn401 isPhase
        cases moved
        exact .inr (.inl ⟨index, call, retryOn401, status, rfl, isCall, isPhase, rfl⟩)
      · cases moved
  | reject index =>
      obtain ⟨call, isCall, moved⟩ := Option.bind_eq_some_iff.mp stepped
      split at moved
      · rename_i retryOn401 isPhase
        cases moved
        exact .inr (.inr (.inl ⟨index, call, retryOn401, rfl, isCall, isPhase, rfl⟩))
      · cases moved
  | settle session =>
      obtain ⟨refresh, inFlight, rfl⟩ := Option.map_eq_some_iff.mp stepped
      exact .inr (.inr (.inr (.inl ⟨session, refresh, rfl, inFlight, rfl⟩)))
  | resume index =>
      obtain ⟨call, isCall, moved⟩ := Option.bind_eq_some_iff.mp stepped
      split at moved
      · rename_i refresh isPhase
        obtain ⟨refreshed, settled, rfl⟩ := Option.map_eq_some_iff.mp moved
        exact .inr (.inr (.inr (.inr (.inl
          ⟨index, call, refresh, refreshed, rfl, isCall, isPhase, Option.join_eq_some_iff.mp settled, rfl⟩))))
      · cases moved
  | setTokens token =>
      cases stepped
      exact .inr (.inr (.inr (.inr (.inr ⟨some token, rfl⟩))))
  | clearTokens =>
      cases stepped
      exact .inr (.inr (.inr (.inr (.inr ⟨none, rfl⟩))))

/-! ### What every continuation keeps -/

/-- What holds of a call, over the runs of the refresh. -/
structure ApiCall.Sound (refreshes : List (Option Bool)) (call : ApiCall Token) : Prop where
  /-- a second request follows a refresh that has brought a session -/
  sent : call.sent.length = 1 ∨ call.sent.length = 2 ∧
    ∃ refresh, call.refreshed = some refresh ∧ refreshes[refresh]? = some (some true)
  /-- before it waits a call has sent one request, and waited for nothing -/
  first : call.phase = .fetching true → call.sent.length = 1 ∧ call.refreshed = none
  waits : ∀ refresh, call.phase = .refreshing refresh →
    call.sent.length = 1 ∧ call.refreshed = some refresh ∧ refresh < refreshes.length
  /-- a call without authorisation sends one request, without a token -/
  skips : call.skipAuth = true → call.sent = [none] ∧ call.refreshed = none

/-- What holds of the client. -/
structure ApiClient.Sound (client : ApiClient Token) : Prop where
  running : ∀ refresh : ℕ, client.refreshes[refresh]? = some none ↔ client.refreshInFlight = some refresh
  calls : ∀ call ∈ client.calls, call.Sound client.refreshes
  /-- every run of the refresh was asked for by a call -/
  asked : ∀ refresh < client.refreshes.length, ∃ call ∈ client.calls, call.refreshed = some refresh

section Sound

variable {client after : ApiClient Token} {call other : ApiCall Token} {index : ℕ}

theorem mem_set_of_ne {Item : Type} {items : List Item} {item kept other : Item} {index : ℕ}
    (placed : items[index]? = some item) (member : kept ∈ items) (apart : kept ≠ item) :
    kept ∈ items.set index other := by
  obtain ⟨position, found⟩ := List.mem_iff_getElem?.mp member
  have elsewhere : index ≠ position := by
    rintro rfl
    rw [placed, Option.some.injEq] at found
    exact apart found.symm
  exact List.mem_iff_getElem?.mpr ⟨position, (List.getElem?_set_ne elsewhere).trans found⟩

theorem ApiCall.Sound.later {before refreshes : List (Option Bool)} (sound : call.Sound before)
    (longer : before.length ≤ refreshes.length)
    (settled : ∀ (refresh : ℕ) (refreshed : Bool), before[refresh]? = some (some refreshed) →
      refreshes[refresh]? = some (some refreshed)) : call.Sound refreshes where
  sent := by
    refine sound.sent.imp_right fun twice => ⟨twice.1, ?_⟩
    obtain ⟨refresh, waited, brought⟩ := twice.2
    exact ⟨refresh, waited, settled refresh true brought⟩
  first := sound.first
  waits refresh waiting := by
    obtain ⟨once, waited, inside⟩ := sound.waits refresh waiting
    exact ⟨once, waited, Nat.lt_of_lt_of_le inside longer⟩
  skips := sound.skips

theorem ApiClient.Sound.replace (sound : client.Sound) (isCall : client.calls[index]? = some call)
    (own : other.Sound client.refreshes) (waited : call.refreshed = none ∨ other.refreshed = call.refreshed) :
    (client.replace index other).Sound where
  running := sound.running
  calls entry member := by
    rcases List.mem_or_eq_of_mem_set member with old | rfl
    · exact sound.calls entry old
    · exact own
  asked refresh inside := by
    obtain ⟨entry, member, asked⟩ := sound.asked refresh inside
    by_cases same : entry = call
    · subst same
      have taken : other.refreshed = some refresh := by
        rcases waited with none | kept
        · rw [none] at asked
          cases asked
        · exact kept.trans asked
      have placed : index < client.calls.length := (List.getElem?_eq_some_iff.mp isCall).1
      exact ⟨other, List.mem_iff_getElem?.mpr ⟨index, List.getElem?_set_self placed⟩, taken⟩
    · exact ⟨entry, mem_set_of_ne isCall member same, asked⟩

theorem ApiCall.Sound.ends {refreshes : List (Option Bool)} (sound : call.Sound refreshes) {phase : CallPhase}
    (fetches : phase ≠ .fetching true) (waits : ∀ refresh, phase ≠ .refreshing refresh) :
    ({ call with phase } : ApiCall Token).Sound refreshes where
  sent := sound.sent
  first isFirst := absurd isFirst fetches
  waits refresh waiting := absurd waiting (waits refresh)
  skips := sound.skips

theorem ApiClient.Sound.inside (sound : client.Sound) {refresh : ℕ}
    (inFlight : client.refreshInFlight = some refresh) : refresh < client.refreshes.length :=
  (List.getElem?_eq_some_iff.mp ((sound.running refresh).mpr inFlight)).1

theorem ApiCall.Sound.waiting {refreshes : List (Option Bool)} (sound : call.Sound refreshes)
    (isFirst : call.phase = .fetching true) (authorised : call.skipAuth = false) {refresh : ℕ}
    (inside : refresh < refreshes.length) :
    ({ call with refreshed := some refresh, phase := .refreshing refresh } : ApiCall Token).Sound refreshes where
  sent := .inl (sound.first isFirst).1
  first isFirst := nomatch isFirst
  waits other waiting := by
    cases waiting
    exact ⟨(sound.first isFirst).1, rfl, inside⟩
  skips skips := by
    rw [show call.skipAuth = true from skips] at authorised
    cases authorised

theorem ApiClient.Sound.tryRefresh (sound : client.Sound) (isCall : client.calls[index]? = some call)
    (isFirst : call.phase = .fetching true) (authorised : call.skipAuth = false) :
    (client.tryRefresh index call).Sound := by
  have own := sound.calls call (List.mem_of_getElem? isCall)
  unfold ApiClient.tryRefresh
  split
  · rename_i refresh inFlight
    exact sound.replace isCall (own.waiting isFirst authorised (sound.inside inFlight))
      (.inl (own.first isFirst).2)
  · rename_i idle
    have longer : client.refreshes.length ≤ (client.refreshes ++ [none]).length := by simp
    have settled : ∀ (refresh : ℕ) (refreshed : Bool), client.refreshes[refresh]? = some (some refreshed) →
        (client.refreshes ++ [none])[refresh]? = some (some refreshed) := by
      intro refresh refreshed found
      rw [List.getElem?_append_left (List.getElem?_eq_some_iff.mp found).1, found]
    refine ⟨fun refresh => ?_, fun entry member => ?_, fun refresh inside => ?_⟩
    · show (client.refreshes ++ [none])[refresh]? = some none ↔ some client.refreshes.length = some refresh
      have earlier : client.refreshes[refresh]? ≠ some none := by
        rw [ne_eq, sound.running refresh, idle]
        exact nofun
      rw [Option.some.injEq, List.getElem?_append]
      split
      · rename_i inside
        exact iff_of_false earlier (by omega)
      · rename_i outside
        rw [List.getElem?_singleton]
        split
        · exact iff_of_true rfl (by omega)
        · exact iff_of_false nofun (by omega)
    · rcases List.mem_or_eq_of_mem_set member with old | rfl
      · exact (sound.calls entry old).later longer settled
      · exact (own.later longer settled).waiting isFirst authorised (by simp)
    · rcases Nat.lt_or_ge refresh client.refreshes.length with old | new
      · obtain ⟨entry, stays, asked⟩ := sound.asked refresh old
        refine ⟨entry, mem_set_of_ne isCall stays ?_, asked⟩
        rintro rfl
        rw [(own.first isFirst).2] at asked
        cases asked
      · have last : refresh = client.refreshes.length := by
          have bound : refresh < (client.refreshes ++ [none]).length := inside
          rw [List.length_append, List.length_singleton] at bound
          omega
        have placed : index < client.calls.length := (List.getElem?_eq_some_iff.mp isCall).1
        exact ⟨_, List.mem_iff_getElem?.mpr ⟨index, List.getElem?_set_self placed⟩, by rw [last]⟩

theorem ApiClient.Sound.resumed (sound : client.Sound) (isCall : client.calls[index]? = some call) {refresh : ℕ}
    {refreshed : Bool} (waiting : call.phase = .refreshing refresh)
    (settled : client.refreshes[refresh]? = some (some refreshed)) :
    (client.resumed index call refreshed).Sound := by
  have own := sound.calls call (List.mem_of_getElem? isCall)
  obtain ⟨once, waited, inside⟩ := own.waits refresh waiting
  unfold ApiClient.resumed
  cases refreshed with
  | false => exact sound.replace isCall (own.ends nofun nofun) (.inr rfl)
  | true =>
      rw [if_pos rfl]
      refine sound.replace isCall ⟨?_, nofun, nofun, fun skips => ?_⟩ (.inr rfl)
      · refine .inr ⟨?_, refresh, waited, settled⟩
        show (call.sent ++ [client.accessToken]).length = 2
        rw [List.length_append, once]
        rfl
      · rw [(own.skips skips).2] at waited
        cases waited

theorem ApiClient.Sound.settle (sound : client.Sound) {refresh : ℕ} (session : Option Token)
    (inFlight : client.refreshInFlight = some refresh) : ({ client with
      accessToken := session
      refreshInFlight := none
      refreshes := client.refreshes.set refresh (some session.isSome) } : ApiClient Token).Sound := by
  have alone : client.refreshes[refresh]? = some none := (sound.running refresh).mpr inFlight
  refine ⟨fun other => ?_, fun entry member => ?_, fun other inside => ?_⟩
  · refine iff_of_false (fun found => ?_) nofun
    by_cases same : refresh = other
    · subst same
      rw [List.getElem?_set_self (sound.inside inFlight)] at found
      cases found
    · rw [List.getElem?_set_ne same, sound.running other, inFlight, Option.some.injEq] at found
      exact same found
  · refine (sound.calls entry member).later (by simp) fun other refreshed found => ?_
    have apart : refresh ≠ other := by
      rintro rfl
      rw [alone] at found
      cases found
    exact (List.getElem?_set_ne apart).trans found
  · refine sound.asked other ?_
    have bound : other < (client.refreshes.set refresh (some session.isSome)).length := inside
    rwa [List.length_set] at bound

/-- **Every continuation keeps the client in order.** -/
theorem ApiClient.Sound.step {event : ClientEvent Token} (sound : client.Sound)
    (stepped : client.step event = some after) : after.Sound := by
  rcases ApiClient.step_cases stepped with ⟨skipAuth, retryOn401, -, rfl⟩ |
    ⟨index, call, retryOn401, status, -, isCall, fetching, rfl⟩ |
    ⟨index, call, retryOn401, -, isCall, fetching, rfl⟩ | ⟨session, refresh, -, inFlight, rfl⟩ |
    ⟨index, call, refresh, refreshed, -, isCall, waiting, settled, rfl⟩ | ⟨accessToken, rfl⟩
  · refine ⟨sound.running, fun entry member => ?_, fun refresh inside => ?_⟩
    · rcases List.mem_append.mp member with old | new
      · exact sound.calls entry old
      · rw [List.mem_singleton.mp new]
        refine ⟨.inl rfl, fun _ => ⟨rfl, rfl⟩, nofun, fun skips => ⟨?_, rfl⟩⟩
        rw [show skipAuth = true from skips]
        rfl
    · obtain ⟨entry, member, asked⟩ := sound.asked refresh inside
      exact ⟨entry, List.mem_append_left _ member, asked⟩
  · have own := sound.calls call (List.mem_of_getElem? isCall)
    unfold ApiClient.answered
    split
    · rename_i expired
      obtain ⟨-, rfl, authorised⟩ := expired
      exact sound.tryRefresh isCall fetching authorised
    · refine sound.replace isCall (own.ends ?_ fun refresh => ?_) (.inr rfl)
      · split <;> exact nofun
      · split <;> exact nofun
  · have own := sound.calls call (List.mem_of_getElem? isCall)
    exact sound.replace isCall (own.ends nofun nofun) (.inr rfl)
  · exact sound.settle session inFlight
  · exact sound.resumed isCall waiting settled
  · exact ⟨sound.running, sound.calls, sound.asked⟩

theorem ApiClient.sound_of_reachable
    (reached : (apiClientSystem Token).Reachable (fun _ _ => True) ApiClient.start client) : client.Sound := by
  have initial : (ApiClient.start : ApiClient Token).Sound :=
    ⟨fun refresh => iff_of_false nofun nofun, fun call member => (List.not_mem_nil member).elim,
      fun refresh inside => absurd inside (Nat.not_lt_zero _)⟩
  exact reached.invariant initial fun _ _ _ sound _ stepped => sound.step stepped

/-- **One refresh at a time**, in every interleaving of calls, answers, failures, sign-ins and sign-outs. Two runs
of the refresh are never unsettled together, and every run was asked for by a call that waits for it or has waited.
A call sends one request or two, and the second one after a refresh that has brought a session; a call that waits
goes on when the running refresh settles, or can go on now. -/
theorem apiFetch_single_flight
    (reached : (apiClientSystem Token).Reachable (fun _ _ => True) ApiClient.start client) :
    (∀ first second : ℕ, client.refreshes[first]? = some none → client.refreshes[second]? = some none →
      first = second) ∧
    (∀ refresh < client.refreshes.length, ∃ call ∈ client.calls, call.refreshed = some refresh) ∧
    ∀ call ∈ client.calls,
      (call.sent.length = 1 ∨ call.sent.length = 2 ∧
        ∃ refresh, call.refreshed = some refresh ∧ client.refreshes[refresh]? = some (some true)) ∧
      ∀ refresh, call.phase = .refreshing refresh →
        client.refreshInFlight = some refresh ∨ ∃ refreshed, client.refreshes[refresh]? = some (some refreshed) := by
  have sound := ApiClient.sound_of_reachable reached
  refine ⟨fun first second one other => ?_, sound.asked, fun call member => ⟨(sound.calls call member).sent,
    fun refresh waiting => ?_⟩⟩
  · have same := ((sound.running first).mp one).symm.trans ((sound.running second).mp other)
    exact Option.some.inj same
  · obtain ⟨-, -, inside⟩ := (sound.calls call member).waits refresh waiting
    have found := List.getElem?_eq_getElem inside
    rcases settled : client.refreshes[refresh] with _ | refreshed
    · rw [settled] at found
      exact .inl ((sound.running refresh).mp found)
    · exact .inr ⟨refreshed, by rw [found, settled]⟩

end Sound

/-- Three calls get a 401. They share a refresh, and the last one comes when it has settled. -/
def expiredCalls : List (ClientEvent String) :=
  [.setTokens "old", .apiFetch false true, .apiFetch false true, .apiFetch false true, .answer 0 401,
    .answer 1 401, .settle (some "new"), .resume 1, .answer 2 401, .answer 1 200, .resume 0]

theorem apiFetch_single_flight_expired :
    ∃ client : ApiClient String, client.refreshes = [some true, none] ∧
      client.calls.map ApiCall.sent = [[some "old", some "new"], [some "old", some "new"], [some "old"]] ∧
      (∀ first second : ℕ, client.refreshes[first]? = some none → client.refreshes[second]? = some none →
        first = second) ∧
      (∀ refresh < client.refreshes.length, ∃ call ∈ client.calls, call.refreshed = some refresh) ∧
      ∀ call ∈ client.calls,
        (call.sent.length = 1 ∨ call.sent.length = 2 ∧
          ∃ refresh, call.refreshed = some refresh ∧ client.refreshes[refresh]? = some (some true)) ∧
        ∀ refresh, call.phase = .refreshing refresh →
          client.refreshInFlight = some refresh ∨
            ∃ refreshed, client.refreshes[refresh]? = some (some refreshed) := by
  have runs : ∃ client, (apiClientSystem String).run ApiClient.start expiredCalls = some client ∧
      (apiClientSystem String).Reachable (fun _ _ => True) ApiClient.start client ∧
      (client.refreshes = [some true, none] ∧
        client.calls.map ApiCall.sent =
          [[some "old", some "new"], [some "old", some "new"], [some "old"]]) :=
    System.run_reaches (by decide)
  obtain ⟨client, -, reached, refreshes, sent⟩ := runs
  exact ⟨client, refreshes, sent, apiFetch_single_flight reached⟩

end CosMonitor
