/-
**`RateLimiter` — sliding windows in memory and in Redis.**

A call is checked twice, once in each way: by `_is_allowed_memory` on the hits of its key, and by the Lua
script of `_is_allowed_redis` on the sorted set of its key. The clock of the server that expires the keys
is that of the callers.

* `isAllowedMemory`, `isAllowedRedis`: the two ways;
* `WindowKept`: no window holds more accepted calls than allowed, and a call is rejected only where the
  window that ends with it is full;
* `redis_windowKept`: while no call repeats a member that still counts, and the server takes the time to
  live, Redis gives the same answers;
* `repeated_member_exceeds`: two calls of one instant and one member count once.
-/

import CosMonitor.Foundation.SlidingWindow
import CosMonitor.Foundation.Transition
import CosMonitor.Base.Stdlib
import Mathlib.Data.Rat.Floor
import Mathlib.Tactic.Linarith

namespace CosMonitor

open SlidingWindow

/-- The settings of a limiter. -/
structure RateLimiter where
  max : Int
  window : ℚ

/-! ### Sorted sets -/

/-- A member of a sorted set with its score. -/
structure SortedEntry where
  member : String
  score : ℚ
  deriving DecidableEq

/-- The sorted set of a key, with the instant at which the key is removed. A key without entries is not
there. -/
structure SortedSet where
  entries : List SortedEntry
  deadline : Option ℚ

namespace SortedSet

/-- No key. -/
def empty : SortedSet where
  entries := []
  deadline := none

variable (set : SortedSet)

/-- The key at an instant: it is gone once its deadline has passed. -/
def current (now : ℚ) : SortedSet :=
  if set.deadline.any fun last => decide (last < now) then empty else set

/-- `ZREMRANGEBYSCORE key -inf cutoff`. -/
def removeRangeByScore (cutoff : ℚ) : SortedSet :=
  let kept := set.entries.filter fun entry => decide (cutoff < entry.score)
  if kept = [] then empty else { set with entries := kept }

/-- `ZADD key score member`: a member that is there gets the score. -/
def add (score : ℚ) (member : String) : SortedSet :=
  if set.entries.any fun entry => entry.member == member then
    { set with entries := set.entries.map fun entry =>
        if entry.member = member then { entry with score } else entry }
  else { set with entries := set.entries ++ [⟨member, score⟩] }

/-- `EXPIRE key ttl`: a time to live that is not positive removes the key. -/
def expire (now : ℚ) (ttl : Int) : SortedSet :=
  if ttl ≤ 0 then empty else { set with deadline := some (now + ttl) }

def scores : List ℚ :=
  set.entries.map SortedEntry.score

end SortedSet

/-! ### The two ways -/

namespace RateLimiter

variable (limiter : RateLimiter)

/-- `_is_allowed_memory`: the answer, and the hits of the key after. -/
def isAllowedMemory (now : ℚ) (hits : List ℚ) : Bool × List ℚ :=
  let cutoff := now - limiter.window
  let kept := hits.filter fun hit => decide (cutoff < hit)
  if limiter.max ≤ kept.length then (false, kept) else (true, kept ++ [now])

/-- `int(self._window) + 10`. -/
def ttl : Int :=
  (if 0 ≤ limiter.window then ⌊limiter.window⌋ else ⌈limiter.window⌉) + 10

/-- The Lua script: the answer, and the sorted set of the key after. It fails when `EXPIRE` does not take
the time to live, after the member was added. -/
def slidingWindow (takes : Int → Bool) (now cutoff : ℚ) (member : String) (set : SortedSet) :
    Option Bool × SortedSet :=
  let kept := (set.current now).removeRangeByScore cutoff
  if limiter.max ≤ kept.entries.length then (some false, kept)
  else
    let added := kept.add now member
    if takes limiter.ttl then (some true, added.expire now limiter.ttl) else (none, added)

/-- The member of a call: its time, and eight digits of a random UUID. -/
def member (std : Stdlib) (now : ℚ) (nonce : String) : String :=
  std.floatRepr now ++ ":" ++ nonce

/-- `_is_allowed_redis`; no answer is `RateLimiterUnavailable`. -/
def isAllowedRedis (std : Stdlib) (takes : Int → Bool) (now : ℚ) (nonce : String) (set : SortedSet) :
    Option Bool × SortedSet :=
  limiter.slidingWindow takes now (now - limiter.window) (member std now nonce) set

end RateLimiter

/-- The Redis key of a key. -/
def redisKey (key : String) : String :=
  "ratelimit:" ++ key

theorem redisKey_injective : Function.Injective redisKey := fun _ _ same =>
  String.append_right_inj _ |>.mp same

/-- A call of `is_allowed`, with the eight digits that it draws. -/
structure RateCall where
  key : String
  now : ℚ
  nonce : String
  deriving DecidableEq

/-- A call and its two answers. -/
structure RateAnswer where
  call : RateCall
  memory : Bool
  redis : Option Bool
  deriving DecidableEq

/-- What both limiters store, the time of the last call, and the calls so far. -/
structure LimiterState where
  hits : String → List ℚ
  sets : String → SortedSet
  clock : ℚ
  answers : List RateAnswer

/-- One call; it is no earlier than the last one. -/
def limiterStep (std : Stdlib) (takes : Int → Bool) (limiter : RateLimiter) (before : LimiterState)
    (call : RateCall) : Option LimiterState :=
  if before.clock ≤ call.now then
    let memory := limiter.isAllowedMemory call.now (before.hits call.key)
    let redis := limiter.isAllowedRedis std takes call.now call.nonce (before.sets (redisKey call.key))
    some {
      hits := Function.update before.hits call.key memory.2
      sets := Function.update before.sets (redisKey call.key) redis.2
      clock := call.now
      answers := before.answers ++ [⟨call, memory.1, redis.1⟩] }
  else none

/-- The limiters as a transition system. -/
def limiterSystem (std : Stdlib) (takes : Int → Bool) (limiter : RateLimiter) :
    Transition.System LimiterState RateCall where
  step := limiterStep std takes limiter

/-- Before the first call. -/
def newLimiter (now : ℚ) : LimiterState where
  hits := fun _ => []
  sets := fun _ => .empty
  clock := now
  answers := []

/-- The times of the accepted calls of a key. -/
def acceptedTimes (accepts : RateAnswer → Bool) (key : String) (answers : List RateAnswer) : List ℚ :=
  (answers.filter fun answer => accepts answer && answer.call.key == key).map (·.call.now)

/-- **What a sliding window promises**: no window holds more accepted calls of a key than allowed, and a
call is rejected only if so many of its key were accepted in the window that ends with it. -/
structure WindowKept (limiter : RateLimiter) (accepts : RateAnswer → Bool) (answers : List RateAnswer) :
    Prop where
  bounded : ∀ key last,
    within limiter.window last (acceptedTimes accepts key answers) ≤ limiter.max.toNat
  rejects : ∀ earlier answer later, answers = earlier ++ answer :: later → accepts answer = false →
    limiter.max ≤ within limiter.window answer.call.now (acceptedTimes accepts answer.call.key earlier)

/-- Both ways keep the windows, and answer alike. -/
structure LimitersAgree (limiter : RateLimiter) (state : LimiterState) : Prop where
  memory : WindowKept limiter (·.memory) state.answers
  redis : WindowKept limiter (·.redis == some true) state.answers
  same : ∀ answer ∈ state.answers, answer.redis = some answer.memory

/-- The call brings a member of its own: no entry of its key that still counts has its member. The server
takes the time to live. -/
def BringsMember (std : Stdlib) (takes : Int → Bool) (limiter : RateLimiter) (before : LimiterState)
    (call : RateCall) : Prop :=
  takes limiter.ttl ∧ ∀ entry ∈ (before.sets (redisKey call.key)).entries,
    call.now - limiter.window < entry.score → entry.member ≠ RateLimiter.member std call.now call.nonce

instance (std : Stdlib) (takes : Int → Bool) (limiter : RateLimiter) (before : LimiterState) (call : RateCall) :
    Decidable (BringsMember std takes limiter before call) :=
  inferInstanceAs (Decidable (_ ∧ _))

/-! ### Accepted calls -/

section Accepted

variable {limiter : RateLimiter} {accepts : RateAnswer → Bool} {answers : List RateAnswer}
  {answer : RateAnswer} {key : String}

theorem acceptedTimes_append :
    acceptedTimes accepts key (answers ++ [answer]) = acceptedTimes accepts key answers ++
      if accepts answer = true ∧ answer.call.key = key then [answer.call.now] else [] := by
  unfold acceptedTimes
  rw [List.filter_append, List.map_append]
  congr 1
  by_cases accepted : accepts answer = true ∧ answer.call.key = key
  · simp [accepted]
  · rw [if_neg accepted, List.filter_cons_of_neg, List.filter_nil, List.map_nil]
    rwa [Bool.and_eq_true, beq_iff_eq]

theorem acceptedTimes_congr {other : RateAnswer → Bool}
    (same : ∀ answer ∈ answers, accepts answer = other answer) :
    acceptedTimes accepts key answers = acceptedTimes other key answers := by
  unfold acceptedTimes
  congr 1
  refine List.filter_congr fun answer member => ?_
  rw [same answer member]

/-- What one way stores agrees with what it accepted: `stored key now` is what a call at `now` finds. -/
structure WindowSound (limiter : RateLimiter) (accepts : RateAnswer → Bool)
    (stored : String → ℚ → List ℚ) (clock : ℚ) (answers : List RateAnswer) : Prop where
  past : ∀ key, ∀ time ∈ acceptedTimes accepts key answers, time ≤ clock
  tracks : ∀ key later, clock ≤ later → recent limiter.window later (stored key later) =
    recent limiter.window later (acceptedTimes accepts key answers)
  kept : WindowKept limiter accepts answers

variable {stored after : String → ℚ → List ℚ} {clock : ℚ}

theorem windowSound_nil (nothing : ∀ key later, stored key later = []) :
    WindowSound limiter accepts stored clock [] where
  past := fun _ _ member => absurd member List.not_mem_nil
  tracks := fun key later _ => by rw [nothing]; rfl
  kept := by
    refine ⟨fun _ _ => Nat.zero_le _, fun earlier answer later split => ?_⟩
    exact absurd split.symm (List.append_ne_nil_of_right_ne_nil _ (List.cons_ne_nil _ _))

theorem WindowSound.keeps (sound : WindowSound limiter accepts stored clock answers)
    (inOrder : clock ≤ answer.call.now)
    (decides : accepts answer = true ↔
      ¬limiter.max ≤ (recent limiter.window answer.call.now
        (acceptedTimes accepts answer.call.key answers)).length) :
    WindowKept limiter accepts (answers ++ [answer]) := by
  have past : ∀ time ∈ acceptedTimes accepts answer.call.key answers, time ≤ answer.call.now :=
    fun time member => (sound.past _ time member).trans inOrder
  constructor
  · intro key last
    rw [acceptedTimes_append]
    split
    · rename_i accepted
      obtain ⟨taken, rfl⟩ := accepted
      have room := decides.mp taken
      exact within_append_le (sound.kept.bounded _) (by omega) last
    · rw [List.append_nil]
      exact sound.kept.bounded key last
  · intro earlier rejected later split refused
    rcases List.eq_nil_or_concat later with rfl | ⟨rest, last, rfl⟩
    · -- The rejected call is the last one.
      obtain ⟨rfl, same⟩ := List.append_inj' split rfl
      obtain rfl := List.head_eq_of_cons_eq same
      rw [within_eq_length past]
      by_contra room
      rw [decides.mpr room] at refused
      cases refused
    · have parted : answers ++ [answer] = (earlier ++ rejected :: rest) ++ [last] := by
        rw [split, List.concat_eq_append, List.append_assoc, List.cons_append]
      exact sound.kept.rejects earlier rejected rest (List.append_inj' parted rfl).1 refused

/-- **One call of one way.** It decides by the window that it finds, leaves the other keys alone, and then
stores what still counts and the call that it took. -/
theorem WindowSound.extend (sound : WindowSound limiter accepts stored clock answers)
    (answer : RateAnswer) (inOrder : clock ≤ answer.call.now)
    (decides : accepts answer = true ↔
      ¬limiter.max ≤ (recent limiter.window answer.call.now
        (acceptedTimes accepts answer.call.key answers)).length)
    (others : ∀ key, key ≠ answer.call.key → after key = stored key)
    (own : ∀ later, answer.call.now ≤ later →
      recent limiter.window later (after answer.call.key later) =
        recent limiter.window later (acceptedTimes accepts answer.call.key answers ++
          if accepts answer then [answer.call.now] else [])) :
    WindowSound limiter accepts after answer.call.now (answers ++ [answer]) where
  past := by
    intro key time member
    rw [acceptedTimes_append, List.mem_append] at member
    rcases member with old | new
    · exact (sound.past key time old).trans inOrder
    · split at new
      · exact le_of_eq (List.mem_singleton.mp new)
      · cases new
  tracks := by
    intro key later inside
    rw [acceptedTimes_append]
    by_cases isKey : key = answer.call.key
    · subst isKey
      rw [own later inside]
      simp
    · rw [if_neg fun accepted => isKey accepted.2.symm, List.append_nil, others key isKey]
      exact sound.tracks key later (inOrder.trans inside)
  kept := sound.keeps inOrder decides

end Accepted

/-! ### In memory -/

section Memory

variable {std : Stdlib} {takes : Int → Bool} {limiter : RateLimiter} {before after : LimiterState}
  {call : RateCall}

/-- What a call finds in memory. -/
def LimiterState.storedHits (state : LimiterState) (key : String) (_ : ℚ) : List ℚ :=
  state.hits key

/-- What a call finds in Redis. -/
def LimiterState.storedScores (state : LimiterState) (key : String) (now : ℚ) : List ℚ :=
  ((state.sets (redisKey key)).current now).scores

/-- What memory holds agrees with what it accepted. -/
def MemorySound (limiter : RateLimiter) (state : LimiterState) : Prop :=
  WindowSound limiter (·.memory) state.storedHits state.clock state.answers

theorem limiterStep_eq_some (stepped : limiterStep std takes limiter before call = some after) :
    before.clock ≤ call.now ∧ after = {
      hits := Function.update before.hits call.key
        (limiter.isAllowedMemory call.now (before.hits call.key)).2
      sets := Function.update before.sets (redisKey call.key)
        (limiter.isAllowedRedis std takes call.now call.nonce (before.sets (redisKey call.key))).2
      clock := call.now
      answers := before.answers ++ [⟨call, (limiter.isAllowedMemory call.now (before.hits call.key)).1,
        (limiter.isAllowedRedis std takes call.now call.nonce (before.sets (redisKey call.key))).1⟩] } := by
  obtain ⟨inOrder, built⟩ := Option.ite_none_right_eq_some.mp stepped
  exact ⟨inOrder, (Option.some.inj built).symm⟩

theorem isAllowedMemory_spec (limiter : RateLimiter) (now : ℚ) (hits : List ℚ) :
    let kept := recent limiter.window now hits
    (limiter.isAllowedMemory now hits).1 = decide (¬limiter.max ≤ kept.length) ∧
      (limiter.isAllowedMemory now hits).2 =
        kept ++ if (limiter.isAllowedMemory now hits).1 then [now] else [] := by
  intro kept
  have unfolded : limiter.isAllowedMemory now hits =
      if limiter.max ≤ kept.length then (false, kept) else (true, kept ++ [now]) := rfl
  rw [unfolded]
  split
  · rename_i full
    simp [full]
  · rename_i room
    simp [room]

/-- **A call keeps the books of the memory.** -/
theorem MemorySound.step (sound : MemorySound limiter before)
    (stepped : limiterStep std takes limiter before call = some after) : MemorySound limiter after := by
  obtain ⟨inOrder, rfl⟩ := limiterStep_eq_some stepped
  obtain ⟨decides, keeps⟩ := isAllowedMemory_spec limiter call.now (before.hits call.key)
  have found : recent limiter.window call.now (before.hits call.key) =
      recent limiter.window call.now (acceptedTimes (·.memory) call.key before.answers) :=
    sound.tracks call.key call.now inOrder
  refine WindowSound.extend sound ⟨call, _, _⟩ inOrder ?_ (fun key other => ?_) (fun later inside => ?_)
  · rw [decides, found, decide_eq_true_iff]
  · funext now
    exact Function.update_of_ne other _ _
  · have own : (Function.update before.hits call.key
        (limiter.isAllowedMemory call.now (before.hits call.key)).2) call.key =
        (limiter.isAllowedMemory call.now (before.hits call.key)).2 := Function.update_self ..
    calc _
        = recent limiter.window later (limiter.isAllowedMemory call.now (before.hits call.key)).2 := by
          exact congrArg (recent limiter.window later) own
      _ = _ := by rw [keeps, found, recent_append, recent_recent inside, ← recent_append]

end Memory

/-! ### In Redis -/

section Redis

variable {std : Stdlib} {takes : Int → Bool} {limiter : RateLimiter} {before after : LimiterState}
  {call : RateCall} {set : SortedSet} {now later score : ℚ} {member : String}

namespace SortedSet

theorem removeRangeByScore_cases (set : SortedSet) (now width : ℚ) :
    (set.removeRangeByScore (now - width)).scores = recent width now set.scores ∧
      (set.removeRangeByScore (now - width) = empty ∨
        (set.removeRangeByScore (now - width)).deadline = set.deadline) := by
  have kept : (set.entries.filter fun entry => decide (now - width < entry.score)).map SortedEntry.score =
      recent width now set.scores := by
    unfold scores recent
    rw [List.filter_map]
    rfl
  rw [← kept]
  unfold removeRangeByScore
  dsimp only
  by_cases none : (set.entries.filter fun entry => decide (now - width < entry.score)) = []
  · rw [if_pos none, none]
    exact ⟨rfl, .inl rfl⟩
  · rw [if_neg none]
    exact ⟨rfl, .inr rfl⟩

theorem mem_removeRangeByScore {cutoff : ℚ} {entry : SortedEntry}
    (left : entry ∈ (set.removeRangeByScore cutoff).entries) : entry ∈ set.entries ∧ cutoff < entry.score := by
  unfold removeRangeByScore at left
  dsimp only at left
  split at left
  · cases left
  · obtain ⟨inside, counts⟩ := List.mem_filter.mp left
    exact ⟨inside, of_decide_eq_true counts⟩

theorem mem_current {entry : SortedEntry} (inside : entry ∈ (set.current now).entries) :
    entry ∈ set.entries := by
  unfold current at inside
  split at inside
  · cases inside
  · exact inside

theorem scores_add (absent : ∀ entry ∈ set.entries, entry.member ≠ member) :
    (set.add score member).scores = set.scores ++ [score] := by
  have other : ¬(set.entries.any fun entry => entry.member == member) = true := by
    rw [List.any_eq_true]
    rintro ⟨entry, inside, same⟩
    exact absent entry inside (beq_iff_eq.mp same)
  unfold add
  rw [if_neg other]
  simp [scores]

theorem current_empty : empty.current now = empty := rfl

theorem current_cases (set : SortedSet) (earlier : now ≤ later) :
    (set.current now = empty ∧ set.current later = empty) ∨ set.current now = set := by
  unfold current
  by_cases gone : set.deadline.any fun last => decide (last < now)
  · refine .inl ⟨if_pos gone, if_pos ?_⟩
    obtain ⟨last, found, passed⟩ := (Option.any_eq_true _ _).mp gone
    exact (Option.any_eq_true _ _).mpr
      ⟨last, found, decide_eq_true (lt_of_lt_of_le (of_decide_eq_true passed) earlier)⟩
  · exact .inr (if_neg gone)

theorem recent_current_pruned (width : ℚ) (earlier : now ≤ later) :
    recent width later (((set.current now).removeRangeByScore (now - width)).current later).scores =
      recent width later (set.current later).scores := by
  rcases current_cases set earlier with ⟨gone, still⟩ | there
  · rw [gone, still]
    rfl
  · rw [there]
    obtain ⟨scores, removed | deadline⟩ := removeRangeByScore_cases set now width
    · have none : recent width now set.scores = [] := by
        rw [← scores, removed]
        rfl
      rw [removed, current_empty]
      rcases current_cases set (le_refl later) with ⟨gone, -⟩ | there
      · rw [gone]
      · have left : recent width later (recent width now set.scores) = recent width later set.scores :=
          recent_recent earlier
        rw [there, ← left, none]
        rfl
    · unfold current
      rw [deadline]
      split
      · rfl
      · rw [scores, recent_recent earlier]

end SortedSet

theorem RateLimiter.window_lt_ttl (limiter : RateLimiter) : limiter.window < limiter.ttl := by
  unfold RateLimiter.ttl
  split
  · have floor := Int.lt_floor_add_one limiter.window
    push_cast
    linarith
  · have ceil := Int.le_ceil limiter.window
    push_cast
    linarith

/-- **The expiry removes nothing that still counts.** -/
theorem SortedSet.recent_current_expire (past : ∀ time ∈ set.scores, time ≤ now) (earlier : now ≤ later) :
    recent limiter.window later ((set.expire now limiter.ttl).current later).scores =
      recent limiter.window later set.scores := by
  have outlives := limiter.window_lt_ttl
  unfold SortedSet.expire
  by_cases positive : limiter.ttl ≤ 0
  · rw [if_pos positive, SortedSet.current_empty]
    have negative : (limiter.ttl : ℚ) ≤ 0 := by exact_mod_cast positive
    refine (recent_eq_nil fun time member => ?_).symm
    have before := past time member
    linarith
  · rw [if_neg positive]
    unfold SortedSet.current
    simp only [Option.any_some, decide_eq_true_eq]
    by_cases gone : now + limiter.ttl < later
    · rw [if_pos gone]
      refine (recent_eq_nil fun time member => ?_).symm
      have before := past time member
      linarith
    · rw [if_neg gone]
      rfl

theorem isAllowedRedis_spec {nonce : String} (accepted : takes limiter.ttl)
    (fresh : ∀ entry ∈ set.entries, now - limiter.window < entry.score →
      entry.member ≠ RateLimiter.member std now nonce)
    (past : ∀ time ∈ recent limiter.window now (set.current now).scores, time ≤ now) :
    let found := recent limiter.window now (set.current now).scores
    (limiter.isAllowedRedis std takes now nonce set).1 = some (decide (¬limiter.max ≤ found.length)) ∧
      ∀ later, now ≤ later → recent limiter.window later
          ((limiter.isAllowedRedis std takes now nonce set).2.current later).scores =
        if limiter.max ≤ found.length then recent limiter.window later (set.current later).scores
        else recent limiter.window later (found ++ [now]) := by
  intro found
  obtain ⟨scores, -⟩ := SortedSet.removeRangeByScore_cases (set.current now) now limiter.window
  have count : ((set.current now).removeRangeByScore (now - limiter.window)).entries.length =
      found.length := by
    rw [← List.length_map SortedEntry.score]
    exact congrArg List.length scores
  have absent : ∀ entry ∈ ((set.current now).removeRangeByScore (now - limiter.window)).entries,
      entry.member ≠ RateLimiter.member std now nonce := by
    intro entry left
    obtain ⟨inside, counts⟩ := SortedSet.mem_removeRangeByScore left
    exact fresh entry (SortedSet.mem_current inside) counts
  unfold RateLimiter.isAllowedRedis RateLimiter.slidingWindow
  dsimp only
  rw [count, if_pos accepted]
  by_cases full : limiter.max ≤ found.length
  · rw [if_pos full]
    refine ⟨by simp [full], fun later inside => ?_⟩
    rw [if_pos full]
    exact SortedSet.recent_current_pruned limiter.window inside
  · rw [if_neg full]
    refine ⟨by simp [full], fun later inside => ?_⟩
    have added : (((set.current now).removeRangeByScore (now - limiter.window)).add now
        (RateLimiter.member std now nonce)).scores = _ ++ [now] := SortedSet.scores_add absent
    rw [if_neg full, SortedSet.recent_current_expire ?_ inside, added, scores]
    intro time member
    rw [added, scores, List.mem_append] at member
    rcases member with old | new
    · exact past time old
    · exact le_of_eq (List.mem_singleton.mp new)

/-- Both ways keep their books, and answered alike. -/
structure RedisSound (limiter : RateLimiter) (state : LimiterState) : Prop where
  memory : MemorySound limiter state
  redis : WindowSound limiter (·.redis == some true) state.storedScores state.clock state.answers
  same : ∀ answer ∈ state.answers, answer.redis = some answer.memory

/-- **A call with a member of its own keeps the books of both.** -/
theorem RedisSound.step (sound : RedisSound limiter before)
    (brings : BringsMember std takes limiter before call)
    (stepped : limiterStep std takes limiter before call = some after) : RedisSound limiter after := by
  have memory : MemorySound limiter after := sound.memory.step stepped
  obtain ⟨inOrder, rfl⟩ := limiterStep_eq_some stepped
  have sameTimes : acceptedTimes (·.redis == some true) call.key before.answers =
      acceptedTimes (·.memory) call.key before.answers := by
    refine acceptedTimes_congr fun answer member => ?_
    rw [sound.same answer member]
    cases answer.memory <;> rfl
  have found : recent limiter.window call.now ((before.sets (redisKey call.key)).current call.now).scores =
      recent limiter.window call.now (acceptedTimes (·.redis == some true) call.key before.answers) :=
    sound.redis.tracks call.key call.now inOrder
  have held : recent limiter.window call.now (before.hits call.key) =
      recent limiter.window call.now (acceptedTimes (·.redis == some true) call.key before.answers) := by
    rw [sameTimes]
    exact sound.memory.tracks call.key call.now inOrder
  have past : ∀ time ∈ recent limiter.window call.now
      ((before.sets (redisKey call.key)).current call.now).scores, time ≤ call.now := by
    intro time member
    rw [found] at member
    exact (sound.redis.past _ time (mem_recent.mp member).1).trans inOrder
  obtain ⟨decides, keeps⟩ := isAllowedRedis_spec brings.1 brings.2 past
  rw [found] at decides keeps
  refine ⟨memory, WindowSound.extend sound.redis ⟨call, _, _⟩ inOrder ?_ (fun key other => ?_)
    (fun later inside => ?_), fun answer member => ?_⟩
  · dsimp only
    rw [decides, beq_iff_eq, Option.some.injEq, decide_eq_true_iff]
  · funext now
    have apart : redisKey key ≠ redisKey call.key := redisKey_injective.ne other
    exact congrArg (fun set => (SortedSet.current set now).scores) (Function.update_of_ne apart _ _)
  · have own : (Function.update before.sets (redisKey call.key)
        (limiter.isAllowedRedis std takes call.now call.nonce (before.sets (redisKey call.key))).2)
        (redisKey call.key) = _ := Function.update_self ..
    have tracks : recent limiter.window later ((before.sets (redisKey call.key)).current later).scores = _ :=
      sound.redis.tracks call.key later (inOrder.trans inside)
    refine (congrArg (fun set => recent limiter.window later (SortedSet.current set later).scores)
      own).trans ?_
    rw [keeps later inside]
    by_cases full : limiter.max ≤ (recent limiter.window call.now
        (acceptedTimes (·.redis == some true) call.key before.answers)).length
    · rw [if_pos full, tracks]
      simp [decides, full]
    · rw [if_neg full, recent_append, recent_recent inside, ← recent_append]
      simp [decides, full]
  · rcases List.mem_append.mp member with old | new
    · exact sound.same answer old
    · rw [List.mem_singleton.mp new, decides, (isAllowedMemory_spec ..).1, held]

/-- **Redis answers as the memory does**, for every sequence of calls in the order of their times, each of
which brings a member of its own. -/
theorem redis_windowKept (std : Stdlib) (takes : Int → Bool) (limiter : RateLimiter) (now : ℚ)
    (state : LimiterState)
    (reached : (limiterSystem std takes limiter).Reachable (BringsMember std takes limiter)
      (newLimiter now) state) : LimitersAgree limiter state := by
  have nothing : RedisSound limiter (newLimiter now) :=
    ⟨windowSound_nil fun _ _ => rfl, windowSound_nil fun _ _ => rfl,
      fun _ member => absurd member List.not_mem_nil⟩
  have sound : RedisSound limiter state :=
    reached.invariant nothing fun before call after holds brings stepped => holds.step brings stepped
  exact ⟨sound.memory.kept, sound.redis.kept, sound.same⟩

end Redis

/-! ### Two runs -/

/-- Two calls in a minute. -/
def twoAMinute : RateLimiter where
  max := 2
  window := 60

/-- A library that writes whole floats as Python does. -/
def wholeFloats : Stdlib :=
  { Stdlib.constant with floatRepr := fun value => toString ⌊value⌋ ++ ".0" }

/-- The times to live that `EXPIRE` takes. -/
def inMilliseconds (ttl : Int) : Bool :=
  decide (ttl ≤ 9223372036854775)

/-- The third call of a minute is rejected, and one after that minute is taken. -/
theorem redis_windowKept_two : ∃ state : LimiterState,
    (state.answers.map (·.redis) = [some true, some true, some false, some true]) ∧
      LimitersAgree twoAMinute state := by
  have ran : ((limiterSystem wholeFloats inMilliseconds twoAMinute).guardedRun
      (BringsMember wholeFloats inMilliseconds twoAMinute) (newLimiter 0)
      [⟨"login:a", 0, "1b9d6bcd"⟩, ⟨"login:a", 0, "9b1deb4d"⟩, ⟨"login:a", 59, "bbfd4b2d"⟩,
        ⟨"login:a", 60, "3b7d4bad"⟩]).any (fun state =>
          decide (state.answers.map (·.redis) = [some true, some true, some false, some true])) = true := by
    decide +kernel
  obtain ⟨state, reached, answered⟩ := Transition.System.guardedRun_reaches ran
  exact ⟨state, answered, redis_windowKept wholeFloats inMilliseconds twoAMinute 0 state reached⟩

/-- **A repeated member**: two calls of one instant draw the same eight digits and count once, so Redis takes
a third one, which the memory rejects. -/
theorem repeated_member_exceeds : ¬ ∀ state : LimiterState,
    (limiterSystem wholeFloats inMilliseconds twoAMinute).Reachable (fun _ _ => True) (newLimiter 0) state →
      (∀ key last, within 60 last (acceptedTimes (·.redis == some true) key state.answers) ≤ 2) ∧
        ∀ answer ∈ state.answers, answer.redis = some answer.memory := by
  have ran : ((limiterSystem wholeFloats inMilliseconds twoAMinute).run (newLimiter 0)
      [⟨"login:a", 0, "1b9d6bcd"⟩, ⟨"login:a", 0, "1b9d6bcd"⟩, ⟨"login:a", 0, "9b1deb4d"⟩]).any
      (fun state => decide
        (¬within 60 0 (acceptedTimes (·.redis == some true) "login:a" state.answers) ≤ 2)) = true := by
    decide +kernel
  obtain ⟨state, -, reached, exceeded⟩ := Transition.System.run_reaches ran
  exact fun kept => exceeded ((kept state reached).1 "login:a" 0)

end CosMonitor
