/-
**`CircuitBreaker` — overlapping calls through one breaker.**

A call reads the state, is admitted or rejected, and updates the state when the awaited function returns
or raises an `Exception`. A cancellation is none, so a cancelled call updates nothing.

* `CircuitBreaker.enterCall`: what `call` does before the await;
* `BreakerSound`: the attempts of a half-open breaker count its test call in flight;
* `orderly_breaker`: it holds while no test call is cancelled and no other call ends while one is in
  flight; then at most one test call is in flight, and the breaker is never stuck;
* `stuck_forever`: once a test call was cancelled and no other call is left, every call is rejected.
-/

import CosMonitor.Foundation.Transition
import Mathlib.Algebra.Order.Ring.Int
import Mathlib.Data.List.Perm.Basic

set_option linter.unusedSectionVars false

namespace CosMonitor

/-! ### The breaker -/

inductive CircuitState where
  | closed
  | open
  | halfOpen
  deriving DecidableEq

/-- The settings of a breaker. -/
structure CircuitBreaker (Time : Type) where
  failureThreshold : Int
  resetTimeout : Time

/-- A call that was admitted and has not ended: whether it was admitted as the test call of a half-open
breaker. -/
structure AdmittedCall where
  test : Bool
  deriving DecidableEq

structure BreakerState (Time : Type) where
  state : CircuitState
  failureCount : Nat
  lastFailureTime : Time
  halfOpenAttempts : Nat
  clock : Time
  inFlight : List AdmittedCall
  deriving DecidableEq

/-- What happens next: a call starts, one that was admitted returns, raises or is cancelled, the property
`state` is read, or the clock advances. -/
inductive BreakerEvent (Time : Type) where
  | start
  | succeed (index : Nat)
  | fail (index : Nat)
  | cancel (index : Nat)
  | read
  | advance (later : Time)

section Breaker

variable {Time : Type} [LinearOrder Time] [Sub Time]

namespace CircuitBreaker

variable (breaker : CircuitBreaker Time) (before : BreakerState Time)

/-- The reset timeout has passed since the last recorded failure. -/
def Elapsed : Prop :=
  breaker.resetTimeout ≤ before.clock - before.lastFailureTime

instance : Decidable (breaker.Elapsed before) :=
  inferInstanceAs (Decidable (_ ≤ _))

/-- The property `state`: an open breaker becomes half-open when the timeout has passed. -/
def refresh : BreakerState Time :=
  if before.state = .open ∧ breaker.Elapsed before then
    { before with state := .halfOpen, halfOpenAttempts := 0 }
  else before

/-- `call`, up to the await: the admitted call, or `none` when it raises, and the breaker after. -/
def enterCall : Option AdmittedCall × BreakerState Time :=
  let current := breaker.refresh before
  match current.state with
  | .open => (none, current)
  | .halfOpen =>
      let attempted := { current with halfOpenAttempts := current.halfOpenAttempts + 1 }
      if attempted.halfOpenAttempts > 1 then (none, attempted) else (some ⟨true⟩, attempted)
  | .closed => (some ⟨false⟩, current)

/-- `_on_success`. -/
def onSuccess : BreakerState Time :=
  match before.state with
  | .halfOpen => { before with state := .closed, failureCount := 0 }
  | .closed => { before with failureCount := 0 }
  | .open => before

/-- `_on_failure`. -/
def onFailure : BreakerState Time :=
  let counted := { before with
    failureCount := before.failureCount + 1
    lastFailureTime := before.clock }
  if before.state = .halfOpen then { counted with state := .open }
  else if breaker.failureThreshold ≤ counted.failureCount then { counted with state := .open }
  else counted

end CircuitBreaker

/-- A call leaves the breaker. -/
def BreakerState.leave (before : BreakerState Time) (index : Nat) : BreakerState Time :=
  { before with inFlight := before.inFlight.eraseIdx index }

/-- One event; `none` when there is no such call in flight, or the clock would go back. -/
def breakerStep (breaker : CircuitBreaker Time) (before : BreakerState Time) :
    BreakerEvent Time → Option (BreakerState Time)
  | .start =>
      let (admitted, after) := breaker.enterCall before
      some { after with inFlight := after.inFlight ++ admitted.toList }
  | .succeed index =>
      before.inFlight[index]?.map fun _ => CircuitBreaker.onSuccess (before.leave index)
  | .fail index => before.inFlight[index]?.map fun _ => breaker.onFailure (before.leave index)
  | .cancel index => before.inFlight[index]?.map fun _ => before.leave index
  | .read => some (breaker.refresh before)
  | .advance later => if before.clock ≤ later then some { before with clock := later } else none

/-- The breaker as a transition system. -/
def breakerSystem (breaker : CircuitBreaker Time) :
    Transition.System (BreakerState Time) (BreakerEvent Time) where
  step := breakerStep breaker

/-- A new breaker. -/
def newBreaker [Zero Time] (now : Time) : BreakerState Time where
  state := .closed
  failureCount := 0
  lastFailureTime := 0
  halfOpenAttempts := 0
  clock := now
  inFlight := []

/-- The test calls in flight. -/
def BreakerState.tests (state : BreakerState Time) : Nat :=
  state.inFlight.countP AdmittedCall.test

/-- **What a breaker promises**: a half-open one has at most one test call in flight, and once the timeout
has passed and no call is in flight, it admits the next call. -/
structure BreakerServes (breaker : CircuitBreaker Time) (state : BreakerState Time) : Prop where
  single : state.state = .halfOpen → state.tests ≤ 1
  recovers : breaker.Elapsed state → state.inFlight = [] → (breaker.enterCall state).1.isSome

/-- An event that keeps the books of a half-open breaker: a test call is not cancelled, and while one is in
flight no other call returns or raises. -/
def Orderly (before : BreakerState Time) : BreakerEvent Time → Prop
  | .succeed index | .fail index =>
      before.state = .halfOpen → before.tests ≠ 0 → before.inFlight[index]?.any AdmittedCall.test
  | .cancel index => ¬before.inFlight[index]?.any AdmittedCall.test
  | .start | .read | .advance _ => True

instance (before : BreakerState Time) (event : BreakerEvent Time) : Decidable (Orderly before event) := by
  cases event <;> unfold Orderly <;> infer_instance

/-! ### The invariant -/

/-- The attempts of a half-open breaker count its test call in flight, and no other breaker has one. -/
structure BreakerSound (state : BreakerState Time) : Prop where
  unattempted : state.state = .halfOpen → state.halfOpenAttempts = 0 → state.tests = 0
  attempted : state.state = .halfOpen → state.halfOpenAttempts ≠ 0 → state.tests = 1
  elsewhere : state.state ≠ .halfOpen → state.tests = 0

variable {breaker : CircuitBreaker Time} {before after state : BreakerState Time}

theorem newBreaker_sound [Zero Time] (now : Time) : BreakerSound (newBreaker now) := by
  refine ⟨?_, ?_, fun _ => rfl⟩
  · rintro ⟨⟩
  · rintro ⟨⟩

theorem BreakerSound.tests_le (sound : BreakerSound before) : before.tests ≤ 1 := by
  by_cases half : before.state = .halfOpen
  · by_cases fresh : before.halfOpenAttempts = 0
    · rw [sound.unattempted half fresh]
      exact Nat.zero_le 1
    · exact Nat.le_of_eq (sound.attempted half fresh)
  · rw [sound.elsewhere half]
    exact Nat.zero_le 1

theorem BreakerSound.refresh (sound : BreakerSound before) : BreakerSound (breaker.refresh before) := by
  unfold CircuitBreaker.refresh
  split
  · rename_i reopens
    have none : before.tests = 0 := sound.elsewhere (by rw [reopens.1]; decide)
    exact ⟨fun _ _ => none, fun _ attempts => absurd rfl attempts, fun other => absurd rfl other⟩
  · exact sound

theorem tests_leave {index : Nat} {call : AdmittedCall} (found : before.inFlight[index]? = some call) :
    before.tests = (before.leave index).tests + if call.test then 1 else 0 := by
  obtain ⟨inside, isCall⟩ := List.getElem?_eq_some_iff.mp found
  have parted : (call :: before.inFlight.eraseIdx index).Perm before.inFlight := by
    rw [← isCall]
    exact List.getElem_cons_eraseIdx_perm inside
  exact (parted.countP_eq _).symm.trans (List.countP_cons ..)

theorem tests_leave_of_none {index : Nat} {call : AdmittedCall}
    (found : before.inFlight[index]? = some call) (none : before.tests = 0) :
    (before.leave index).tests = 0 := by
  have parted := tests_leave found
  omega

theorem BreakerSound.tests_leave (sound : BreakerSound before) {index : Nat} {call : AdmittedCall}
    (found : before.inFlight[index]? = some call)
    (orderly : before.state = .halfOpen → before.tests ≠ 0 →
      before.inFlight[index]?.any AdmittedCall.test) :
    (before.leave index).tests = 0 := by
  by_cases idle : before.tests = 0
  · exact tests_leave_of_none found idle
  · have half : before.state = .halfOpen := by
      by_contra other
      exact idle (sound.elsewhere other)
    have isTest : call.test = true := by
      have tested := orderly half idle
      rw [found] at tested
      exact tested
    have parted := CosMonitor.tests_leave found
    rw [if_pos isTest] at parted
    have single := sound.tests_le
    omega

theorem sound_of_idle (idle : state.tests = 0) (closed : state.state ≠ .halfOpen) : BreakerSound state where
  unattempted half := absurd half closed
  attempted half := absurd half closed
  elsewhere := fun _ => idle

theorem onSuccess_spec (before : BreakerState Time) :
    (CircuitBreaker.onSuccess before).state ≠ .halfOpen ∧
      (CircuitBreaker.onSuccess before).tests = before.tests := by
  unfold CircuitBreaker.onSuccess
  cases isState : before.state with
  | closed => exact ⟨by simp, rfl⟩
  | «open» => exact ⟨by simp [isState], rfl⟩
  | halfOpen => exact ⟨by simp, rfl⟩

theorem onFailure_spec (breaker : CircuitBreaker Time) (before : BreakerState Time) :
    (breaker.onFailure before).state ≠ .halfOpen ∧ (breaker.onFailure before).tests = before.tests := by
  unfold CircuitBreaker.onFailure
  by_cases half : before.state = .halfOpen
  · rw [if_pos half]
    exact ⟨by simp, rfl⟩
  · rw [if_neg half]
    split
    · exact ⟨by simp, rfl⟩
    · exact ⟨half, rfl⟩

/-- **What `call` does before the await**, by the state that it reads. -/
theorem admit_cases (breaker : CircuitBreaker Time) (before : BreakerState Time) :
    ((breaker.refresh before).state = .open ∧ breaker.enterCall before = (none, breaker.refresh before)) ∨
      ((breaker.refresh before).state = .halfOpen ∧ (breaker.refresh before).halfOpenAttempts ≠ 0 ∧
        breaker.enterCall before = (none, { breaker.refresh before with
          halfOpenAttempts := (breaker.refresh before).halfOpenAttempts + 1 })) ∨
      ((breaker.refresh before).state = .halfOpen ∧ (breaker.refresh before).halfOpenAttempts = 0 ∧
        breaker.enterCall before = (some ⟨true⟩, { breaker.refresh before with halfOpenAttempts := 1 })) ∨
      ((breaker.refresh before).state = .closed ∧
        breaker.enterCall before = (some ⟨false⟩, breaker.refresh before)) := by
  unfold CircuitBreaker.enterCall
  cases isState : (breaker.refresh before).state with
  | «open» => exact .inl ⟨rfl, by simp [isState]⟩
  | closed => exact .inr (.inr (.inr ⟨rfl, by simp [isState]⟩))
  | halfOpen =>
      by_cases fresh : (breaker.refresh before).halfOpenAttempts = 0
      · exact .inr (.inr (.inl ⟨rfl, fresh, by simp [isState, fresh]⟩))
      · exact .inr (.inl ⟨rfl, fresh, by simp [isState, Nat.pos_of_ne_zero fresh]⟩)

/-- **Starting a call keeps the invariant**: a half-open breaker admits one test call. -/
theorem BreakerSound.start (sound : BreakerSound before) :
    BreakerSound { (breaker.enterCall before).2 with
      inFlight := (breaker.enterCall before).2.inFlight ++ (breaker.enterCall before).1.toList } := by
  have current : BreakerSound (breaker.refresh before) := sound.refresh
  rcases admit_cases breaker before with
    ⟨isOpen, ran⟩ | ⟨half, attempted, ran⟩ | ⟨half, fresh, ran⟩ | ⟨isClosed, ran⟩
  · rw [ran, Option.toList_none, List.append_nil]
    exact current
  · rw [ran, Option.toList_none, List.append_nil]
    exact ⟨fun _ none => absurd none (Nat.succ_ne_zero _), fun _ _ => current.attempted half attempted,
      fun other => absurd half other⟩
  · rw [ran, Option.toList_some]
    refine ⟨fun _ none => absurd none Nat.one_ne_zero, fun _ _ => ?_, fun other => absurd half other⟩
    have idle : (breaker.refresh before).inFlight.countP AdmittedCall.test = 0 :=
      current.unattempted half fresh
    unfold BreakerState.tests
    rw [List.countP_append, idle]
    rfl
  · rw [ran, Option.toList_some]
    have other : (breaker.refresh before).state ≠ .halfOpen := by rw [isClosed]; decide
    refine sound_of_idle ?_ other
    have idle : (breaker.refresh before).inFlight.countP AdmittedCall.test = 0 := current.elsewhere other
    unfold BreakerState.tests
    rw [List.countP_append, idle]
    rfl

/-- **Every orderly event keeps the invariant.** -/
theorem BreakerSound.step {event : BreakerEvent Time} (sound : BreakerSound before)
    (orderly : Orderly before event) (stepped : breakerStep breaker before event = some after) :
    BreakerSound after := by
  cases event with
  | start =>
      rw [← Option.some.inj stepped]
      exact sound.start
  | succeed index =>
      obtain ⟨call, found, rfl⟩ := Option.map_eq_some_iff.mp stepped
      obtain ⟨closed, tests⟩ := onSuccess_spec (before.leave index)
      exact sound_of_idle (tests.trans (sound.tests_leave found orderly)) closed
  | fail index =>
      obtain ⟨call, found, rfl⟩ := Option.map_eq_some_iff.mp stepped
      obtain ⟨closed, tests⟩ := onFailure_spec breaker (before.leave index)
      exact sound_of_idle (tests.trans (sound.tests_leave found orderly)) closed
  | cancel index =>
      obtain ⟨call, found, rfl⟩ := Option.map_eq_some_iff.mp stepped
      have notTest : ¬call.test = true := by
        have kept : ¬before.inFlight[index]?.any AdmittedCall.test := orderly
        rw [found] at kept
        exact kept
      have same : before.tests = (before.leave index).tests := by
        have parted := CosMonitor.tests_leave found
        rw [if_neg notTest] at parted
        exact parted
      exact ⟨fun half fresh => same.symm.trans (sound.unattempted half fresh),
        fun half attempted => same.symm.trans (sound.attempted half attempted),
        fun other => same.symm.trans (sound.elsewhere other)⟩
  | read =>
      rw [← Option.some.inj stepped]
      exact sound.refresh
  | advance later =>
      obtain ⟨-, built⟩ := Option.ite_none_right_eq_some.mp stepped
      rw [← Option.some.inj built]
      exact ⟨sound.unattempted, sound.attempted, sound.elsewhere⟩

/-- **A sound breaker keeps its promise.** -/
theorem BreakerSound.serves (sound : BreakerSound state) : BreakerServes breaker state where
  single := fun _ => sound.tests_le
  recovers := by
    intro elapsed empty
    have idle : state.tests = 0 := by
      unfold BreakerState.tests
      rw [empty]
      rfl
    rcases admit_cases breaker state with
      ⟨isOpen, -⟩ | ⟨half, attempted, -⟩ | ⟨-, -, ran⟩ | ⟨-, ran⟩
    · -- An open breaker whose timeout has passed is not read as open.
      unfold CircuitBreaker.refresh at isOpen
      split at isOpen
      · cases isOpen
      · rename_i still
        exact absurd ⟨isOpen, elapsed⟩ still
    · unfold CircuitBreaker.refresh at half attempted
      split at half
      · rename_i reopens
        rw [if_pos reopens] at attempted
        exact absurd rfl attempted
      · rename_i still
        rw [if_neg still] at attempted
        exact absurd (idle.symm.trans (sound.attempted half attempted)) Nat.zero_ne_one
    · rw [ran]
      rfl
    · rw [ran]
      rfl

/-- **Every interleaving.** From a new breaker, as long as no test call is cancelled, and no other call
returns or raises while a test call of the half-open breaker is in flight, at most one test call is in
flight and the breaker is never stuck. -/
theorem orderly_breaker [Zero Time] (breaker : CircuitBreaker Time) (now : Time)
    (state : BreakerState Time)
    (reached : (breakerSystem breaker).Reachable Orderly (newBreaker now) state) :
    BreakerServes breaker state := by
  have sound : BreakerSound state :=
    reached.invariant (newBreaker_sound now) fun before event after holds orderly stepped =>
      holds.step orderly stepped
  exact sound.serves

/-! ### A cancelled test call -/

/-- A half-open breaker whose attempt nobody ends. -/
structure Stuck (state : BreakerState Time) : Prop where
  half : state.state = .halfOpen
  attempted : state.halfOpenAttempts ≠ 0
  empty : state.inFlight = []

theorem Stuck.refresh (stuck : Stuck state) : breaker.refresh state = state := by
  unfold CircuitBreaker.refresh
  rw [if_neg]
  rintro ⟨isOpen, -⟩
  cases stuck.half.symm.trans isOpen

theorem Stuck.enterCall (stuck : Stuck state) : breaker.enterCall state =
    (none, { state with halfOpenAttempts := state.halfOpenAttempts + 1 }) := by
  rcases admit_cases breaker state with ⟨isOpen, -⟩ | ⟨-, -, ran⟩ | ⟨-, fresh, -⟩ | ⟨isClosed, -⟩
  · rw [stuck.refresh] at isOpen
    cases stuck.half.symm.trans isOpen
  · rw [stuck.refresh] at ran
    exact ran
  · rw [stuck.refresh] at fresh
    exact absurd fresh stuck.attempted
  · rw [stuck.refresh] at isClosed
    cases stuck.half.symm.trans isClosed

theorem Stuck.step {event : BreakerEvent Time} (stuck : Stuck before)
    (stepped : breakerStep breaker before event = some after) : Stuck after := by
  have nobody : ∀ index : Nat, before.inFlight[index]? = none := by
    intro index
    rw [stuck.empty]
    rfl
  cases event with
  | start =>
      rw [breakerStep, stuck.enterCall] at stepped
      rw [← Option.some.inj stepped]
      exact ⟨stuck.half, Nat.succ_ne_zero _, (List.append_nil _).trans stuck.empty⟩
  | succeed index | fail index | cancel index =>
      obtain ⟨call, found, -⟩ := Option.map_eq_some_iff.mp stepped
      cases (nobody index).symm.trans found
  | read =>
      rw [breakerStep, stuck.refresh] at stepped
      rw [← Option.some.inj stepped]
      exact stuck
  | advance later =>
      obtain ⟨-, built⟩ := Option.ite_none_right_eq_some.mp stepped
      rw [← Option.some.inj built]
      exact ⟨stuck.half, stuck.attempted, stuck.empty⟩

/-- **A stuck breaker rejects every call for ever**, whatever happens and however long one waits. -/
theorem stuck_forever (breaker : CircuitBreaker Time) (start : BreakerState Time) (stuck : Stuck start)
    (reached : (breakerSystem breaker).Reachable (fun _ _ => True) start state) :
    (breaker.enterCall state).1 = none := by
  have still : Stuck state :=
    reached.invariant stuck fun before event after holds _ stepped => holds.step stepped
  rw [still.enterCall]

end Breaker

/-! ### Two runs -/

/-- A breaker that opens at the first failure, for thirty seconds. -/
def thirtySeconds : CircuitBreaker Int where
  failureThreshold := 1
  resetTimeout := 30

/-- A failure, and a test call that returns: the breaker is closed again. -/
theorem orderly_breaker_recovers : ∃ state : BreakerState Int,
    state.state = .closed ∧ BreakerServes thirtySeconds state := by
  have ran : ((breakerSystem thirtySeconds).guardedRun Orderly (newBreaker 0)
      [.start, .fail 0, .advance 30, .start, .succeed 0]).any
        (fun state => decide (state.state = .closed)) = true := by
    decide
  obtain ⟨state, reached, closed⟩ := Transition.System.guardedRun_reaches ran
  exact ⟨state, closed, orderly_breaker thirtySeconds 0 state reached⟩

/-- **Neither promise is kept**: a test call is cancelled, and the breaker rejects every call; a call that
was admitted before fails late, and a second test call joins the first. -/
theorem breaker_breaks :
    (¬ ∀ state : BreakerState Int,
      (breakerSystem thirtySeconds).Reachable (fun _ _ => True) (newBreaker 0) state →
        thirtySeconds.Elapsed state → state.inFlight = [] → (thirtySeconds.enterCall state).1.isSome) ∧
    ¬ ∀ state : BreakerState Int,
      (breakerSystem thirtySeconds).Reachable (fun _ _ => True) (newBreaker 0) state →
        state.state = .halfOpen → state.tests ≤ 1 := by
  constructor
  · have ran : ((breakerSystem thirtySeconds).run (newBreaker 0)
        [.start, .fail 0, .advance 30, .start, .cancel 0]).any (fun state =>
          decide (thirtySeconds.Elapsed state ∧ state.inFlight = [] ∧
            ¬(thirtySeconds.enterCall state).1.isSome)) = true := by
      decide
    obtain ⟨state, -, reached, elapsed, empty, rejected⟩ := Transition.System.run_reaches ran
    exact fun recovers => rejected (recovers state reached elapsed empty)
  · have ran : ((breakerSystem thirtySeconds).run (newBreaker 0)
        [.start, .start, .fail 0, .advance 30, .start, .fail 0, .advance 60, .start]).any (fun state =>
          decide (state.state = .halfOpen ∧ ¬state.tests ≤ 1)) = true := by
      decide
    obtain ⟨state, -, reached, half, several⟩ := Transition.System.run_reaches ran
    exact fun single => several (single state reached half)

end CosMonitor
