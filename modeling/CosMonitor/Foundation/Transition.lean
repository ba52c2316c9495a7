/-
**Labelled transition systems: guarded reachability and the invariant rule.**

A `System` is a partial step function: `none` is an action that is not enabled. `Reachable guard`
is every state a run reaches when each of its steps meets the guard, so a property that holds only
under a condition on the steps is a property of the guarded runs.

* `Reachable.invariant`: an initial property that every guarded step keeps holds in every reachable
  state;
* `guardedRun_reachable`, `run_reachable`: a list of actions that executes within the guard is a
  guarded run, so a concrete execution shows that a property of the guarded runs is not empty;
* `run_reaches`, `guardedRun_reaches`: what a decidable property of such an execution says.
-/

import Mathlib.Logic.Relation
import Mathlib.Algebra.GroupWithZero.Nat
import Mathlib.Data.List.Basic

namespace Transition

instance neZero_soleWorker : NeZero 1 := ⟨Nat.one_ne_zero⟩

/-- A labelled transition system with a partial, deterministic step. -/
structure System (State Action : Type) where
  step : State → Action → Option State

namespace System

variable {State Action : Type} (system : System State Action)

/-- One enabled step that meets the guard. -/
def Moves (guard : State → Action → Prop) (before after : State) : Prop :=
  ∃ action, guard before action ∧ system.step before action = some after

/-- The states of the runs whose every step meets the guard. -/
def Reachable (guard : State → Action → Prop) (start : State) : State → Prop :=
  Relation.ReflTransGen (system.Moves guard) start

/-- Execute a list of actions; `none` as soon as one of them is not enabled. -/
def run : State → List Action → Option State
  | state, [] => some state
  | state, action :: rest => (system.step state action).bind fun next => run next rest

/-- Execute a list of actions whose every step meets the guard. -/
def guardedRun (guard : State → Action → Prop) [∀ state action, Decidable (guard state action)] :
    State → List Action → Option State
  | state, [] => some state
  | state, action :: rest =>
      if guard state action then
        (system.step state action).bind fun next => guardedRun guard next rest
      else none

variable {system} {guard : State → Action → Prop} {start state : State}

theorem Reachable.refl : system.Reachable guard start start :=
  Relation.ReflTransGen.refl

theorem Reachable.tail {next : State} {action : Action} (reached : system.Reachable guard start state)
    (meets : guard state action) (moved : system.step state action = some next) :
    system.Reachable guard start next :=
  Relation.ReflTransGen.tail reached ⟨action, meets, moved⟩

/-- **The invariant rule.** -/
theorem Reachable.invariant {holds : State → Prop} (reached : system.Reachable guard start state)
    (initial : holds start)
    (kept : ∀ before action after, holds before → guard before action →
      system.step before action = some after → holds after) : holds state := by
  induction reached with
  | refl => exact initial
  | tail _ moved ih =>
      obtain ⟨action, meets, stepped⟩ := moved
      exact kept _ action _ ih meets stepped

theorem Reachable.weaken {weaker : State → Action → Prop}
    (reached : system.Reachable guard start state)
    (implies : ∀ before action, guard before action → weaker before action) :
    system.Reachable weaker start state := by
  refine Relation.ReflTransGen.mono (fun before after moved => ?_) _ _ reached
  obtain ⟨action, meets, stepped⟩ := moved
  exact ⟨action, implies before action meets, stepped⟩

theorem guardedRun_reachable [∀ state action, Decidable (guard state action)]
    {actions : List Action} (executed : system.guardedRun guard start actions = some state) :
    system.Reachable guard start state := by
  induction actions generalizing start with
  | nil =>
      rw [guardedRun, Option.some.injEq] at executed
      rw [← executed]
      exact Reachable.refl
  | cons action rest ih =>
      rw [guardedRun] at executed
      split at executed
      · rename_i meets
        obtain ⟨next, stepped, remaining⟩ := Option.bind_eq_some_iff.mp executed
        exact Relation.ReflTransGen.head ⟨action, meets, stepped⟩ (ih remaining)
      · cases executed

theorem run_reachable {actions : List Action} (executed : system.run start actions = some state)
    (meets : ∀ action ∈ actions, ∀ before, guard before action) :
    system.Reachable guard start state := by
  induction actions generalizing start with
  | nil =>
      rw [run, Option.some.injEq] at executed
      rw [← executed]
      exact Reachable.refl
  | cons action rest ih =>
      rw [run] at executed
      obtain ⟨next, stepped, remaining⟩ := Option.bind_eq_some_iff.mp executed
      exact Relation.ReflTransGen.head ⟨action, meets action List.mem_cons_self start, stepped⟩
        (ih remaining fun other member => meets other (List.mem_cons_of_mem _ member))

theorem run_reaches {actions : List Action} {holds : State → Prop} [DecidablePred holds]
    (executed : (system.run start actions).any (fun state => decide (holds state)) = true) :
    ∃ state, system.run start actions = some state ∧
      system.Reachable (fun _ _ => True) start state ∧ holds state := by
  obtain ⟨state, ran, kept⟩ := (Option.any_eq_true _ _).mp executed
  exact ⟨state, ran, run_reachable ran fun _ _ _ => trivial, of_decide_eq_true kept⟩

theorem guardedRun_reaches [∀ state action, Decidable (guard state action)] {actions : List Action}
    {holds : State → Prop} [DecidablePred holds]
    (executed : (system.guardedRun guard start actions).any (fun state => decide (holds state)) = true) :
    ∃ state, system.Reachable guard start state ∧ holds state := by
  obtain ⟨state, ran, kept⟩ := (Option.any_eq_true _ _).mp executed
  exact ⟨state, guardedRun_reachable ran, of_decide_eq_true kept⟩

end System

end Transition
