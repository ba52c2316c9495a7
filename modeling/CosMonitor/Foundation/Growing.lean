/-
**Programs over a state that only grows.**

The states are ordered, and every statement of every program leads up the order. What a program has read
then stays true, whatever the other programs do before its next statement.

* `Program.Grows`: from a state on, the statements of a program keep the invariant and lead up the order,
  with the rule of sequences `Grows.bind`;
* `Program.Writes`: what the statements of a program leave alone;
* `spawning`: tasks that are started at any time, and run interleaved with those that were started before;
* `spawning_grows`: **the rule of growing runs** — where every task grows from every state in which the
  invariant holds, a run keeps the invariant, and no state of it is below the first one.
-/

import CosMonitor.Foundation.Interleaving
import Mathlib.Order.Basic

namespace Interleaving

open Result Transition

variable {State Failure First Second Value : Type}

namespace Program

/-! ### Programs that grow -/

section Grows

variable [Preorder State]

/-- From the state `since` on, every statement keeps the invariant and leads up the order, whatever grows
in between, and the result satisfies `post` in the state in which it is there. -/
def Grows (failing : Prop) (invariant : State → Prop) (post : State → Except Failure Value → Prop) :
    State → Program State Failure Value → Prop
  | since, .done result => post since result
  | since, .statement write next failed =>
      (∀ state, since ≤ state → invariant state →
        state ≤ write state ∧ invariant (write state) ∧
          (next state).Grows failing invariant post (write state)) ∧
        (failing → failed.Grows failing invariant post since)

/-- What holds in a state holds in the states above it. -/
def Upward (post : State → Except Failure Value → Prop) : Prop :=
  ∀ state later result, state ≤ later → post state result → post later result

variable {failing : Prop} {invariant : State → Prop} {post : State → Except Failure Value → Prop}
  {program : Program State Failure Value} {since later : State}

theorem upward_true : Upward fun (_ : State) (_ : Except Failure Value) => True :=
  fun _ _ _ _ _ => trivial

theorem Grows.mono (upward : Upward post) (above : since ≤ later)
    (grows : program.Grows failing invariant post since) :
    program.Grows failing invariant post later := by
  induction program with
  | done result => exact upward _ _ _ above grows
  | statement write next failed _ ihFailed =>
      refine ⟨fun state reached holds => ?_, fun fails => ihFailed (grows.2 fails)⟩
      exact grows.1 state (above.trans reached) holds

theorem Grows.weaken {weaker : State → Except Failure Value → Prop}
    (implies : ∀ state result, post state result → weaker state result)
    (grows : program.Grows failing invariant post since) :
    program.Grows failing invariant weaker since := by
  induction program generalizing since with
  | done result => exact implies _ _ grows
  | statement write next failed ih ihFailed =>
      refine ⟨fun state reached holds => ?_, fun fails => ihFailed (grows.2 fails)⟩
      obtain ⟨above, kept, rest⟩ := grows.1 state reached holds
      exact ⟨above, kept, ih state rest⟩

theorem Grows.above (grows : program.Grows failing invariant post since) :
    program.Grows failing invariant (fun state result => since ≤ state ∧ post state result) since := by
  induction program generalizing since with
  | done result => exact ⟨le_refl since, grows⟩
  | statement write next failed ih ihFailed =>
      refine ⟨fun state reached holds => ?_, fun fails => ihFailed (grows.2 fails)⟩
      obtain ⟨above, kept, rest⟩ := grows.1 state reached holds
      exact ⟨above, kept, (ih state rest).weaken fun later result ended =>
        ⟨(reached.trans above).trans ended.1, ended.2⟩⟩

/-- **The rule of sequences.** -/
theorem Grows.bind {post : State → Except Failure Second → Prop} {program : Program State Failure First}
    {rest : First → Program State Failure Second}
    (grows : program.Grows failing invariant (fun state result =>
      match result with
      | .ok value => (rest value).Grows failing invariant post state
      | .error failure => post state (.error failure)) since) :
    (program >>= rest).Grows failing invariant post since := by
  show (program.bind rest).Grows failing invariant post since
  induction program generalizing since with
  | done result =>
      rcases result with failure | value
      · exact grows
      · exact grows
  | statement write next failed ih ihFailed =>
      refine ⟨fun state reached holds => ?_, fun fails => ihFailed (grows.2 fails)⟩
      obtain ⟨above, kept, rest⟩ := grows.1 state reached holds
      exact ⟨above, kept, ih state rest⟩

theorem Grows.query {view : State → Value} {failed : Program State Failure Value}
    (found : ∀ state, since ≤ state → invariant state → post state (.ok (view state)))
    (grows : failing → failed.Grows failing invariant post since) :
    (query view failed).Grows failing invariant post since :=
  ⟨fun state reached holds => ⟨le_refl state, holds, found state reached holds⟩, grows⟩

theorem Grows.execute {post : State → Except Failure Unit → Prop} {write : State → State}
    {failed : Program State Failure Unit}
    (writes : ∀ state, since ≤ state → invariant state →
      state ≤ write state ∧ invariant (write state) ∧ post (write state) (.ok ()))
    (grows : failing → failed.Grows failing invariant post since) :
    (execute write failed).Grows failing invariant post since :=
  ⟨writes, grows⟩

end Grows

/-! ### Statements that may raise -/

/-- A statement with an answer: what raises changes what `act` says, and what fails changes nothing. -/
def perform (act : Effect State Failure Value) (failed : Program State Failure Value) :
    Program State Failure Value :=
  .statement (fun state => (act state).2) (fun state => .done (act state).1) failed

/-- `try`: the failures of a program as answers. -/
def attempted {Outer : Type} : Program State Failure Value → Program State Outer (Except Failure Value)
  | .done result => .done (.ok result)
  | .statement write next failed => .statement write (fun state => (next state).attempted) failed.attempted

section Rules

variable [Preorder State] {failing : Prop} {invariant : State → Prop} {since : State}

theorem Grows.perform {post : State → Except Failure Value → Prop} {act : Effect State Failure Value}
    {failed : Program State Failure Value}
    (acts : ∀ state, since ≤ state → invariant state →
      state ≤ (act state).2 ∧ invariant (act state).2 ∧ post (act state).2 (act state).1)
    (grows : failing → failed.Grows failing invariant post since) :
    (perform act failed).Grows failing invariant post since :=
  ⟨acts, grows⟩

/-- **The rule of `try`.** -/
theorem Grows.attempted {Outer : Type} {post : State → Except Outer (Except Failure Value) → Prop}
    {program : Program State Failure Value}
    (grows : program.Grows failing invariant (fun state result => post state (.ok result)) since) :
    (program.attempted : Program State Outer _).Grows failing invariant post since := by
  induction program generalizing since with
  | done result => exact grows
  | statement write next failed ih ihFailed =>
      refine ⟨fun state reached holds => ?_, fun fails => ihFailed (grows.2 fails)⟩
      obtain ⟨above, kept, rest⟩ := grows.1 state reached holds
      exact ⟨above, kept, ih state rest⟩

end Rules

theorem safe_true {failing : Prop} (program : Program State Failure Value) :
    program.Safe failing (fun _ => True) fun _ => True := by
  induction program with
  | done result => trivial
  | statement write next failed ih ihFailed => exact ⟨fun state _ => ⟨trivial, ih state⟩, fun _ => ihFailed⟩

theorem Safe.weaken {failing : Prop} {invariant : State → Prop}
    {post weaker : Except Failure Value → Prop} {program : Program State Failure Value}
    (implies : ∀ result, post result → weaker result) (safe : program.Safe failing invariant post) :
    program.Safe failing invariant weaker := by
  induction program with
  | done result => exact implies _ safe
  | statement write next failed ih ihFailed =>
      refine ⟨fun state holds => ?_, fun fails => ihFailed (safe.2 fails)⟩
      obtain ⟨kept, rest⟩ := safe.1 state holds
      exact ⟨kept, ih state rest⟩

theorem Safe.attempted {Outer : Type} {failing : Prop} {invariant : State → Prop}
    {post : Except Outer (Except Failure Value) → Prop} {program : Program State Failure Value}
    (safe : program.Safe failing invariant fun result => post (.ok result)) :
    (program.attempted : Program State Outer _).Safe failing invariant post := by
  induction program with
  | done result => exact safe
  | statement write next failed ih ihFailed =>
      refine ⟨fun state holds => ?_, fun fails => ihFailed (safe.2 fails)⟩
      obtain ⟨kept, rest⟩ := safe.1 state holds
      exact ⟨kept, ih state rest⟩

/-! ### What a program leaves alone -/

/-- Whatever its answers are, every statement of a program relates the states before and after it. -/
def Writes (relation : State → State → Prop) : Program State Failure Value → Prop
  | .done _ => True
  | .statement write next failed =>
      (∀ state, relation state (write state) ∧ (next state).Writes relation) ∧ failed.Writes relation

section Writes

variable {relation : State → State → Prop}

theorem Writes.bind {program : Program State Failure First} {rest : First → Program State Failure Second}
    (writes : program.Writes relation) (others : ∀ value, (rest value).Writes relation) :
    (program >>= rest).Writes relation := by
  show (program.bind rest).Writes relation
  induction program with
  | done result =>
      rcases result with failure | value
      · trivial
      · exact others value
  | statement write next failed ih ihFailed =>
      exact ⟨fun state => ⟨(writes.1 state).1, ih state (writes.1 state).2⟩, ihFailed writes.2⟩

theorem Writes.attempted {Outer : Type} {program : Program State Failure Value}
    (writes : program.Writes relation) :
    (program.attempted : Program State Outer (Except Failure Value)).Writes relation := by
  induction program with
  | done result => trivial
  | statement write next failed ih ihFailed =>
      exact ⟨fun state => ⟨(writes.1 state).1, ih state (writes.1 state).2⟩, ihFailed writes.2⟩

end Writes

end Program

/-! ### Tasks that are started at any time -/

/-- What happens: a task is started, or a program executes its next statement. -/
inductive Event (Task : Type) where
  | start (task : Task)
  | turn (turn : Turn)
  deriving DecidableEq, Repr

namespace Pool

variable {Task : Type}

/-- Nothing runs. -/
def idle (state : State) : Pool State Failure Value where
  shared := state
  programs := []

/-- The interleavings of tasks that are started one after the other. -/
def spawning (program : Task → Program State Failure Value) :
    System (Pool State Failure Value) (Event Task) where
  step pool event :=
    match event with
    | .start task => some { pool with programs := pool.programs ++ [program task] }
    | .turn turn => system.step pool turn

/-- Statements fail only if they may. -/
def SpawningOnly (failing : Prop) (_ : Pool State Failure Value) (event : Event Task) : Prop :=
  ∀ turn, event = .turn turn → turn.fails = true → failing

section Rule

variable [Preorder State] {failing : Prop} {invariant : State → Prop} {floor : State}
  {program : Task → Program State Failure Value} {start pool : Pool State Failure Value}

/-- The invariant holds above a floor, and every program grows from here. -/
structure Growing (failing : Prop) (invariant : State → Prop) (floor : State)
    (pool : Pool State Failure Value) : Prop where
  above : floor ≤ pool.shared
  shared : invariant pool.shared
  programs : ∀ program ∈ pool.programs,
    program.Grows failing invariant (fun _ _ => True) pool.shared

theorem growing_idle {state : State} (holds : invariant state) :
    (idle state : Pool State Failure Value).Growing failing invariant state :=
  ⟨le_refl state, holds, fun _ member => absurd member List.not_mem_nil⟩

theorem Growing.step {turn : Turn} {after : Pool State Failure Value}
    (growing : pool.Growing failing invariant floor) (meets : turn.fails = true → failing)
    (stepped : system.step pool turn = some after) : after.Growing failing invariant floor := by
  unfold system at stepped
  dsimp only at stepped
  split at stepped
  · rename_i write next failed found
    obtain ⟨executes, fails⟩ := growing.programs _ (List.mem_of_getElem? found)
    split at stepped
    · rename_i failedTurn
      cases stepped
      refine ⟨growing.above, growing.shared, fun other member => ?_⟩
      rcases List.mem_or_eq_of_mem_set member with old | rfl
      · exact growing.programs other old
      · exact fails (meets failedTurn)
    · cases stepped
      obtain ⟨above, kept, rest⟩ := executes pool.shared (le_refl _) growing.shared
      refine ⟨growing.above.trans above, kept, fun other member => ?_⟩
      rcases List.mem_or_eq_of_mem_set member with old | rfl
      · exact (growing.programs other old).mono Program.upward_true above
      · exact rest
  · cases stepped

/-- **The rule of growing runs.** -/
theorem spawning_grows
    (tasks : ∀ task state, invariant state →
      (program task).Grows failing invariant (fun _ _ => True) state)
    (growing : start.Growing failing invariant floor)
    (reached : (spawning program).Reachable (SpawningOnly failing) start pool) :
    pool.Growing failing invariant floor := by
  refine reached.invariant growing fun before event after holds meets stepped => ?_
  cases event with
  | start task =>
      cases stepped
      refine ⟨holds.above, holds.shared, fun other member => ?_⟩
      rcases List.mem_append.mp member with old | new
      · exact holds.programs other old
      · rw [List.mem_singleton.mp new]
        exact tasks task before.shared holds.shared
  | turn turn => exact holds.step (meets turn rfl) stepped

end Rule

end Pool

end Interleaving
