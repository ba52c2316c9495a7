/-
**Programs over a shared state, interleaved statement by statement.**

A `Program` is what a function does to a shared state: each of its statements reads the state and
changes it at once, or fails and changes nothing. `Pool` runs several programs; a scheduler picks the
program whose next statement is executed, and whether it fails.

* `alone_bind`: a program that runs alone is a computation on the state, part by part;
* `Safe`: what every statement of a program keeps, and what the program then returns, with the rule of
  sequences `Safe.bind`;
* `pool_safe`: **the rule of interleavings** — an invariant that every program keeps holds in every
  interleaving, and every program that has finished has returned what its own rule says.
-/

import CosMonitor.Foundation.Result
import CosMonitor.Foundation.Transition

namespace Interleaving

open Result Transition

/-- A program over a shared state. Where a statement fails it changes nothing, and `failed` follows. -/
inductive Program (State Failure Value : Type) where
  | done (result : Except Failure Value)
  | statement (write : State → State) (next : State → Program State Failure Value)
      (failed : Program State Failure Value)

variable {State Failure First Second Value : Type}

namespace Program

/-- One program after the other, with what the first one returned. -/
def bind : Program State Failure First → (First → Program State Failure Second) →
    Program State Failure Second
  | .done (.ok value), rest => rest value
  | .done (.error failure), _ => .done (.error failure)
  | .statement write next failed, rest =>
      .statement write (fun state => (next state).bind rest) (failed.bind rest)

instance : Monad (Program State Failure) where
  pure value := .done (.ok value)
  bind := bind

/-- Raise an error. -/
def raise (failure : Failure) : Program State Failure Value :=
  .done (.error failure)

/-- A statement that reads. -/
def query (view : State → Value) (failed : Program State Failure Value) :
    Program State Failure Value :=
  .statement id (fun state => .done (.ok (view state))) failed

/-- A statement that writes. -/
def execute (write : State → State) (failed : Program State Failure Unit) :
    Program State Failure Unit :=
  .statement write (fun _ => .done (.ok ())) failed

/-! ### A program alone -/

/-- The program alone, with no statement that fails. -/
def alone : Program State Failure Value → Effect State Failure Value
  | .done result => fun state => (result, state)
  | .statement write next _ => fun state => (next state).alone (write state)

/-- **A sequence alone** is the sequence of its parts. -/
theorem alone_bind (program : Program State Failure First)
    (rest : First → Program State Failure Second) :
    (program >>= rest).alone = program.alone >>= fun value => (rest value).alone := by
  funext state
  show (program.bind rest).alone state = _
  induction program generalizing state with
  | done result =>
      rcases result with failure | value
      · rfl
      · rfl
  | statement write next failed ih _ => exact ih state (write state)

/-- A sequence alone does what a sequence of effects does, if its parts do. -/
theorem alone_sequence {program : Program State Failure First} {effect : Effect State Failure First}
    {rest : First → Program State Failure Second} {next : First → Effect State Failure Second}
    (first : program.alone = effect) (second : ∀ value, (rest value).alone = next value) :
    (program >>= rest).alone = effect >>= next := by
  rw [alone_bind, first]
  congr 1
  funext value
  exact second value

/-! ### What a program keeps -/

/-- Every statement keeps the invariant, whatever other programs that keep it do in between, and the
result satisfies `post`. `failing` says whether statements may fail. -/
def Safe (failing : Prop) (invariant : State → Prop) (post : Except Failure Value → Prop) :
    Program State Failure Value → Prop
  | .done result => post result
  | .statement write next failed =>
      (∀ state, invariant state →
        invariant (write state) ∧ (next state).Safe failing invariant post) ∧
      (failing → failed.Safe failing invariant post)

variable {failing : Prop} {invariant : State → Prop} {post : Except Failure Value → Prop}

/-- **The rule of sequences.** -/
theorem Safe.bind {post : Except Failure Second → Prop} {program : Program State Failure First}
    {rest : First → Program State Failure Second}
    (safe : program.Safe failing invariant fun result =>
      match result with
      | .ok value => (rest value).Safe failing invariant post
      | .error failure => post (.error failure)) :
    (program >>= rest).Safe failing invariant post := by
  show (program.bind rest).Safe failing invariant post
  induction program with
  | done result =>
      rcases result with failure | value
      · exact safe
      · exact safe
  | statement write next failed ih ihFailed =>
      refine ⟨fun state holds => ?_, fun fails => ihFailed (safe.2 fails)⟩
      obtain ⟨kept, rest⟩ := safe.1 state holds
      exact ⟨kept, ih state rest⟩

theorem Safe.query {view : State → Value} {failed : Program State Failure Value}
    (found : ∀ state, invariant state → post (.ok (view state)))
    (safe : failing → failed.Safe failing invariant post) :
    (query view failed).Safe failing invariant post :=
  ⟨fun state holds => ⟨holds, found state holds⟩, safe⟩

theorem Safe.execute {post : Except Failure Unit → Prop} {write : State → State}
    {failed : Program State Failure Unit}
    (kept : ∀ state, invariant state → invariant (write state)) (returned : post (.ok ()))
    (safe : failing → failed.Safe failing invariant post) :
    (execute write failed).Safe failing invariant post :=
  ⟨fun state holds => ⟨kept state holds, returned⟩, safe⟩

/-- The result of a program that has finished. -/
def result : Program State Failure Value → Option (Except Failure Value)
  | .done result => some result
  | .statement .. => none

end Program

/-! ### Several programs -/

/-- Programs that run over one state. -/
structure Pool (State Failure Value : Type) where
  shared : State
  programs : List (Program State Failure Value)

/-- What a scheduler picks: the program whose next statement is executed, and whether it fails. -/
structure Turn where
  index : ℕ
  fails : Bool
  deriving DecidableEq, Repr

namespace Pool

/-- The interleavings of the programs of a pool. -/
def system : System (Pool State Failure Value) Turn where
  step pool turn :=
    match pool.programs[turn.index]? with
    | some (.statement write next failed) =>
        if turn.fails then some { pool with programs := pool.programs.set turn.index failed }
        else some {
          shared := write pool.shared
          programs := pool.programs.set turn.index (next pool.shared) }
    | _ => none

/-- Schedules in which a statement fails only if it may. -/
def FailingOnly (failing : Prop) (_ : Pool State Failure Value) (turn : Turn) : Prop :=
  turn.fails = true → failing

/-- Every program has finished. -/
def Finished (pool : Pool State Failure Value) : Prop :=
  ∀ program ∈ pool.programs, ∃ result, program.result = some result

/-- Whether a program has returned. -/
def returned (program : Program State Failure Value) : Bool :=
  match program.result with
  | some (.ok _) => true
  | _ => false

/-- How many programs have returned. -/
def successes (pool : Pool State Failure Value) : ℕ :=
  pool.programs.countP returned

/-- Exactly one program returns, in every interleaving that finishes with no statement that fails. -/
def OneShot (start : Pool State Failure Value) : Prop :=
  ∀ pool, system.Reachable (FailingOnly False) start pool → pool.Finished → pool.successes = 1

/-- What a program has returned, if it has finished. -/
def resultAt (pool : Pool State Failure Value) (index : ℕ) : Option (Except Failure Value) :=
  pool.programs[index]?.bind Program.result

/-- A schedule at whose end a program has just returned. -/
structure ReturnsAt (start : Pool State Failure Value) (turns : List Turn) (index : ℕ)
    (pool : Pool State Failure Value) (result : Except Failure Value) : Prop where
  ran : system.run start turns = some pool
  now : pool.resultAt index = some result
  notBefore : ∀ earlier, earlier <+: turns → earlier ≠ turns →
    ∀ before, system.run start earlier = some before → before.resultAt index = none

variable {failing : Prop} {invariant : State → Prop} {post : Except Failure Value → Prop}
  {start pool : Pool State Failure Value}

theorem Finished.step_none (finished : pool.Finished) (turn : Turn) : system.step pool turn = none := by
  unfold system
  dsimp only
  split
  · rename_i write next failed found
    obtain ⟨result, ended⟩ := finished _ (List.mem_of_getElem? found)
    cases ended
  · rfl

theorem Finished.run_eq {turns : List Turn} (finished : start.Finished)
    (ran : system.run start turns = some pool) : turns = [] ∧ pool = start := by
  cases turns with
  | nil => exact ⟨rfl, (Option.some.inj ran).symm⟩
  | cons turn rest =>
      rw [System.run, finished.step_none] at ran
      cases ran

/-- The invariant holds, and every program keeps it. -/
structure Safe (failing : Prop) (invariant : State → Prop) (post : Except Failure Value → Prop)
    (pool : Pool State Failure Value) : Prop where
  shared : invariant pool.shared
  programs : ∀ program ∈ pool.programs, program.Safe failing invariant post

theorem Safe.step {turn : Turn} {after : Pool State Failure Value}
    (safe : pool.Safe failing invariant post) (meets : FailingOnly failing pool turn)
    (stepped : system.step pool turn = some after) : after.Safe failing invariant post := by
  unfold system at stepped
  dsimp only at stepped
  split at stepped
  · rename_i write next failed found
    obtain ⟨kept, fails⟩ := safe.programs _ (List.mem_of_getElem? found)
    have replaced : ∀ {program other : Program State Failure Value},
        program.Safe failing invariant post →
          other ∈ pool.programs.set turn.index program → other.Safe failing invariant post := by
      intro program other safeProgram member
      rcases List.mem_or_eq_of_mem_set member with old | rfl
      · exact safe.programs other old
      · exact safeProgram
    split at stepped
    · rename_i failedTurn
      cases stepped
      exact ⟨safe.shared, fun other member => replaced (fails (meets failedTurn)) member⟩
    · cases stepped
      obtain ⟨holds, rest⟩ := kept pool.shared safe.shared
      exact ⟨holds, fun other member => replaced rest member⟩
  · cases stepped

/-- **The rule of interleavings.** -/
theorem pool_safe (reached : system.Reachable (FailingOnly failing) start pool)
    (safe : start.Safe failing invariant post) : pool.Safe failing invariant post := by
  have kept : ∀ (before : Pool State Failure Value) (turn : Turn) (after : Pool State Failure Value),
      before.Safe failing invariant post → FailingOnly failing before turn →
        system.step before turn = some after → after.Safe failing invariant post :=
    fun before turn after safe meets stepped => safe.step meets stepped
  exact reached.invariant safe kept

theorem Safe.result (safe : pool.Safe failing invariant post) {program : Program State Failure Value}
    (member : program ∈ pool.programs) {result : Except Failure Value}
    (ended : program.result = some result) : post result := by
  have own := safe.programs program member
  cases program with
  | done other =>
      cases Option.some.inj ended
      exact own
  | statement write next failed => cases ended

theorem step_program {turn : Turn} {after : Pool State Failure Value} (index : ℕ)
    (stepped : system.step pool turn = some after) :
    after.programs[index]? = pool.programs[index]? ∨
      turn.index = index ∧ ∃ write next failed, pool.programs[index]? = some (.statement write next failed) ∧
        after.programs[index]? = some (if turn.fails then failed else next pool.shared) := by
  unfold system at stepped
  dsimp only at stepped
  split at stepped
  · rename_i write next failed found
    have inside : turn.index < pool.programs.length := (List.getElem?_eq_some_iff.mp found).1
    by_cases same : turn.index = index
    · subst same
      refine .inr ⟨rfl, write, next, failed, found, ?_⟩
      split at stepped
      · rename_i fails
        cases stepped
        rw [if_pos fails]
        exact List.getElem?_set_self inside
      · rename_i executes
        cases stepped
        rw [if_neg executes]
        exact List.getElem?_set_self inside
    · refine .inl ?_
      split at stepped
      · cases stepped
        exact List.getElem?_set_ne same
      · cases stepped
        exact List.getElem?_set_ne same
  · cases stepped

end Pool

end Interleaving
