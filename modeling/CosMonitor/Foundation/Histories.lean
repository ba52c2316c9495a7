/-
**What is left of a table along a run.**

The rows of a table stay at their places: an insert goes to the end, an update rewrites rows where they are.
Programs that relate the states before and after each of their statements relate the first and the last state
of every interleaving.

* `Onward`: every row is still there, as what it has become;
* `onward_append`, `onward_updateWhere`: after an insert, and after an update;
* `Writing.run`: **the rule of written runs** — the states of a run are related by the statements.
-/

import CosMonitor.Foundation.Growing
import CosMonitor.Foundation.Table

/-! ### Rows over time -/

namespace Table

variable {Row : Type} {becomes : Row → Row → Prop} {before after later rows : List Row}

/-- Every row is at its place, as what it has become. -/
def Onward (becomes : Row → Row → Prop) (before after : List Row) : Prop :=
  ∀ (position : ℕ) (row : Row), before[position]? = some row →
    ∃ other, after[position]? = some other ∧ becomes row other

theorem Onward.refl (same : ∀ row, becomes row row) (rows : List Row) : Onward becomes rows rows :=
  fun _ row found => ⟨row, found, same row⟩

theorem Onward.trans (composes : ∀ {first second third}, becomes first second → becomes second third →
    becomes first third) (early : Onward becomes before after) (late : Onward becomes after later) :
    Onward becomes before later := by
  intro position row found
  obtain ⟨middle, atMiddle, first⟩ := early position row found
  obtain ⟨last, atLast, second⟩ := late position middle atMiddle
  exact ⟨last, atLast, composes first second⟩

theorem onward_append (same : ∀ row, becomes row row) (rows added : List Row) :
    Onward becomes rows (rows ++ added) := by
  intro position row found
  have inside : position < rows.length := (List.getElem?_eq_some_iff.mp found).1
  exact ⟨row, by rw [List.getElem?_append_left inside, found], same row⟩

theorem getElem?_updateWhere {selected : Row → Bool} {patch : Row → Row} {position : ℕ} {row : Row}
    (found : rows[position]? = some row) :
    (updateWhere selected patch rows)[position]? = some (if selected row then patch row else row) := by
  unfold updateWhere
  rw [List.getElem?_map, found, Option.map_some]

theorem onward_updateWhere {selected : Row → Bool} {patch : Row → Row} (same : ∀ row, becomes row row)
    (patched : ∀ row, selected row = true → becomes row (patch row)) (rows : List Row) :
    Onward becomes rows (updateWhere selected patch rows) := by
  intro position row found
  refine ⟨_, getElem?_updateWhere found, ?_⟩
  split
  · rename_i chosen
    exact patched row chosen
  · exact same row

end Table

/-! ### Programs whose statements are known -/

namespace Interleaving

open Transition

variable {State Failure Value : Type} {relation : State → State → Prop}

namespace Program

theorem Writes.query {view : State → Value} {failed : Program State Failure Value}
    (same : ∀ state, relation state state) (writes : failed.Writes relation) :
    (Program.query view failed).Writes relation :=
  ⟨fun state => ⟨same state, trivial⟩, writes⟩

theorem Writes.execute {write : State → State} {failed : Program State Failure Unit}
    (related : ∀ state, relation state (write state)) (writes : failed.Writes relation) :
    (Program.execute write failed).Writes relation :=
  ⟨fun state => ⟨related state, trivial⟩, writes⟩

end Program

namespace Pool

variable {start pool : Pool State Failure Value}

/-- Every statement of every program is one of the known ones. -/
def Writing (relation : State → State → Prop) (pool : Pool State Failure Value) : Prop :=
  ∀ program ∈ pool.programs, program.Writes relation

theorem Writing.step {turn : Turn} {after : Pool State Failure Value} (writing : pool.Writing relation)
    (stepped : system.step pool turn = some after) :
    (after.shared = pool.shared ∨ relation pool.shared after.shared) ∧ after.Writing relation := by
  unfold system at stepped
  dsimp only at stepped
  split at stepped
  · rename_i write next failed found
    obtain ⟨executes, fails⟩ := writing _ (List.mem_of_getElem? found)
    split at stepped
    · cases stepped
      refine ⟨.inl rfl, fun other member => ?_⟩
      rcases List.mem_or_eq_of_mem_set member with old | rfl
      · exact writing other old
      · exact fails
    · cases stepped
      refine ⟨.inr (executes pool.shared).1, fun other member => ?_⟩
      rcases List.mem_or_eq_of_mem_set member with old | rfl
      · exact writing other old
      · exact (executes pool.shared).2
  · cases stepped

/-- **The rule of written runs.** -/
theorem Writing.run {guard : Pool State Failure Value → Turn → Prop} (writing : start.Writing relation)
    (reached : system.Reachable guard start pool) :
    Relation.ReflTransGen relation start.shared pool.shared ∧ pool.Writing relation := by
  induction reached with
  | refl => exact ⟨.refl, writing⟩
  | tail _ moved ih =>
      obtain ⟨turn, -, stepped⟩ := moved
      obtain ⟨written, still⟩ := ih.2.step stepped
      refine ⟨?_, still⟩
      rcases written with same | related
      · rw [same]
        exact ih.1
      · exact ih.1.tail related

theorem Writing.keeps {guard : Pool State Failure Value → Turn → Prop} {invariant : State → Prop}
    (writing : start.Writing relation) (reached : system.Reachable guard start pool)
    (kept : ∀ before after, relation before after → invariant before → invariant after)
    (holds : invariant start.shared) : invariant pool.shared := by
  obtain ⟨steps, -⟩ := writing.run reached
  generalize pool.shared = last at steps
  induction steps with
  | refl => exact holds
  | tail _ related ih => exact kept _ _ related ih

end Pool

end Interleaving
