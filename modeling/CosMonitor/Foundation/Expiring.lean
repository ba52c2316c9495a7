/-
**Keys that expire.**

A store keeps for each of its keys the instant at which it is removed. `set` writes a key,
`setIfAbsent` writes it only when it is not there and says whether it did.

* `live_anti`: a key that is there later is there now, if nothing is written in between;
* `live_set_of_ne`: a write does not touch the other keys;
* `live_setIfAbsent`: `setIfAbsent` keeps every key that is there, until its own deadline.
-/

import Mathlib.Logic.Function.Basic
import Mathlib.Order.Lattice

namespace Expiring

/-- The keys of a store, each with the instant at which it is removed. -/
structure Store (Key Time : Type) where
  deadline : Key → Option Time

namespace Store

variable {Key Time : Type}

/-- A store without a key. -/
def empty : Store Key Time where
  deadline := fun _ => none

/-- Write a key that is removed at an instant. -/
def set [DecidableEq Key] (store : Store Key Time) (key : Key) (last : Time) : Store Key Time where
  deadline := Function.update store.deadline key (some last)

variable [LinearOrder Time] (store : Store Key Time)

/-- The key is there at an instant. -/
def Live (now : Time) (key : Key) : Prop :=
  (store.deadline key).any (fun last => decide (now < last)) = true

instance (now : Time) (key : Key) : Decidable (store.Live now key) :=
  inferInstanceAs (Decidable (_ = true))

/-- Write a key unless it is there: whether it was written, and the store after. -/
def setIfAbsent [DecidableEq Key] (now : Time) (key : Key) (last : Time) : Bool × Store Key Time :=
  if store.Live now key then (false, store) else (true, store.set key last)

variable {store} {now later : Time} {key other : Key} {last : Time}

theorem live_iff : store.Live now key ↔ ∃ last, store.deadline key = some last ∧ now < last := by
  rw [Live, Option.any_eq_true]
  simp only [decide_eq_true_eq]

theorem live_anti (live : store.Live later key) (earlier : now ≤ later) : store.Live now key := by
  obtain ⟨last, found, inside⟩ := live_iff.mp live
  exact live_iff.mpr ⟨last, found, lt_of_le_of_lt earlier inside⟩

variable [DecidableEq Key]

theorem live_set_of_ne (apart : key ≠ other) :
    (store.set other last).Live now key ↔ store.Live now key := by
  have same : (store.set other last).deadline key = store.deadline key :=
    Function.update_of_ne apart _ _
  rw [live_iff, live_iff, same]

theorem setIfAbsent_wrote (last : Time) : (store.setIfAbsent now key last).1 = true ↔ ¬ store.Live now key := by
  unfold setIfAbsent
  split
  · rename_i live
    simp [live]
  · rename_i absent
    simp [absent]

/-- **`setIfAbsent` keeps every key that is there**, until its own deadline. -/
theorem live_setIfAbsent (live : store.Live later key) (earlier : now ≤ later) :
    (store.setIfAbsent now other last).2.Live later key := by
  unfold setIfAbsent
  split
  · exact live
  · rename_i absent
    have apart : key ≠ other := by
      rintro rfl
      exact absent (live_anti live earlier)
    exact (live_set_of_ne apart).mpr live

end Store

end Expiring
