/-
**Evenly spaced sequences, and the median of a list of numbers.**

* `Spaced`: from each item to the next the time grows by one period;
* `Spaced.window`: the items of a spaced sequence within a window are spaced again;
* `Spaced.sorted`: sorting a spaced sequence in disorder by time puts it back in order;
* `median`: the middle of the sorted values, or the mean of the two in the middle;
* `median_of_forall_eq`: the median of equal values is their value.
-/

import CosMonitor.Foundation.Sorting
import Mathlib.Algebra.Order.Field.Rat
import Mathlib.Algebra.Order.Ring.Int
import Mathlib.Data.List.GetD
import Mathlib.Tactic.Linarith

namespace Spacing

/-! ### Spaced sequences -/

section Spaced

variable {Item : Type} {time : Item → ℤ} {period : ℤ} {items other : List Item}

/-- From each item to the next the time grows by one period. -/
def Spaced (time : Item → ℤ) (period : ℤ) (items : List Item) : Prop :=
  items.IsChain fun first second => time second = time first + period

theorem Spaced.tail {first : Item} (spaced : Spaced time period (first :: items)) :
    Spaced time period items :=
  List.IsChain.of_cons spaced

theorem Spaced.pairwise (positive : 0 < period) (spaced : Spaced time period items) :
    items.Pairwise fun first second => time first < time second := by
  have ordered : items.IsChain fun first second => time first < time second :=
    List.IsChain.imp (fun first second step => by omega) spaced
  have : Trans (fun first second : Item => time first < time second)
      (fun first second => time first < time second) fun first second => time first < time second :=
    ⟨fun below above => lt_trans below above⟩
  exact List.isChain_iff_pairwise.mp ordered

theorem Spaced.pairs (spaced : Spaced time period items) :
    ∀ pair ∈ items.zip items.tail, time pair.2 - time pair.1 = period := by
  induction items with
  | nil => simp
  | cons first rest ih =>
      cases rest with
      | nil => simp
      | cons second later =>
          intro pair member
          rw [List.tail_cons, List.zip_cons_cons, List.mem_cons] at member
          rcases member with rfl | member
          · have step : time second = time first + period := (List.isChain_cons_cons.mp spaced).1
            show time second - time first = period
            omega
          · exact ih spaced.tail pair member

/-- **The items within a window are spaced again.** -/
theorem Spaced.window (positive : 0 < period) (low high : ℤ) (spaced : Spaced time period items) :
    Spaced time period
      (items.filter fun item => decide (low ≤ time item ∧ time item ≤ high)) := by
  induction items with
  | nil => exact List.IsChain.nil
  | cons first rest ih =>
      have rested := ih spaced.tail
      by_cases inside : low ≤ time first ∧ time first ≤ high
      · rw [List.filter_cons_of_pos (by simpa using inside)]
        cases rest with
        | nil => exact List.IsChain.singleton _
        | cons second later =>
            have step : time second = time first + period := (List.isChain_cons_cons.mp spaced).1
            by_cases next : time second ≤ high
            · have kept : low ≤ time second ∧ time second ≤ high := ⟨by omega, next⟩
              rw [List.filter_cons_of_pos (by simpa using kept)] at rested ⊢
              exact List.isChain_cons_cons.mpr ⟨step, rested⟩
            · -- past the end of the window there is nothing more
              have nothing : (second :: later).filter (fun item =>
                  decide (low ≤ time item ∧ time item ≤ high)) = [] := by
                refine List.filter_eq_nil_iff.mpr fun item member => ?_
                have after : time second ≤ time item := by
                  rcases List.mem_cons.mp member with rfl | later
                  · exact le_refl _
                  · exact (List.rel_of_pairwise_cons (spaced.tail.pairwise positive) later).le
                simp only [decide_eq_true_eq]
                omega
              rw [nothing]
              exact List.IsChain.singleton _
      · rw [List.filter_cons_of_neg (by simpa using inside)]
        exact rested

/-- **Sorting by time** puts a spaced sequence back in order. -/
theorem Spaced.sorted (positive : 0 < period) (spaced : Spaced time period items)
    (same : other.Perm items) : Sorting.sortBy time other = items :=
  Sorting.sortBy_eq same (spaced.pairwise positive)

end Spaced

/-! ### The median -/

/-- `statistics.median` of values that are not empty. -/
def median (values : List ℚ) : ℚ :=
  let sorted := Sorting.sortBy id values
  let middle := sorted.length / 2
  if sorted.length % 2 = 1 then sorted.getD middle 0
  else (sorted.getD (middle - 1) 0 + sorted.getD middle 0) / 2

/-- **The median of equal values is their value.** -/
theorem median_of_forall_eq {values : List ℚ} {value : ℚ} (present : values ≠ [])
    (equal : ∀ other ∈ values, other = value) : median values = value := by
  have sorted : Sorting.sortBy id values =
      List.replicate values.length value := by
    refine List.eq_replicate_iff.mpr ⟨Sorting.length_sortBy id values, fun other member => ?_⟩
    exact equal other (Sorting.mem_sortBy.mp member)
  have positive : 0 < values.length := List.length_pos_iff.mpr present
  have entry : ∀ index < values.length, (List.replicate values.length value).getD index 0 = value :=
    fun index inside => by
      rw [List.getD_eq_getElem _ _ (by simpa using inside), List.getElem_replicate]
  unfold median
  simp only [sorted, List.length_replicate]
  rw [entry _ (by omega), entry _ (by omega)]
  split
  · rfl
  · linarith

end Spacing
