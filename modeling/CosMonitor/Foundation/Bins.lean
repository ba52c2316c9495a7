/-
**Averages over disjoint classes of a list.**

* `sum_countP_le_length`: disjoint classes together hold at most every item, and exactly every item
  where each lies in one of them (`sum_countP_eq_length`);
* `mean_unit`: the mean of numbers of the unit interval lies in it;
* `weightedSum_unit`: a sum of class values of the unit interval, each weighted by the share of its
  class, lies in the unit interval.
-/

import Mathlib.Algebra.BigOperators.Field
import Mathlib.Algebra.BigOperators.Group.Finset.Piecewise
import Mathlib.Algebra.BigOperators.Ring.Finset
import Mathlib.Algebra.Order.BigOperators.Group.Finset
import Mathlib.Algebra.Order.Field.Rat
import Mathlib.Tactic.Linarith
import Mathlib.Tactic.Positivity

open Finset (range)

namespace Bins

/-! ### Disjoint classes -/

section Classes

variable {Item : Type} {inClass : Nat → Item → Bool} {classes : Nat}

/-- No item lies in two of the first `classes` classes. -/
def Disjoint (inClass : Nat → Item → Bool) (classes : Nat) : Prop :=
  ∀ item, ∀ first < classes, ∀ second < classes,
    inClass first item = true → inClass second item = true → first = second

theorem sum_mem_le_one (disjoint : Disjoint inClass classes) (item : Item) :
    (∑ index ∈ range classes, if inClass index item = true then 1 else 0) ≤ 1 := by
  rw [Finset.sum_boole, Nat.cast_id, Finset.card_le_one]
  intro first firstIn second secondIn
  rw [Finset.mem_filter, Finset.mem_range] at firstIn secondIn
  exact disjoint item first firstIn.1 second secondIn.1 firstIn.2 secondIn.2

theorem sum_countP_le_length (disjoint : Disjoint inClass classes) (items : List Item) :
    (∑ index ∈ range classes, items.countP (inClass index)) ≤ items.length := by
  induction items with
  | nil => simp
  | cons item rest ih =>
      have once := sum_mem_le_one disjoint item
      simp only [List.countP_cons, Finset.sum_add_distrib, List.length_cons]
      omega

theorem sum_mem_eq_one (disjoint : Disjoint inClass classes) {item : Item} {index : Nat}
    (inside : index < classes) (member : inClass index item = true) :
    (∑ index ∈ range classes, if inClass index item = true then 1 else 0) = 1 := by
  refine le_antisymm (sum_mem_le_one disjoint item) ?_
  rw [Finset.sum_boole, Nat.cast_id, Nat.one_le_iff_ne_zero, Finset.card_ne_zero]
  exact ⟨index, Finset.mem_filter.mpr ⟨Finset.mem_range.mpr inside, member⟩⟩

/-- **Disjoint classes that cover a list hold every item once.** -/
theorem sum_countP_eq_length (disjoint : Disjoint inClass classes) {items : List Item}
    (covered : ∀ item ∈ items, ∃ index < classes, inClass index item = true) :
    (∑ index ∈ range classes, items.countP (inClass index)) = items.length := by
  induction items with
  | nil => simp
  | cons item rest ih =>
      obtain ⟨index, inside, member⟩ := covered item List.mem_cons_self
      have once := sum_mem_eq_one disjoint inside member
      have others := ih fun other isOther => covered other (List.mem_cons_of_mem _ isOther)
      simp only [List.countP_cons, Finset.sum_add_distrib, List.length_cons]
      omega

/-- The sum of the class values, each weighted by the share of its class. -/
def weightedSum (inClass : Nat → Item → Bool) (classes : Nat) (value : Nat → ℚ)
    (items : List Item) : ℚ :=
  ∑ index ∈ range classes, (items.countP (inClass index) : ℚ) / items.length * value index

theorem weightedSum_unit (disjoint : Disjoint inClass classes) {value : Nat → ℚ}
    (unit : ∀ index < classes, 0 ≤ value index ∧ value index ≤ 1) (items : List Item) :
    0 ≤ weightedSum inClass classes value items ∧ weightedSum inClass classes value items ≤ 1 := by
  unfold weightedSum
  constructor
  · refine Finset.sum_nonneg fun index inside => mul_nonneg (by positivity) ?_
    exact (unit index (Finset.mem_range.mp inside)).1
  · calc (∑ index ∈ range classes,
          (items.countP (inClass index) : ℚ) / items.length * value index)
        ≤ ∑ index ∈ range classes, (items.countP (inClass index) : ℚ) / items.length := by
          refine Finset.sum_le_sum fun index inside => ?_
          exact mul_le_of_le_one_right (by positivity) (unit index (Finset.mem_range.mp inside)).2
      _ = ((∑ index ∈ range classes, items.countP (inClass index) : ℕ) : ℚ) / items.length := by
          rw [Nat.cast_sum, Finset.sum_div]
      _ ≤ 1 := by
          refine div_le_one_of_le₀ ?_ (Nat.cast_nonneg _)
          exact_mod_cast sum_countP_le_length disjoint items

end Classes

/-! ### Means -/

/-- The mean of a list of numbers; `0` for the empty list. -/
def mean (values : List ℚ) : ℚ :=
  values.sum / values.length

theorem mean_unit {values : List ℚ} (unit : ∀ value ∈ values, 0 ≤ value ∧ value ≤ 1) :
    0 ≤ mean values ∧ mean values ≤ 1 := by
  have bounds : 0 ≤ values.sum ∧ values.sum ≤ values.length := by
    induction values with
    | nil => simp
    | cons head tail ih =>
        obtain ⟨low, high⟩ := unit head List.mem_cons_self
        obtain ⟨tailLow, tailHigh⟩ := ih fun value member => unit value (List.mem_cons_of_mem _ member)
        rw [List.sum_cons, List.length_cons]
        push_cast
        constructor <;> linarith
  unfold mean
  exact ⟨div_nonneg bounds.1 (Nat.cast_nonneg _), div_le_one_of_le₀ bounds.2 (Nat.cast_nonneg _)⟩

theorem abs_sub_unit {first second : ℚ} (firstUnit : 0 ≤ first ∧ first ≤ 1)
    (secondUnit : 0 ≤ second ∧ second ≤ 1) : 0 ≤ |first - second| ∧ |first - second| ≤ 1 := by
  refine ⟨abs_nonneg _, abs_le.mpr ⟨?_, ?_⟩⟩ <;> linarith [firstUnit.1, firstUnit.2,
    secondUnit.1, secondUnit.2]

end Bins
