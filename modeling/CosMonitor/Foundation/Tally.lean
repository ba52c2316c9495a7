/-
**Tallies: how much the items of a list say about a target, and dictionaries of counts.**

Each item points to a list of targets, possibly to one of them several times.

* `weigh`: over the items, how often an item points to the target, times the weight of the item;
* `weighOnce`: the same with every item counted once (`weigh_eq_weighOnce`);
* `weigh_one_eq_iff`: the items that point to the target are counted once each exactly when none of them
  points to it twice;
* `increment`, `total`: a dictionary of counts, kept in the order in which its keys came;
* `total_counts`, `lookup_counts`: counting a list gives its length, key by key.
-/

import Mathlib.Data.List.Count
import Mathlib.Algebra.GroupWithZero.Nat
import Mathlib.Algebra.BigOperators.Group.List.Basic

namespace Tally

variable {Item Target : Type} [DecidableEq Target]

/-- What the items say about a target. -/
def weigh (targets : Item → List Target) (weight : Item → Nat) (items : List Item) (target : Target) :
    Nat :=
  (items.map fun item => (targets item).count target * weight item).sum

variable {targets shown : Item → List Target} {weight : Item → Nat} {items part : List Item}
  {target : Target}

@[simp] theorem weigh_nil : weigh targets weight [] target = 0 := rfl

@[simp] theorem weigh_cons (item : Item) :
    weigh targets weight (item :: items) target =
      (targets item).count target * weight item + weigh targets weight items target := rfl

/-! ### Each item once -/

/-- What the items that point to a target weigh, each of them once. -/
def weighOnce (targets : Item → List Target) (weight : Item → Nat) (items : List Item)
    (target : Target) : Nat :=
  ((items.filter fun item => decide (target ∈ targets item)).map weight).sum

@[simp] theorem weighOnce_nil : weighOnce targets weight [] target = 0 := rfl

theorem weighOnce_cons (item : Item) :
    weighOnce targets weight (item :: items) target =
      (if target ∈ targets item then weight item else 0) + weighOnce targets weight items target := by
  unfold weighOnce
  by_cases points : target ∈ targets item
  · simp [points]
  · simp [points]

theorem weigh_eq_pointing :
    weigh targets weight items target =
      weighOnce targets (fun item => (targets item).count target * weight item) items target := by
  induction items with
  | nil => rfl
  | cons item rest ih =>
      rw [weigh_cons, weighOnce_cons, ih]
      by_cases points : target ∈ targets item
      · rw [if_pos points]
      · rw [if_neg points, List.count_eq_zero.mpr points, Nat.zero_mul]

theorem weigh_eq_weighOnce (once : ∀ item ∈ items, (targets item).count target ≤ 1) :
    weigh targets weight items target = weighOnce targets weight items target := by
  induction items with
  | nil => rfl
  | cons item rest ih =>
      obtain ⟨first, others⟩ := List.forall_mem_cons.mp once
      rw [weigh_cons, weighOnce_cons, ih others]
      by_cases points : target ∈ targets item
      · have isOne : (targets item).count target = 1 :=
          Nat.le_antisymm first (List.count_pos_iff.mpr points)
        rw [isOne, Nat.one_mul, if_pos points]
      · rw [List.count_eq_zero.mpr points, Nat.zero_mul, if_neg points]

theorem weighOnce_le : weighOnce targets weight items target ≤ weigh targets weight items target := by
  induction items with
  | nil => exact Nat.le_refl 0
  | cons item rest ih =>
      rw [weigh_cons, weighOnce_cons]
      refine Nat.add_le_add ?_ ih
      split
      · rename_i points
        exact Nat.le_mul_of_pos_left _ (List.count_pos_iff.mpr points)
      · exact Nat.zero_le _

/-- **The items are counted once each** exactly when none of them points to the target twice. -/
theorem weigh_one_eq_iff :
    weigh targets (fun _ => 1) items target = weighOnce targets (fun _ => 1) items target ↔
      ∀ item ∈ items, (targets item).count target ≤ 1 := by
  refine ⟨fun same => ?_, weigh_eq_weighOnce⟩
  induction items with
  | nil => exact fun _ member => nomatch member
  | cons item rest ih =>
      have below : weighOnce targets (fun _ => 1) rest target ≤ weigh targets (fun _ => 1) rest target :=
        weighOnce_le
      rw [weigh_cons, weighOnce_cons, Nat.mul_one] at same
      have first : (targets item).count target ≤ 1 ∧
          weigh targets (fun _ => 1) rest target = weighOnce targets (fun _ => 1) rest target := by
        split at same
        · rename_i points
          have positive := List.count_pos_iff.mpr points
          omega
        · rename_i absent
          have none := List.count_eq_zero.mpr absent
          omega
      exact List.forall_mem_cons.mpr ⟨first.1, ih first.2⟩

/-! ### Dictionaries of counts -/

section Counts

variable {Key : Type} [DecidableEq Key]

/-- `counts[key] = counts.get(key, 0) + 1`. -/
def increment (key : Key) : List (Key × Nat) → List (Key × Nat)
  | [] => [(key, 1)]
  | (other, count) :: rest =>
      if other = key then (other, count + 1) :: rest else (other, count) :: increment key rest

/-- The sum of the counts. -/
def total (counts : List (Key × Nat)) : Nat :=
  (counts.map Prod.snd).sum

/-- The counts of the keys of a list, on top of counts that are there. -/
def count (keys : List Key) (counts : List (Key × Nat)) : List (Key × Nat) :=
  keys.foldl (fun counted key => increment key counted) counts

theorem total_increment (key : Key) (counts : List (Key × Nat)) :
    total (increment key counts) = total counts + 1 := by
  induction counts with
  | nil => rfl
  | cons entry rest ih =>
      obtain ⟨other, count⟩ := entry
      unfold total at ih
      rw [increment]
      split
      · simp only [total, List.map_cons, List.sum_cons]
        omega
      · simp only [total, List.map_cons, List.sum_cons]
        omega

theorem lookup_entry (other target : Key) (count : Nat) (rest : List (Key × Nat)) :
    (((other, count) :: rest).lookup target).getD 0 =
      if other = target then count else (rest.lookup target).getD 0 := by
  rw [List.lookup_cons]
  by_cases same : other = target
  · simp [same]
  · simp [same, beq_false_of_ne (Ne.symm same)]

theorem lookup_increment (key target : Key) (counts : List (Key × Nat)) :
    ((increment key counts).lookup target).getD 0 =
      (counts.lookup target).getD 0 + if key = target then 1 else 0 := by
  induction counts with
  | nil => rw [increment, lookup_entry, List.lookup_nil, Option.getD_none, Nat.zero_add]
  | cons entry rest ih =>
      obtain ⟨other, count⟩ := entry
      rw [increment, lookup_entry]
      by_cases isKey : other = key
      · rw [if_pos isKey, lookup_entry, isKey]
        split <;> rfl
      · rw [if_neg isKey, lookup_entry, ih]
        split
        · rename_i isTarget
          rw [if_neg fun same => isKey (isTarget.trans same.symm), Nat.add_zero]
        · rfl

/-- **The counts of a list sum to its length.** -/
theorem total_counts (keys : List Key) (counts : List (Key × Nat)) :
    total (count keys counts) = total counts + keys.length := by
  induction keys generalizing counts with
  | nil => rfl
  | cons key rest ih =>
      show total (count rest (increment key counts)) = _
      rw [ih, total_increment, List.length_cons]
      omega

/-- **A key is counted as often as it occurs.** -/
theorem lookup_counts (keys : List Key) (target : Key) (counts : List (Key × Nat)) :
    ((count keys counts).lookup target).getD 0 =
      (counts.lookup target).getD 0 + keys.count target := by
  induction keys generalizing counts with
  | nil => rfl
  | cons key rest ih =>
      show ((count rest (increment key counts)).lookup target).getD 0 = _
      rw [ih, lookup_increment, List.count_cons]
      simp only [beq_iff_eq]
      omega

end Counts

end Tally
