/-
**Sliding windows over a log of instants.**

* `recent`: the logged instants that a window ending now has not left behind;
* `within`: how many lie in the window that ends at an instant;
* `recent_recent`: what was left behind once is left behind later;
* `within_append_le`: a bound on every window survives one more instant, where the window that ends there
  had room.
-/

import Mathlib.Algebra.Order.Group.Defs
import Mathlib.Data.List.Basic

set_option linter.unusedSectionVars false

namespace SlidingWindow

variable {Time : Type} [AddCommGroup Time] [LinearOrder Time] [IsOrderedAddMonoid Time]
  {width now later : Time} {instants : List Time}

/-- The instants that a window ending now has not left behind. -/
def recent (width now : Time) (instants : List Time) : List Time :=
  instants.filter fun instant => decide (now - width < instant)

/-- How many instants lie in the window that ends at an instant. -/
def within (width last : Time) (instants : List Time) : Nat :=
  instants.countP fun instant => decide (last - width < instant ∧ instant ≤ last)

theorem mem_recent {instant : Time} :
    instant ∈ recent width now instants ↔ instant ∈ instants ∧ now - width < instant := by
  unfold recent
  rw [List.mem_filter, decide_eq_true_iff]

theorem recent_recent (earlier : now ≤ later) :
    recent width later (recent width now instants) = recent width later instants := by
  unfold recent
  rw [List.filter_filter]
  refine List.filter_congr fun instant _ => ?_
  by_cases inside : later - width < instant
  · simp [inside, lt_of_le_of_lt (sub_le_sub_right earlier width) inside]
  · simp [inside]

theorem recent_eq_nil (old : ∀ instant ∈ instants, instant ≤ now - width) : recent width now instants = [] := by
  unfold recent
  rw [List.filter_eq_nil_iff]
  intro instant member inside
  exact absurd (of_decide_eq_true inside) (not_lt.mpr (old instant member))

theorem recent_append (first second : List Time) :
    recent width now (first ++ second) = recent width now first ++ recent width now second :=
  List.filter_append ..

theorem within_eq_length (past : ∀ instant ∈ instants, instant ≤ now) :
    within width now instants = (recent width now instants).length := by
  unfold within recent
  rw [← List.countP_eq_length_filter]
  refine List.countP_congr fun instant member => ?_
  simp [past instant member]

theorem within_le_length {last : Time} (contains : now ≤ last) :
    within width last instants ≤ (recent width now instants).length := by
  unfold within recent
  rw [← List.countP_eq_length_filter]
  refine List.countP_mono_left fun instant member inside => ?_
  obtain ⟨new, -⟩ := of_decide_eq_true inside
  exact decide_eq_true (lt_of_le_of_lt (sub_le_sub_right contains width) new)

/-- **A bound on every window survives one more instant**, where the window that ends there had room. -/
theorem within_append_le {limit : Nat} (bounded : ∀ last, within width last instants ≤ limit)
    (room : (recent width now instants).length < limit) (last : Time) :
    within width last (instants ++ [now]) ≤ limit := by
  have parted : within width last (instants ++ [now]) =
      within width last instants + within width last [now] := List.countP_append ..
  by_cases inside : last - width < now ∧ now ≤ last
  · have one : within width last [now] = 1 := by simp [within, inside]
    have fewer : within width last instants ≤ (recent width now instants).length := within_le_length inside.2
    omega
  · have none : within width last [now] = 0 := by
      unfold within
      simpa using inside
    rw [parted, none]
    exact bounded last

end SlidingWindow
