/-
**Pools of tasks — what is left of them when one goes on.**

A pool is the list of its running tasks. One of them goes on as another task, or ends; it is named by its
index.

* `mem_resume`: a task of the pool was there before, or is the one that the resumed task went on as;
* `mem_resume_iff`: in a pool whose tasks have different keys, exactly the resumed one is gone;
* `resume_nodup`: a task that keeps its key keeps the keys different.
-/

import Mathlib.Data.List.Nodup

namespace Tasks

variable {Task Key : Type}

/-- The task at an index goes on as the next one; `none` ends it. -/
def resume (index : Nat) (next : Option Task) (tasks : List Task) : List Task :=
  match next with
  | some task => tasks.set index task
  | none => tasks.eraseIdx index

variable {tasks : List Task} {index : Nat} {next : Option Task} {task other : Task} {key : Task → Key}

theorem mem_resume (member : other ∈ resume index next tasks) : other ∈ tasks ∨ next = some other := by
  cases next with
  | none => exact .inl (List.mem_of_mem_eraseIdx member)
  | some task =>
      rcases List.mem_or_eq_of_mem_set member with old | rfl
      · exact .inl old
      · exact .inr rfl

theorem key_ne (distinct : (tasks.map key).Nodup) (current : tasks[index]? = some task)
    {position : Nat} (placed : tasks[position]? = some other) (differ : position ≠ index) :
    key other ≠ key task := by
  intro same
  have inside : position < (tasks.map key).length := by
    rw [List.length_map]
    exact (List.getElem?_eq_some_iff.mp placed).1
  refine differ ((List.getElem?_inj inside distinct).mp ?_)
  rw [List.getElem?_map, List.getElem?_map, placed, current, Option.map_some, Option.map_some, same]

/-- **What is left**: the tasks with another key, and the one that the resumed task went on as. -/
theorem mem_resume_iff (distinct : (tasks.map key).Nodup) (current : tasks[index]? = some task) :
    other ∈ resume index next tasks ↔
      (other ∈ tasks ∧ key other ≠ key task) ∨ next = some other := by
  -- A task with another key has another place.
  have elsewhere : other ∈ tasks → key other ≠ key task →
      ∃ position, position ≠ index ∧ tasks[position]? = some other := by
    intro member differ
    obtain ⟨position, placed⟩ := List.mem_iff_getElem?.mp member
    refine ⟨position, ?_, placed⟩
    rintro rfl
    rw [current, Option.some.injEq] at placed
    exact differ (by rw [placed])
  cases next with
  | none =>
      simp only [resume, List.mem_eraseIdx_iff_getElem?, reduceCtorEq, or_false]
      constructor
      · rintro ⟨position, differ, placed⟩
        exact ⟨List.mem_of_getElem? placed, key_ne distinct current placed differ⟩
      · rintro ⟨member, differ⟩
        exact elsewhere member differ
  | some goesOn =>
      simp only [resume, List.mem_iff_getElem?, List.getElem?_set, Option.some.injEq]
      have indexInside : index < tasks.length := (List.getElem?_eq_some_iff.mp current).1
      constructor
      · rintro ⟨position, placed⟩
        by_cases here : index = position
        · rw [if_pos here, if_pos indexInside, Option.some.injEq] at placed
          exact .inr placed
        · rw [if_neg here] at placed
          exact .inl ⟨⟨position, placed⟩, key_ne distinct current placed (Ne.symm here)⟩
      · rintro (⟨⟨position, placed⟩, differ⟩ | isNext)
        · obtain ⟨position, differs, here⟩ := elsewhere (List.mem_of_getElem? placed) differ
          exact ⟨position, by rwa [if_neg (Ne.symm differs)]⟩
        · exact ⟨index, by rw [if_pos rfl, if_pos indexInside, isNext]⟩

theorem resume_nodup (distinct : (tasks.map key).Nodup) (current : tasks[index]? = some task)
    (same : ∀ other, next = some other → key other = key task) :
    ((resume index next tasks).map key).Nodup := by
  cases next with
  | none => exact distinct.sublist ((List.eraseIdx_sublist _ _).map key)
  | some other =>
      have unchanged : (tasks.set index other).map key = tasks.map key := by
        rw [List.map_set, same other rfl]
        refine List.ext_getElem? fun position => ?_
        rw [List.getElem?_set]
        split
        · rename_i here
          subst here
          rw [List.getElem?_map, current, Option.map_some, List.length_map,
            if_pos (List.getElem?_eq_some_iff.mp current).1]
        · rfl
      show ((tasks.set index other).map key).Nodup
      rw [unchanged]
      exact distinct

end Tasks
